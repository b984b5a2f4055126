import Typeahead.Proofs.Action
import Typeahead.Resource.Loader

/-!
# Loading

Loading asks a loader once and puts nothing on a shelf: the disk, the packages
and the resources in memory stay what they are. Main statements: `calls_load`,
`keeps_load` and, for the loaders that are not the host's, `steady_load`: as long
as the shelves are the same, so is the outcome of each name.
-/

namespace Typeahead.Resource

open Typeahead.Text

variable {σ α : Type}

/-! ## Shelves -/

/-- The same can be loaded: what differs is the host's state and how often a name
has been read. -/
structure Surroundings.SameShelves (s t : Surroundings σ) : Prop where
  disk : t.disk = s.disk
  packages : t.packages = s.packages
  items : ∀ id, (t.stores.row id).items = (s.stores.row id).items

theorem Surroundings.SameShelves.refl (s : Surroundings σ) : s.SameShelves s :=
  ⟨rfl, rfl, fun _ => rfl⟩

theorem Surroundings.SameShelves.symm {s t : Surroundings σ} (h : s.SameShelves t) :
    t.SameShelves s :=
  ⟨h.disk.symm, h.packages.symm, fun id => (h.items id).symm⟩

theorem Surroundings.SameShelves.trans {s t u : Surroundings σ} (h : s.SameShelves t)
    (h' : t.SameShelves u) : s.SameShelves u :=
  ⟨h'.disk.trans h.disk, h'.packages.trans h.packages,
    fun id => (h'.items id).trans (h.items id)⟩

instance : IsPreorder (Surroundings σ) Surroundings.SameShelves where
  refl := .refl
  trans _ _ _ := .trans

theorem Surroundings.keeps_onHost (action : Action σ α) :
    (Surroundings.onHost action).Keeps Surroundings.SameShelves :=
  fun _ => ⟨rfl, rfl, fun _ => rfl⟩

/-! ## Reading -/

theorem Surroundings.silent_readFile (root : Path) (name : Value) :
    (readFile root name : Action (Surroundings σ) _).Silent :=
  (Action.silent_ofExcept _).bind fun _ =>
    (Action.silent_read _).bind fun _ => Action.silent_ofExcept _

theorem Surroundings.silent_readStore (id : Nat) (name : Value) :
    (readStore id name : Action (Surroundings σ) _).Silent :=
  (Action.silent_ofExcept _).bind fun _ =>
    (Action.silent_read _).bind fun _ =>
      (Action.silent_modify _).bind fun _ => Action.silent_pure _

theorem Surroundings.keeps_readFile (root : Path) (name : Value) :
    (readFile root name : Action (Surroundings σ) _).Keeps SameShelves :=
  (Action.keeps_of_same fun _ => rfl).bind fun _ =>
    (Action.keeps_of_same fun _ => rfl).bind fun _ => Action.keeps_of_same fun _ => rfl

theorem Surroundings.sameShelves_countRead (s : Surroundings σ) (id : Nat) (key : Key)
    (name : Value) :
    s.SameShelves { s with stores := s.stores.set id ((s.stores.row id).countRead key name) } := by
  refine ⟨rfl, rfl, fun other => ?_⟩
  by_cases h : other = id
  · subst h
    rw [Table.row_set_self]
    rfl
  · rw [Table.row_set_of_ne _ _ h]

/-- Reading from memory counts the reading and changes no resource. -/
theorem Surroundings.keeps_readStore (id : Nat) (name : Value) :
    (readStore id name : Action (Surroundings σ) _).Keeps SameShelves := by
  intro s
  cases hkey : name.key with
  | error misfit =>
      rw [readStore, hkey]
      exact SameShelves.refl s
  | ok key =>
      rw [readStore, hkey]
      exact sameShelves_countRead s id key name

/-! ## Loaders -/

/-- **Loading asks once.** -/
theorem Loader.calls_load (loader : Loader σ) (name : Value) (s : Surroundings σ) :
    Event.calls (loader.load name s).events = [.load name] := by
  -- All but the host's loaders report the call and then read in silence.
  have emitted : ∀ rest : Unit → Action (Surroundings σ) (Option Octets),
      (rest ()).Silent →
      Event.calls ((Action.emit (.call (.load name)) >>= rest) s).events = [.load name] := by
    intro rest hrest
    rw [Action.bind_of_ok (a := ()) rfl]
    show Event.calls (_ ++ (rest () s).events) = _
    rw [hrest s]
    rfl
  cases loader with
  | package dotted =>
      exact emitted _ ((Action.silent_read _).bind fun _ =>
        (Action.silent_ofExcept _).bind fun _ => Surroundings.silent_readFile _ _)
  | directory root => exact emitted _ (Surroundings.silent_readFile _ _)
  | memory store => exact emitted _ (Surroundings.silent_readStore _ _)
  | custom f =>
      show Event.calls (Action.ask (.load name) (f name) s.host).events = _
      rw [Action.ask_apply]
      by_cases h : ((f name) s.host).printed = "" <;> simp [h, Event.calls, Event.call?]

/-- **Loading leaves the shelves as they are.** -/
theorem Loader.keeps_load (loader : Loader σ) (name : Value) :
    (loader.load name).Keeps Surroundings.SameShelves := by
  have emitted : ∀ rest : Unit → Action (Surroundings σ) (Option Octets),
      (rest ()).Keeps Surroundings.SameShelves →
      (Action.emit (.call (.load name)) >>= rest).Keeps Surroundings.SameShelves :=
    fun rest hrest => (Action.keeps_of_same fun _ => rfl).bind fun _ => hrest
  cases loader with
  | package dotted =>
      exact emitted _ ((Action.keeps_of_same fun _ => rfl).bind fun _ =>
        (Action.keeps_of_same fun _ => rfl).bind fun _ => Surroundings.keeps_readFile _ _)
  | directory root => exact emitted _ (Surroundings.keeps_readFile root name)
  | memory store => exact emitted _ (Surroundings.keeps_readStore store name)
  | custom f => exact Surroundings.keeps_onHost _

/-! ## Steady loaders -/

/-- As long as the shelves are those of `s`, the outcome of each name is the same. -/
def Loader.Steady (loader : Loader σ) (s : Surroundings σ) : Prop :=
  ∀ t, s.SameShelves t → ∀ name : String,
    (loader.load (.text name) t).result = (loader.load (.text name) s).result

theorem Loader.Steady.of_sameShelves {loader : Loader σ} {s t : Surroundings σ}
    (h : loader.Steady s) (hst : s.SameShelves t) : loader.Steady t := by
  intro u htu name
  rw [h u (hst.trans htu), h t hst]

theorem Surroundings.result_readFile (root : Path) (name : String) (s : Surroundings σ) :
    (readFile root (.text name) s).result =
      (s.disk.read (root.join (Path.parse name))).mapError fun path =>
        .nameTooLong path.render := by
  simp only [readFile, Action.bind_apply, Action.ofExcept_apply, Value.textOr_text,
    Action.read_apply]

theorem Loader.result_load_directory (root : Path) (name : String) (s : Surroundings σ) :
    ((Loader.directory root).load (.text name) s).result =
      (Surroundings.readFile root (.text name) s).result :=
  Action.result_bind_of_ok (a := ()) rfl

theorem Loader.result_load_package (dotted name : String) (s : Surroundings σ) :
    ((Loader.package dotted).load (.text name) s).result =
      ((s.packages.folderOf dotted).mapError Fault.package).bind fun root =>
        (Surroundings.readFile root (.text name) s).result := by
  rw [load, Action.result_bind_of_ok (a := ()) rfl, Action.result_bind_of_ok (a := s.packages) rfl]
  cases h : s.packages.folderOf dotted with
  | error trouble =>
      rw [Action.bind_apply]
      rfl
  | ok root => exact Action.result_bind_of_ok (a := root) rfl

theorem Loader.result_load_memory (store : Nat) (name : String) (s : Surroundings σ) :
    ((Loader.memory store).load (.text name) s).result =
      .ok ((s.stores.row store).items.lookup (.text name)) := rfl

/-- **Packages, directories and memory are steady.** -/
theorem Loader.steady_load (loader : Loader σ) (s : Surroundings σ)
    (h : ∀ load, loader ≠ .custom load) : loader.Steady s := by
  intro t hst name
  cases loader with
  | package dotted =>
      simp only [result_load_package, Surroundings.result_readFile, hst.packages, hst.disk]
  | directory root =>
      simp only [result_load_directory, Surroundings.result_readFile, hst.disk]
  | memory store => rw [result_load_memory, result_load_memory, hst.items]
  | custom load => exact absurd rfl (h load)

end Typeahead.Resource
