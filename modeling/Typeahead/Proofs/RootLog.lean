import Typeahead.Proofs.Action
import Typeahead.RootLog

/-!
# Configuring the root log

What one who configures the root log finds and leaves. Main statements:
`configured_setup` and `fails_setup` for a root log without handlers, `setup_of_handlers`
for one that has some, and from these `configured_setups`: of any number of callers the
first decides.
-/

namespace Typeahead

def Fault.IsOfLevel : Fault → Prop
  | .unknownLevel _ | .misfit .notLevel => True
  | _ => False

namespace RootLog

/-! ## Levels -/

/-- A value stands for a level: a number or a truth value for itself, and a name for its
number. -/
inductive Means : Value → Value → Prop where
  | int (n : Int) : Means (.int n) (.int n)
  | bool (b : Bool) : Means (.bool b) (.bool b)
  | name {name : String} {n : Int} (h : (name, n) ∈ levelNames) : Means (.text name) (.int n)

/-- A value that is not empty and stands for no level. -/
def IsInvalid (level : Value) : Prop :=
  level ≠ .null ∧ ∀ value, ¬ Means level value

theorem not_means_null (value : Value) : ¬ Means .null value := by
  rintro ⟨⟩

theorem lookup_levelNames {name : String} {n : Int} (h : (name, n) ∈ levelNames) :
    levelNames.lookup name = some n := by
  simp only [levelNames, List.mem_cons, Prod.mk.injEq, List.not_mem_nil, or_false] at h
  rcases h with ⟨rfl, rfl⟩ | ⟨rfl, rfl⟩ | ⟨rfl, rfl⟩ | ⟨rfl, rfl⟩ | ⟨rfl, rfl⟩ | ⟨rfl, rfl⟩ |
    ⟨rfl, rfl⟩ | ⟨rfl, rfl⟩ <;> rfl

theorem levelOf?_of_means {level value : Value} (h : Means level value) :
    levelOf? level = .ok (some value) := by
  cases h with
  | int n => rfl
  | bool b => rfl
  | name h => rw [levelOf?, lookup_levelNames h]

/-- A value is empty, or stands for a level, or there is a fault of its level. -/
theorem levelOf?_cases (level : Value) :
    (level = .null ∧ levelOf? level = .ok none) ∨
    (∃ value, Means level value ∧ levelOf? level = .ok (some value)) ∨
    (IsInvalid level ∧ ∃ fault, fault.IsOfLevel ∧ levelOf? level = .error fault) := by
  -- Where there is a fault, no level was meant.
  have hinvalid (fault : Fault) (hfault : fault.IsOfLevel) (h : levelOf? level = .error fault) :
      IsInvalid level ∧ ∃ fault, fault.IsOfLevel ∧ levelOf? level = .error fault := by
    refine ⟨⟨?_, fun value hmeans => ?_⟩, fault, hfault, h⟩
    · rintro rfl
      cases h
    · rw [levelOf?_of_means hmeans] at h
      cases h
  cases level with
  | null => exact .inl ⟨rfl, rfl⟩
  | int n => exact .inr (.inl ⟨.int n, .int n, rfl⟩)
  | bool b => exact .inr (.inl ⟨.bool b, .bool b, rfl⟩)
  | text name =>
    cases hlookup : levelNames.lookup name with
    | none =>
      refine .inr (.inr (hinvalid (.unknownLevel name) trivial ?_))
      rw [levelOf?, hlookup]
    | some n =>
      obtain ⟨front, back, hnames, -⟩ := List.lookup_eq_some_iff.mp hlookup
      have hmem : (name, n) ∈ levelNames := by
        rw [hnames]
        exact List.mem_append_right _ List.mem_cons_self
      exact .inr (.inl ⟨.int n, .name hmem, levelOf?_of_means (.name hmem)⟩)
  | real _ | nan | list _ | table _ =>
    exact .inr (.inr (hinvalid (.misfit .notLevel) trivial rfl))

/-! ## One caller -/

theorem silent_setup (level : Value) : (setup level).Silent := by
  refine (Action.silent_read _).bind fun handlers => ?_
  split
  · refine (Action.silent_modify _).bind fun _ => ?_
    refine (Action.silent_ofExcept _).bind fun level => ?_
    cases level with
    | none => exact Action.silent_pure ()
    | some level => exact Action.silent_modify _
  · exact Action.silent_pure ()

theorem result_setup_info (log : RootLog) : (setup (.int info) log).result = .ok () := by
  rw [setup, Action.read_bind]
  split <;> rfl

theorem setup_of_handlers {log : RootLog} (h : log.handlers ≠ []) (level : Value) :
    setup level log = ⟨.ok (), log, []⟩ := by
  rw [setup, Action.read_bind, if_neg h]
  rfl

theorem setup_of_bare {log : RootLog} (h : log.handlers = []) (level : Value) :
    setup level log = ⟨(levelOf? level).map fun _ => (),
      match levelOf? level with
      | .ok (some value) => ⟨value, [.error]⟩
      | _ => ⟨log.level, [.error]⟩, []⟩ := by
  rw [setup, Action.read_bind, if_pos h]
  cases levelOf? level with
  | error fault => rfl
  | ok level? =>
    cases level? with
    | none => rfl
    | some value => rfl

/-- What is left of a root log that was configured when it had no handlers: there is one,
on the standard error stream, and the level was set if the value stands for one. -/
structure Configured (log : RootLog) (level : Value) (log' : RootLog) : Prop where
  handlers : log'.handlers = [.error]
  level_of_means : ∀ value, Means level value → log'.level = value
  level_of_not_means : (∀ value, ¬ Means level value) → log'.level = log.level

theorem Configured.handlers_ne_nil {log log' : RootLog} {level : Value}
    (h : Configured log level log') : log'.handlers ≠ [] := by
  rw [h.handlers]
  exact List.cons_ne_nil _ _

/-- **The first caller** adds a handler, whatever the level. -/
theorem configured_setup {log : RootLog} (h : log.handlers = []) (level : Value) :
    log.Configured level (setup level log).state := by
  rw [setup_of_bare h]
  rcases levelOf?_cases level with ⟨rfl, hlevel⟩ | ⟨value, hmeans, hlevel⟩ |
    ⟨hinvalid, fault, -, hlevel⟩
  · rw [hlevel]
    exact ⟨rfl, fun value hmeans => (not_means_null value hmeans).elim, fun _ => rfl⟩
  · rw [hlevel]
    refine ⟨rfl, fun other hother => ?_, fun hnone => (hnone value hmeans).elim⟩
    rw [levelOf?_of_means hother] at hlevel
    exact (Option.some.inj (Except.ok.inj hlevel)).symm
  · rw [hlevel]
    exact ⟨rfl, fun value hmeans => (hinvalid.2 value hmeans).elim, fun _ => rfl⟩

/-- **It fails** if and only if the level is invalid, and then with a fault of its level. -/
theorem fails_setup {log : RootLog} (h : log.handlers = []) (level : Value) :
    (IsInvalid level → ∃ fault : Fault, fault.IsOfLevel ∧
      (setup level log).result = .error fault) ∧
    (¬ IsInvalid level → (setup level log).result = .ok ()) := by
  rw [setup_of_bare h]
  rcases levelOf?_cases level with ⟨rfl, hlevel⟩ | ⟨value, hmeans, hlevel⟩ |
    ⟨hinvalid, fault, hfault, hlevel⟩
  · rw [hlevel]
    exact ⟨fun hinvalid => (hinvalid.1 rfl).elim, fun _ => rfl⟩
  · rw [hlevel]
    exact ⟨fun hinvalid => (hinvalid.2 value hmeans).elim, fun _ => rfl⟩
  · rw [hlevel]
    exact ⟨fun _ => ⟨fault, hfault, rfl⟩, fun hvalid => (hvalid hinvalid).elim⟩

/-! ## Any number of callers -/

def setups (log : RootLog) (levels : List Value) : RootLog :=
  levels.foldl (fun log level => (setup level log).state) log

theorem setups_append (log : RootLog) (levels more : List Value) :
    log.setups (levels ++ more) = (log.setups levels).setups more :=
  List.foldl_append

theorem setups_of_handlers {log : RootLog} (h : log.handlers ≠ []) (levels : List Value) :
    log.setups levels = log := by
  induction levels with
  | nil => rfl
  | cons level rest ih =>
    rw [setups, List.foldl_cons, setup_of_handlers h]
    exact ih

/-- **The first of any number of callers** decides. -/
theorem configured_setups {log : RootLog} (h : log.handlers = []) (level : Value)
    (rest : List Value) : log.Configured level (log.setups (level :: rest)) := by
  have hfirst := configured_setup h level
  rw [setups, List.foldl_cons]
  rw [show List.foldl _ _ rest = _ from setups_of_handlers hfirst.handlers_ne_nil rest]
  exact hfirst

end RootLog

end Typeahead
