import Typeahead.Proofs.Resource.Address
import Typeahead.Proofs.WordList.Reading

/-!
# When a list is available

A cache over the loader of an address has a list for every code, as long as the
configuration is the one made from the environment, but for one kind of address:
that of a package that can have no resources. Main statement: `exists_get_iff`.
-/

namespace Typeahead.Cache

open Typeahead.Resource

variable {σ : Type}

/-! ## Lists that are read -/

/-- What can be read has a list, unless the loader ends in a fault other than that
something could not be read. -/
theorem exists_listRead_iff {config : Config} (hconfig : config.Reads) (loader : Loader σ)
    {code : String} (hcode : WordList.isCode code = true) (s : Surroundings σ) :
    ∃ name, config.nameOf code = .ok name ∧
      ((∃ list, listRead config loader code s = .ok list) ↔
        ¬ ∃ fault, (loader.load (.text name) s).result = .error fault ∧
          fault.isReadFailure = false) := by
  obtain ⟨name, hname⟩ := hconfig.named code hcode
  have hlist : listRead config loader code s =
      config.wordsIn (loader.load (.text name) s).result := by
    rw [listRead, hname]
    rfl
  refine ⟨name, hname, ?_⟩
  rw [hlist]
  constructor
  · rintro ⟨list, hwords⟩ ⟨fault, hfault, hfalse⟩
    rw [hfault, Config.wordsIn, hfalse] at hwords
    cases hwords
  · intro hnone
    refine hconfig.exists_wordsIn fun fault hfault => ?_
    cases hfailure : fault.isReadFailure with
    | true => rfl
    | false => exact absurd ⟨fault, hfault, hfailure⟩ hnone

theorem exists_get_of_missing_iff (config : Config) {cache : Cache σ} {code : String}
    (hcode : WordList.isCode code = true) (h : cache.find? code = none) (s : Surroundings σ) :
    (∃ list kept, (cache.get config code s).result = .ok (list, kept)) ↔
      ∃ list, listRead config cache.loader code s = .ok list := by
  rw [get_of_missing config hcode h]
  cases listRead config cache.loader code s with
  | error fault =>
      constructor
      · rintro ⟨_, _, hget⟩
        cases hget
      · rintro ⟨_, hlist⟩
        cases hlist
  | ok list => exact ⟨fun _ => ⟨list, rfl⟩, fun _ => ⟨list, _, rfl⟩⟩

/-- **When a cache answers.** Its loader is that of an address. For every code it
has a list, unless the list would have to be read from a package whose name is
relative or the name of a plain module: then there is a fault. -/
theorem exists_get_iff (address : String) (made : Surroundings σ) (cache : Cache σ)
    (hloader : (Loader.ofAddress address made).result = .ok cache.loader)
    (bundled : String) (vars : Variables) (code : String) (s : Surroundings σ) :
    (∃ list kept, (cache.get (Config.ofVariables bundled vars) code s).result =
        .ok (list, kept)) ↔
      ¬ (WordList.isCode code = true ∧ cache.find? code = none ∧
        ∃ dotted, address = "package://" ++ dotted ∧ dotted ≠ "" ∧ s.packages.Bare dotted) := by
  cases hcode : WordList.isCode code with
  | false =>
      rw [get_of_not_isCode _ _ hcode]
      exact ⟨fun _ ⟨hfalse, _⟩ => Bool.false_ne_true hfalse, fun _ => ⟨_, _, rfl⟩⟩
  | true =>
      cases hfind : cache.find? code with
      | some list =>
          rw [get_of_kept _ hcode hfind]
          exact ⟨fun _ ⟨_, hnone, _⟩ => Option.some_ne_none _ hnone, fun _ => ⟨_, _, rfl⟩⟩
      | none =>
          -- The list has to be read, so all depends on the loader.
          obtain ⟨name, -, hread⟩ :=
            exists_listRead_iff (Config.reads_ofVariables bundled vars) cache.loader hcode s
          have hpackage (dotted : String) :
              cache.loader = .package dotted ↔ address = "package://" ++ dotted ∧ dotted ≠ "" :=
            Loader.eq_package_iff_of_ofAddress hloader
          rw [exists_get_of_missing_iff _ hcode hfind, hread,
            Loader.isReadFailure_load_iff (Loader.ne_custom_of_ofAddress hloader)]
          simp only [hpackage, true_and, and_assoc]

/-- A package that is not installed has empty lists, and a list that is kept needs
no package. -/
theorem exists_get_missing_package :
    let s : Surroundings Unit := { host := () }
    let config := Config.ofVariables "lists" {}
    let missing : Cache Unit := ⟨.package "words", []⟩
    let relative : Cache Unit := ⟨.package ".words", [("en", ["tea"])]⟩
    ((Loader.ofAddress "package://words" s).result = .ok missing.loader ∧
        ∃ list kept, (missing.get config "en" s).result = .ok (list, kept)) ∧
      ((Loader.ofAddress "package://.words" s).result = .ok relative.loader ∧
        ∃ list kept, (relative.get config "en" s).result = .ok (list, kept)) := by
  intro s config missing relative
  constructor
  · refine ⟨rfl, (exists_get_iff "package://words" s missing rfl "lists" {} "en" s).mpr ?_⟩
    rintro ⟨-, -, dotted, haddress, -, hbare⟩
    obtain rfl : dotted = "words" := (String.append_right_inj "package://").mp haddress.symm
    rcases hbare with hrelative | hmodule
    · revert hrelative
      decide
    · cases hmodule
  · refine ⟨rfl, (exists_get_iff "package://.words" s relative rfl "lists" {} "en" s).mpr ?_⟩
    rintro ⟨-, hnone, -⟩
    cases hnone

/-- A relative name is refused when the first list is asked for. -/
theorem get_relative_package :
    let s : Surroundings Unit := { host := () }
    (Loader.ofAddress "package://.words" s).result = .ok (.package ".words") ∧
      (get (Config.ofVariables "lists" {}) ⟨.package ".words", []⟩ "en" s).result =
        .error (.package .relative) := by
  intro s
  refine ⟨rfl, ?_⟩
  have hcode : WordList.isCode "en" = true := by decide
  rw [get_of_missing _ hcode rfl, listRead, Config.nameOf_stock rfl]
  rfl

end Typeahead.Cache
