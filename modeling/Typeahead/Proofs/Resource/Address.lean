import Typeahead.Proofs.Resource.Loading

/-!
# Loaders of addresses

Which loaders an address names, and in which faults they end. Main statements:
`eq_package_iff_of_ofAddress` and `isReadFailure_load_iff`. All of their faults say
that something could not be read, but for those of a package whose name is relative
or the name of a plain module.
-/

namespace Typeahead.Resource

open Typeahead.Text

variable {σ : Type}

/-! ## Packages that have no resources -/

/-- No resources can be under the name: it is relative, or the name of a plain
module. -/
def Packages.Bare (packages : Packages) (name : String) : Prop :=
  name.toList.head? = some '.' ∨ packages.lookup name = some .module

theorem Packages.isReadFailure_of_firstMissing {packages : Packages} {parent : Option String}
    {names : List String} {trouble : Trouble}
    (h : firstMissing packages parent names = some trouble) :
    (Fault.package trouble).isReadFailure = true := by
  -- Names that are installed are passed; the first that is not decides.
  fun_induction firstMissing packages parent names with
  | case1 => cases h
  | case2 parent name rest installed hfound ih => exact ih h
  | case3 name rest hmissing outer hmodule =>
      obtain rfl := Option.some.inj h
      rfl
  | case4 name rest hmissing outer hpackage =>
      obtain rfl := Option.some.inj h
      rfl
  | case5 name rest hmissing =>
      obtain rfl := Option.some.inj h
      rfl

/-- The folder of a package that has none could not be found, unless the name can
have no resources at all. -/
theorem Packages.isReadFailure_folderOf_iff {packages : Packages} {name : String}
    {trouble : Trouble} (h : packages.folderOf name = .error trouble) :
    (Fault.package trouble).isReadFailure = false ↔ packages.Bare name := by
  unfold folderOf at h
  split at h
  · next hrelative =>
      obtain rfl := Except.error.inj h
      exact ⟨fun _ => .inl hrelative, fun _ => rfl⟩
  · next hnamed =>
      split at h
      · cases h
      · next hmodule =>
          obtain rfl := Except.error.inj h
          exact ⟨fun _ => .inr hmodule, fun _ => rfl⟩
      · next hnone =>
          have hfound : (Fault.package trouble).isReadFailure = true := by
            obtain rfl := Except.error.inj h
            cases hmissing : firstMissing packages none (dottedHeads [] name.toList) with
            | none => rfl
            | some first => exact isReadFailure_of_firstMissing hmissing
          constructor
          · intro hfalse
            rw [hfound] at hfalse
            cases hfalse
          · rintro (hrelative | hmodule)
            · exact absurd hrelative hnamed
            · rw [hnone] at hmodule
              cases hmodule

theorem Packages.not_bare_of_folderOf {packages : Packages} {name : String} {folder : Path}
    (h : packages.folderOf name = .ok folder) : ¬ packages.Bare name := by
  unfold folderOf at h
  split at h
  · cases h
  · next hnamed =>
      rintro (hrelative | hmodule)
      · exact hnamed hrelative
      · rw [hmodule] at h
        cases h

/-! ## Addresses -/

theorem Origin.after?_eq_some_iff {scheme address rest : String} :
    after? scheme address = some rest ↔ address = scheme ++ rest := by
  unfold after?
  constructor
  · intro h
    split at h
    · next hscheme =>
        obtain rfl := Option.some.inj h
        obtain ⟨back, hback⟩ := List.isPrefixOf_iff_prefix.mp hscheme
        refine String.toList_injective ?_
        rw [String.toList_append, String.toList_ofList, ← hback, List.drop_left]
    · cases h
  · rintro rfl
    have hscheme : scheme.toList.isPrefixOf (scheme ++ rest).toList = true := by
      rw [List.isPrefixOf_iff_prefix, String.toList_append]
      exact List.prefix_append _ _
    rw [if_pos hscheme, String.toList_append, List.drop_left, String.ofList_toList]

theorem Origin.parse_eq_package_iff {address dotted : String} :
    parse address = .ok (.package dotted) ↔ address = "package://" ++ dotted ∧ dotted ≠ "" := by
  constructor
  · intro h
    unfold parse at h
    split at h
    · next name hname =>
        split at h
        · cases h
        · next hne =>
            obtain rfl := Origin.package.inj (Except.ok.inj h)
            exact ⟨after?_eq_some_iff.mp hname, hne⟩
    · split at h
      · cases h
      · split at h <;> cases h
  · rintro ⟨haddress, hne⟩
    rw [parse, after?_eq_some_iff.mpr haddress]
    exact if_neg hne

theorem Loader.of_ofAddress {address : String} {s : Surroundings σ} {loader : Loader σ}
    (h : (ofAddress address s).result = .ok loader) :
    (∃ dotted, Origin.parse address = .ok (.package dotted) ∧ loader = .package dotted) ∨
      (∃ root, Origin.parse address = .ok (.directory root) ∧ loader = .directory root) ∨
      Origin.parse address = .ok .memory ∧ ∃ store, loader = .memory store := by
  unfold ofAddress at h
  cases horigin : Origin.parse address with
  | error trouble =>
      rw [horigin] at h
      cases h
  | ok origin =>
      rw [horigin, Action.result_bind_of_ok (a := origin) rfl] at h
      cases origin with
      | package dotted => exact .inl ⟨dotted, rfl, (Except.ok.inj h).symm⟩
      | directory root => exact .inr (.inl ⟨root, rfl, (Except.ok.inj h).symm⟩)
      | memory => exact .inr (.inr ⟨rfl, _, (Except.ok.inj h).symm⟩)

theorem Loader.ne_custom_of_ofAddress {address : String} {s : Surroundings σ} {loader : Loader σ}
    (h : (ofAddress address s).result = .ok loader)
    (load : Value → Host σ (Option Octets)) : loader ≠ .custom load := by
  rcases of_ofAddress h with ⟨dotted, -, rfl⟩ | ⟨root, -, rfl⟩ | ⟨-, store, rfl⟩
  all_goals
    intro hload
    cases hload

/-- **The address of a package** is the only one whose loader is that of the package. -/
theorem Loader.eq_package_iff_of_ofAddress {address dotted : String} {s : Surroundings σ}
    {loader : Loader σ} (h : (ofAddress address s).result = .ok loader) :
    loader = .package dotted ↔ address = "package://" ++ dotted ∧ dotted ≠ "" := by
  rw [← Origin.parse_eq_package_iff]
  rcases of_ofAddress h with ⟨other, hparse, rfl⟩ | ⟨root, hparse, rfl⟩ | ⟨hparse, store, rfl⟩ <;>
    simp [hparse]

/-! ## Faults -/

/-- A file that has no content is one that could not be read. -/
theorem Surroundings.isReadFailure_of_readFile {root : Path} {name : String}
    {s : Surroundings σ} {fault : Fault}
    (h : (readFile root (.text name) s).result = .error fault) : fault.isReadFailure = true := by
  rw [result_readFile] at h
  cases hread : s.disk.read (root.join (Path.parse name)) with
  | ok content =>
      rw [hread] at h
      cases h
  | error path =>
      rw [hread] at h
      obtain rfl := Except.error.inj h
      rfl

/-- **In which faults loading ends.** The host's own loaders apart, they say that
something could not be read, unless a package can have no resources; and such a
package gives nothing. -/
theorem Loader.isReadFailure_load_iff {loader : Loader σ} (hloader : ∀ load, loader ≠ .custom load)
    (name : String) (s : Surroundings σ) :
    (∃ fault, (loader.load (.text name) s).result = .error fault ∧ fault.isReadFailure = false) ↔
      ∃ dotted, loader = .package dotted ∧ s.packages.Bare dotted := by
  cases loader with
  | package dotted =>
      rw [result_load_package]
      cases hfolder : s.packages.folderOf dotted with
      | error trouble =>
          have hiff := Packages.isReadFailure_folderOf_iff hfolder
          constructor
          · rintro ⟨fault, hfault, hfalse⟩
            obtain rfl := Except.error.inj hfault
            exact ⟨dotted, rfl, hiff.mp hfalse⟩
          · rintro ⟨other, hother, hbare⟩
            obtain rfl := Loader.package.inj hother
            exact ⟨_, rfl, hiff.mpr hbare⟩
      | ok root =>
          constructor
          · rintro ⟨fault, hfault, hfalse⟩
            rw [Surroundings.isReadFailure_of_readFile hfault] at hfalse
            cases hfalse
          · rintro ⟨other, hother, hbare⟩
            obtain rfl := Loader.package.inj hother
            exact absurd hbare (Packages.not_bare_of_folderOf hfolder)
  | directory root =>
      rw [result_load_directory]
      constructor
      · rintro ⟨fault, hfault, hfalse⟩
        rw [Surroundings.isReadFailure_of_readFile hfault] at hfalse
        cases hfalse
      · rintro ⟨dotted, hpackage, -⟩
        cases hpackage
  | memory store =>
      rw [result_load_memory]
      constructor
      · rintro ⟨fault, hfault, -⟩
        cases hfault
      · rintro ⟨dotted, hpackage, -⟩
        cases hpackage
  | custom load => exact absurd rfl (hloader load)

end Typeahead.Resource
