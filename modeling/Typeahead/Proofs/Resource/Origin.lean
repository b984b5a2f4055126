import Typeahead.Proofs.Resource.Address
import Typeahead.Proofs.Resource.Path

/-!
# What addresses name

An address names a package, a folder or a new store by how it begins, or it names nothing.
Main statements: `Loader.named_ofAddress`, with one case for each beginning, and
`loader_of_every_address`: the folder of an address is in normal form, so the address that
is made of its text names it again.
-/

namespace Typeahead.Resource

variable {σ : Type}

namespace Origin

/-! ## Beginnings -/

def schemes : List String :=
  ["package://", "file://", "memory://"]

/-- The address begins with no scheme. -/
def IsForeign (address : String) : Prop :=
  ∀ scheme ∈ schemes, ∀ rest, address ≠ scheme ++ rest

theorem after?_eq_none_iff {scheme address : String} :
    after? scheme address = none ↔ ∀ rest, address ≠ scheme ++ rest := by
  simp only [Option.eq_none_iff_forall_ne_some, ne_eq, after?_eq_some_iff]

theorem append_ne_append {front other : String} (h : front.toList.head? ≠ other.toList.head?)
    (hfront : front.toList ≠ []) (hother : other.toList ≠ []) (rest rest' : String) :
    front ++ rest ≠ other ++ rest' := by
  intro heq
  have hhead := congrArg (fun text => text.toList.head?) heq
  simp only [String.toList_append] at hhead
  rw [List.head?_append_of_ne_nil _ hfront, List.head?_append_of_ne_nil _ hother] at hhead
  exact h hhead

theorem file_ne_package (path dotted : String) : "file://" ++ path ≠ "package://" ++ dotted :=
  append_ne_append (by decide) (by decide) (by decide) path dotted

theorem memory_ne_package (rest dotted : String) : "memory://" ++ rest ≠ "package://" ++ dotted :=
  append_ne_append (by decide) (by decide) (by decide) rest dotted

theorem memory_ne_file (rest path : String) : "memory://" ++ rest ≠ "file://" ++ path :=
  append_ne_append (by decide) (by decide) (by decide) rest path

/-! ## Each beginning -/

theorem parse_package {dotted : String} (h : dotted ≠ "") :
    parse ("package://" ++ dotted) = .ok (.package dotted) :=
  parse_eq_package_iff.mpr ⟨rfl, h⟩

theorem parse_package_alone : parse "package://" = .error (.missingPackage "package://") := by
  decide

theorem parse_file (path : String) :
    parse ("file://" ++ path) = .ok (.directory (Path.parse path)) := by
  rw [parse, after?_eq_none_iff.mpr (file_ne_package path), after?_eq_some_iff.mpr rfl]

theorem parse_memory (rest : String) : parse ("memory://" ++ rest) = .ok .memory := by
  rw [parse, after?_eq_none_iff.mpr (memory_ne_package rest),
    after?_eq_none_iff.mpr (memory_ne_file rest), after?_eq_some_iff.mpr rfl]

theorem parse_of_isForeign {address : String} (h : IsForeign address) :
    parse address = .error (.unsupported address) := by
  rw [parse, after?_eq_none_iff.mpr (h _ (by decide)), after?_eq_none_iff.mpr (h _ (by decide)),
    after?_eq_none_iff.mpr (h _ (by decide))]

/-- An address that is not foreign begins with a scheme. -/
theorem exists_scheme_of_not_isForeign {address : String} (h : ¬ IsForeign address) :
    ∃ rest, address = "package://" ++ rest ∨ address = "file://" ++ rest ∨
      address = "memory://" ++ rest := by
  simp only [IsForeign, ne_eq, not_forall, not_not] at h
  obtain ⟨scheme, hscheme, rest, rfl⟩ := h
  simp only [schemes, List.mem_cons, List.not_mem_nil, or_false] at hscheme
  rcases hscheme with rfl | rfl | rfl
  · exact ⟨rest, .inl rfl⟩
  · exact ⟨rest, .inr (.inl rfl)⟩
  · exact ⟨rest, .inr (.inr rfl)⟩

end Origin

/-! ## Loaders -/

namespace Loader

open Origin

theorem ofAddress_of_parse_error {address : String} {trouble : Origin.Trouble}
    (h : parse address = .error trouble) (s : Surroundings σ) :
    ofAddress address s = ⟨.error (.origin trouble), s, []⟩ := by
  rw [ofAddress, h]
  rfl

theorem ofAddress_package {dotted : String} (h : dotted ≠ "") (s : Surroundings σ) :
    ofAddress ("package://" ++ dotted) s = ⟨.ok (.package dotted), s, []⟩ := by
  rw [ofAddress, parse_package h]
  rfl

theorem ofAddress_file (path : String) (s : Surroundings σ) :
    ofAddress ("file://" ++ path) s = ⟨.ok (.directory (Path.parse path)), s, []⟩ := by
  rw [ofAddress, parse_file]
  rfl

theorem ofAddress_memory (rest : String) (s : Surroundings σ) :
    ofAddress ("memory://" ++ rest) s =
      ⟨.ok (.memory s.stores.size), { s with stores := s.stores.push {} }, []⟩ := by
  rw [ofAddress, parse_memory]
  rfl

/-- What making the loader of an address ends in, by how the address begins. -/
inductive Named (s : Surroundings σ) : String → Except Fault (Loader σ) → Prop
  | package {dotted : String} (h : dotted ≠ "") :
    Named s ("package://" ++ dotted) (.ok (.package dotted))
  | missing : Named s "package://" (.error (.origin (.missingPackage "package://")))
  | directory (path : String) : Named s ("file://" ++ path) (.ok (.directory (Path.parse path)))
  | memory (rest : String) : Named s ("memory://" ++ rest) (.ok (.memory s.stores.size))
  | foreign {address : String} (h : IsForeign address) :
    Named s address (.error (.origin (.unsupported address)))

/-- **Every address** is of one of these kinds. -/
theorem named_ofAddress (address : String) (s : Surroundings σ) :
    Named s address (ofAddress address s).result := by
  by_cases hforeign : IsForeign address
  · rw [ofAddress_of_parse_error (parse_of_isForeign hforeign)]
    exact .foreign hforeign
  · obtain ⟨rest, rfl | rfl | rfl⟩ := exists_scheme_of_not_isForeign hforeign
    · by_cases hrest : rest = ""
      · subst hrest
        rw [String.append_empty, ofAddress_of_parse_error parse_package_alone]
        exact .missing
      · rw [ofAddress_package hrest]
        exact .package hrest
    · rw [ofAddress_file]
      exact .directory rest
    · rw [ofAddress_memory]
      exact .memory rest

/-- What an address comes to: the loader of a package or of a folder, or of a store that is
new and empty, or a fault that says what is wrong with it. -/
structure Classifies (address : String) (s : Surroundings σ)
    (o : Outcome (Surroundings σ) (Loader σ)) : Prop where
  package : ∀ dotted, o.result = .ok (.package dotted) ↔
    address = "package://" ++ dotted ∧ dotted ≠ ""
  directory : (∃ root, o.result = .ok (.directory root)) ↔ ∃ path, address = "file://" ++ path
  memory : ∀ store, o.result = .ok (.memory store) ↔
    (∃ rest, address = "memory://" ++ rest) ∧ store = s.stores.size
  empty : ∀ store, o.result = .ok (.memory store) → o.state.stores.row store = {}
  custom : ∀ load, o.result ≠ .ok (.custom load)
  refused : ∀ fault, o.result = .error fault ↔
    (address = "package://" ∧ fault = .origin (.missingPackage address)) ∨
      (IsForeign address ∧ fault = .origin (.unsupported address))

/-- **The loader of an address** is of the kind that the address begins with. -/
theorem classifies_ofAddress (address : String) (s : Surroundings σ) :
    Classifies address s (ofAddress address s) := by
  have hnamed := named_ofAddress address s
  constructor
  · intro dotted
    constructor
    · intro h
      rw [h] at hnamed
      cases hnamed with
      | package hdotted => exact ⟨rfl, hdotted⟩
    · rintro ⟨rfl, hdotted⟩
      rw [ofAddress_package hdotted]
  · constructor
    · rintro ⟨root, h⟩
      rw [h] at hnamed
      cases hnamed with
      | directory path => exact ⟨path, rfl⟩
    · rintro ⟨path, rfl⟩
      rw [ofAddress_file]
      exact ⟨_, rfl⟩
  · intro store
    constructor
    · intro h
      rw [h] at hnamed
      cases hnamed with
      | memory rest => exact ⟨⟨rest, rfl⟩, rfl⟩
    · rintro ⟨⟨rest, rfl⟩, rfl⟩
      rw [ofAddress_memory]
  · intro store h
    rw [h] at hnamed
    cases hnamed with
    | memory rest =>
        rw [ofAddress_memory]
        exact Table.row_push_self s.stores {}
  · intro load h
    rw [h] at hnamed
    cases hnamed
  · intro fault
    constructor
    · intro h
      rw [h] at hnamed
      cases hnamed with
      | missing => exact .inl ⟨rfl, rfl⟩
      | foreign hforeign => exact .inr ⟨hforeign, rfl⟩
    · rintro (⟨rfl, rfl⟩ | ⟨hforeign, rfl⟩)
      · rw [ofAddress_of_parse_error parse_package_alone]
      · rw [ofAddress_of_parse_error (parse_of_isForeign hforeign)]

end Loader

/-- **Every address is classified, and every folder in normal form.** An address comes to
the loader of what stands behind its scheme. That of a folder has a path in normal form,
and the address made of the text of this path comes to the same loader. -/
theorem loader_of_every_address (σ : Type) :
    (∀ (address : String) (s : Surroundings σ),
      Loader.Classifies address s (Loader.ofAddress address s)) ∧
    ∀ path : String, ∃ root : Path,
      (∀ s : Surroundings σ,
        (Loader.ofAddress ("file://" ++ path) s).result = .ok (.directory root)) ∧
      (∀ s : Surroundings σ,
        (Loader.ofAddress ("file://" ++ root.render) s).result = .ok (.directory root)) ∧
      Path.IsNormalForm path root.render := by
  refine ⟨Loader.classifies_ofAddress, fun path => ⟨Path.parse path, fun s => ?_, fun s => ?_, ?_⟩⟩
  · rw [Loader.ofAddress_file]
  · rw [Loader.ofAddress_file, Path.parse_render (Path.isNormal_parse path)]
  · exact Path.isNormalForm_render_parse path

/-- A folder with two slashes ahead of it and a way that winds, and an address whose scheme
is written otherwise. -/
theorem loader_of_every_address_winding :
    let s : Surroundings Nat := { host := 0 }
    (Loader.ofAddress ("file://" ++ "//.//a/../b/./") s).result =
      .ok (.directory ⟨2, ["a", "..", "b"]⟩) ∧
    (Loader.ofAddress ("file://" ++ "//a/../b") s).result =
      .ok (.directory ⟨2, ["a", "..", "b"]⟩) ∧
    Path.IsNormalForm "//.//a/../b/./" "//a/../b" ∧
    (Loader.ofAddress "FILE://a" s).result = .error (.origin (.unsupported "FILE://a")) := by
  intro s
  obtain ⟨hclass, hfolder⟩ := loader_of_every_address Nat
  obtain ⟨root, hroot, hagain, hnormal⟩ := hfolder "//.//a/../b/./"
  have hread : (Loader.ofAddress ("file://" ++ "//.//a/../b/./") s).result =
      .ok (.directory ⟨2, ["a", "..", "b"]⟩) := by rfl
  obtain rfl : ⟨2, ["a", "..", "b"]⟩ = root :=
    Loader.directory.inj (Except.ok.inj (hread.symm.trans (hroot s)))
  refine ⟨hread, hagain s, hnormal, ?_⟩
  have hfirst : ∀ scheme ∈ Origin.schemes,
      "FILE://".toList.head? ≠ scheme.toList.head? ∧ scheme.toList ≠ [] := by decide
  rw [(hclass "FILE://a" s).refused]
  refine .inr ⟨fun scheme hscheme rest => ?_, rfl⟩
  exact Origin.append_ne_append (hfirst scheme hscheme).1 (by decide) (hfirst scheme hscheme).2 "a"
    rest

end Typeahead.Resource
