import Mathlib.Data.List.Basic
import Typeahead.Proofs.Resource.Loading
import Typeahead.WordList

/-!
# Reading word lists

What a cache answers, as a value: the list that it keeps, or else the one made
of what its loader gives. Main statements: `result_readList` and `get_of_missing`.
A cache asks its loader at most once for a list, and only for a code of which it
keeps none. By `fill_stock`, the template that nobody has overridden puts the code
between a fixed front and a fixed back.
-/

namespace Typeahead

open Typeahead.Resource
open Typeahead.Text

variable {σ : Type}

/-! ## Names of resources -/

namespace Template

theorem foldlM_map_char (step : List Char → Part → Except Trouble (List Char))
    (hchar : ∀ shown c, step shown (.char c) = .ok (shown ++ [c])) (cs : List Char)
    (rest : List Part) (shown : List Char) :
    (cs.map Part.char ++ rest).foldlM step shown = rest.foldlM step (shown ++ cs) := by
  induction cs generalizing shown with
  | nil => simp
  | cons c cs ih =>
      rw [List.map_cons, List.cons_append, List.foldlM_cons, hchar]
      show (cs.map Part.char ++ rest).foldlM step (shown ++ [c]) = _
      rw [ih, List.append_assoc]
      rfl

/-- One field between two runs of characters. -/
theorem foldlM_field (step : List Char → Part → Except Trouble (List Char))
    (hchar : ∀ shown c, step shown (.char c) = .ok (shown ++ [c])) {f : Field}
    {filled : List Char} (hfield : ∀ shown, step shown (.field f) = .ok (shown ++ filled))
    (front back : List Char) :
    (front.map Part.char ++ .field f :: back.map Part.char).foldlM step [] =
      .ok (front ++ filled ++ back) := by
  rw [foldlM_map_char step hchar, List.foldlM_cons, hfield]
  show (back.map Part.char).foldlM step (front ++ filled) = _
  have hback := foldlM_map_char step hchar back [] (front ++ filled)
  rw [List.append_nil] at hback
  rw [hback]
  rfl

theorem lookUp_code (code : List Char) : lookUp code "code".toList = .ok (.text code) := by
  have hfirst : ("code".toList.takeWhile fun c => c ≠ '.' && c ≠ '[') = "code".toList := by
    decide
  have hindex : index? "code".toList = .ok none := by rfl
  simp only [lookUp, hfirst, hindex]
  simp [bind, Except.bind, follow]

theorem fillWithin_code {template front back : List Char}
    (h : parts template =
      front.map Part.char ++ .field ⟨"code".toList, none, []⟩ :: back.map Part.char)
    (code : List Char) (depth : Nat) :
    fillWithin code (depth + 1) template = .ok (front ++ code ++ back) := by
  rw [fillWithin, h]
  refine foldlM_field _ (fun _ _ => rfl) (fun shown => ?_) front back
  simp only [lookUp_code]
  rfl

/-- **The name of a resource.** -/
theorem fill_stock (code : String) :
    fill "completionList.\x7bcode\x7d.txt" code =
      .ok ("completionList." ++ code ++ ".txt") := by
  have hparts : parts "completionList.\x7bcode\x7d.txt".toList =
      "completionList.".toList.map Part.char ++
        .field ⟨"code".toList, none, []⟩ :: ".txt".toList.map Part.char := by
    decide
  rw [fill, fillWithin_code hparts]
  show Except.ok (String.ofList _) = _
  rw [String.ofList_append, String.ofList_append, String.ofList_toList, String.ofList_toList,
    String.ofList_toList]

end Template

/-! ## Lists of resources -/

def Config.nameOf (config : Config) (code : String) : Except Fault String := do
  let template ← config.resourceTemplate.textOr .notATemplate
  (Template.fill template code).mapError .template

/-- The words of what a loader gave. What could not be read has none. -/
def Config.wordsIn (config : Config) (loaded : Except Fault (Option Octets)) :
    Except Fault (List String) :=
  match loaded with
  | .error fault => if fault.isReadFailure then .ok [] else .error fault
  | .ok none => .ok []
  | .ok (some octets) => do
    let encoding ← config.encoding.textOr (.misfit .notText)
    WordList.ofOctets encoding octets

/-- Every language code has a resource name, and all octets can be read. -/
structure Config.Reads (config : Config) : Prop where
  named : ∀ code, WordList.isCode code = true → ∃ name, config.nameOf code = .ok name
  decoded : ∀ octets, ∃ words, config.wordsIn (.ok (some octets)) = .ok words

theorem Config.nameOf_stock {config : Config}
    (h : config.resourceTemplate = .text "completionList.\x7bcode\x7d.txt") (code : String) :
    config.nameOf code = .ok ("completionList." ++ code ++ ".txt") := by
  rw [nameOf, h]
  show (Template.fill _ code).mapError Fault.template = _
  rw [Template.fill_stock]
  rfl

theorem Config.wordsIn_stock {config : Config} (h : config.encoding = .text "utf-8")
    (octets : Octets) :
    config.wordsIn (.ok (some octets)) = .ok (WordList.ofChars (Utf8.decode octets)) := by
  have hname : Encoding.ofName? "utf-8" = some .utf8 := by decide +kernel
  rw [wordsIn, h]
  show WordList.ofOctets "utf-8" octets = _
  rw [WordList.ofOctets, if_neg (by decide)]
  by_cases hnil : octets = []
  · rw [if_pos hnil, hnil]
    rfl
  · rw [if_neg hnil, hname]
    rfl

/-- **The configuration can read** unless its template or its encoding was
overridden. -/
theorem Config.reads_ofVariables (bundled : String) (vars : Variables) :
    (Config.ofVariables bundled vars).Reads :=
  ⟨fun code _ => ⟨_, nameOf_stock rfl code⟩, fun octets => ⟨_, wordsIn_stock rfl octets⟩⟩

/-- Whatever a loader gives has words, unless it ends in a fault other than not
being readable. -/
theorem Config.Reads.exists_wordsIn {config : Config} (h : config.Reads)
    {loaded : Except Fault (Option Octets)}
    (hloaded : ∀ fault, loaded = .error fault → fault.isReadFailure = true) :
    ∃ words, config.wordsIn loaded = .ok words := by
  match loaded with
  | .error fault =>
      refine ⟨[], ?_⟩
      rw [wordsIn, if_pos (hloaded fault rfl)]
  | .ok none => exact ⟨[], rfl⟩
  | .ok (some octets) => exact h.decoded octets

namespace Cache

/-! ## Reading -/

theorem wordsOf_apply (config : Config) (code name : String)
    (loaded : Except Fault (Option Octets)) (s : Surroundings σ) :
    (wordsOf config code name loaded s).result = config.wordsIn loaded ∧
      (wordsOf config code name loaded s).state = s ∧
      Event.calls (wordsOf config code name loaded s).events = [] := by
  match loaded with
  | .error fault =>
      cases h : fault.isReadFailure with
      | false => simp [wordsOf, Config.wordsIn, h, Event.calls]
      | true => simp [wordsOf, Config.wordsIn, h, Action.bind_apply, Event.calls, Event.call?]
  | .ok none => simp [wordsOf, Config.wordsIn, Action.bind_apply, Event.calls, Event.call?]
  | .ok (some octets) =>
      simp only [wordsOf, Config.wordsIn, Action.bind_apply, Action.ofExcept_apply]
      cases config.encoding.textOr (Fault.misfit .notText) with
      | error fault => exact ⟨rfl, rfl, rfl⟩
      | ok encoding =>
          cases hread : WordList.ofOctets encoding octets with
          | error fault => simp [hread, bind, Except.bind, Event.calls]
          | ok words =>
              by_cases hwords : words = [] <;>
                simp [hread, hwords, bind, Except.bind, Action.bind, Event.calls, Event.call?]

theorem readList_of_named {config : Config} {loader : Loader σ} {code name : String}
    (hname : config.nameOf code = .ok name) :
    readList config loader code =
      (loader.load (.text name)).attempt >>= wordsOf config code name := by
  rw [Config.nameOf] at hname
  cases htemplate : config.resourceTemplate.textOr Fault.notATemplate with
  | error fault => rw [htemplate] at hname; cases hname
  | ok template =>
      rw [htemplate] at hname
      have hfill : (Template.fill template code).mapError Fault.template = .ok name := hname
      rw [readList, htemplate]
      funext s
      show ((Action.ofExcept ((Template.fill template code).mapError Fault.template)) >>= _) s = _
      rw [hfill]
      rfl

theorem readList_of_unnamed {config : Config} {loader : Loader σ} {code : String} {fault : Fault}
    (hname : config.nameOf code = .error fault) (s : Surroundings σ) :
    readList config loader code s = ⟨.error fault, s, []⟩ := by
  rw [Config.nameOf] at hname
  rw [readList]
  cases htemplate : config.resourceTemplate.textOr Fault.notATemplate with
  | error fault' =>
      rw [htemplate] at hname
      cases hname
      rfl
  | ok template =>
      rw [htemplate] at hname
      have hfill : (Template.fill template code).mapError Fault.template = .error fault := hname
      show ((Action.ofExcept ((Template.fill template code).mapError Fault.template)) >>= _) s = _
      rw [hfill]
      rfl

def listRead (config : Config) (loader : Loader σ) (code : String) (s : Surroundings σ) :
    Except Fault (List String) := do
  let name ← config.nameOf code
  config.wordsIn (loader.load (.text name) s).result

/-- **Reading a list** makes it of what the loader gives under its name. -/
theorem result_readList (config : Config) (loader : Loader σ) (code : String)
    (s : Surroundings σ) :
    (readList config loader code s).result = listRead config loader code s := by
  cases hname : config.nameOf code with
  | error fault =>
      rw [readList_of_unnamed hname, listRead, hname]
      rfl
  | ok name =>
      rw [readList_of_named hname, listRead, hname,
        Action.result_bind_of_ok (a := (loader.load (.text name) s).result) rfl]
      exact (wordsOf_apply _ _ _ _ _).1

theorem calls_readList (config : Config) (loader : Loader σ) (code : String)
    (s : Surroundings σ) :
    Event.calls (readList config loader code s).events =
      match config.nameOf code with
      | .ok name => [.load (.text name)]
      | .error _ => [] := by
  cases hname : config.nameOf code with
  | error fault =>
      rw [readList_of_unnamed hname]
      rfl
  | ok name =>
      rw [readList_of_named hname,
        Action.bind_of_ok (a := (loader.load (.text name) s).result) rfl]
      show Event.calls (_ ++ _) = _
      rw [Event.calls, List.filterMap_append]
      show Event.calls (loader.load (.text name) s).events ++ Event.calls _ = _
      rw [Loader.calls_load, (wordsOf_apply _ _ _ _ _).2.2]
      rfl

theorem keeps_readList (config : Config) (loader : Loader σ) (code : String) :
    (readList config loader code).Keeps Surroundings.SameShelves := by
  cases hname : config.nameOf code with
  | error fault =>
      exact Action.keeps_of_same fun s => by rw [readList_of_unnamed hname]
  | ok name =>
      rw [readList_of_named hname]
      refine Action.Keeps.bind (loader.keeps_load (.text name)) fun loaded => ?_
      exact Action.keeps_of_same fun s => (wordsOf_apply _ _ _ _ s).2.1

/-! ## The list of a code -/

/-- The list of a code: none for a malformed code, else the one that is kept, or
the one that would be read now. -/
def listNow (config : Config) (cache : Cache σ) (code : String) (s : Surroundings σ) :
    Except Fault (List String) :=
  if WordList.isCode code then
    match cache.find? code with
    | some list => .ok list
    | none => listRead config cache.loader code s
  else .ok []

theorem get_of_not_isCode (config : Config) (cache : Cache σ) {code : String}
    (h : WordList.isCode code = false) (s : Surroundings σ) :
    cache.get config code s = ⟨.ok ([], cache), s, []⟩ := by
  rw [get, h]
  rfl

theorem get_of_kept (config : Config) {cache : Cache σ} {code : String} {list : List String}
    (hcode : WordList.isCode code = true) (h : cache.find? code = some list)
    (s : Surroundings σ) :
    cache.get config code s = ⟨.ok (list, cache), s, []⟩ := by
  rw [get, hcode, if_pos rfl, h]
  rfl

theorem get_of_missing (config : Config) {cache : Cache σ} {code : String}
    (hcode : WordList.isCode code = true) (h : cache.find? code = none) (s : Surroundings σ) :
    cache.get config code s =
      ⟨(listRead config cache.loader code s).map fun list => (list, cache.keep code list),
        (readList config cache.loader code s).state,
        (readList config cache.loader code s).events⟩ := by
  rw [get, hcode, if_pos rfl, h, ← result_readList]
  show (readList config cache.loader code >>= _) s = _
  rw [Action.bind_apply]
  cases (readList config cache.loader code s).result with
  | error fault => rfl
  | ok list =>
      show Outcome.mk _ _ (_ ++ []) = _
      rw [List.append_nil]
      rfl

/-! ## Keeping -/

theorem find?_keep_self (cache : Cache σ) (code : String) (list : List String) :
    (cache.keep code list).find? code = some list := by
  simp [keep, find?]

theorem find?_keep_of_ne (cache : Cache σ) {code other : String} (list : List String)
    (h : other ≠ code) : (cache.keep code list).find? other = cache.find? other := by
  have hb : (other == code) = false := by simpa using h
  simp [keep, find?, List.lookup_cons, hb]

/-! ## Steady lists -/

theorem listRead_of_steady {config : Config} {loader : Loader σ} {s t : Surroundings σ}
    (h : loader.Steady s) (hst : s.SameShelves t) (code : String) :
    listRead config loader code t = listRead config loader code s := by
  unfold listRead
  cases config.nameOf code with
  | error fault => rfl
  | ok name => exact congrArg config.wordsIn (h t hst name)

/-- As long as the shelves are the same, so are the lists of a steady loader. -/
theorem listNow_of_steady {config : Config} {cache : Cache σ} {s t : Surroundings σ}
    (h : cache.loader.Steady s) (hst : s.SameShelves t) (code : String) :
    cache.listNow config code t = cache.listNow config code s := by
  rw [listNow, listNow, listRead_of_steady h hst]

/-- Keeping the list that a code has changes the list of no code. -/
theorem listNow_keep {config : Config} {cache : Cache σ} {code : String} {list : List String}
    {s : Surroundings σ} (h : cache.listNow config code s = .ok list) (other : String) :
    (cache.keep code list).listNow config other s = cache.listNow config other s := by
  by_cases hother : other = code
  · subst hother
    rw [h, listNow, find?_keep_self]
    split
    · rfl
    · -- A malformed code has no words, kept or not.
      next hcode =>
        rw [listNow, if_neg hcode] at h
        exact h
  · rw [listNow, listNow, find?_keep_of_ne cache list hother]
    rfl

end Cache

end Typeahead
