import Mathlib.Data.List.Chain
import Typeahead.Proofs.Text.Split
import Typeahead.Proofs.WordList.Reading

/-!
# Names of word lists

With the template that nobody has overridden, the name of a word list is made of
ASCII letters, hyphens and two dots that stand apart. Main statements:
`resourceOf_injective`, `not_dots_infix_resourceOf` and `join_parse_resourceOf`. A name
leads nowhere but to an entry of the folder it is looked up in, and it belongs to one
code.
-/

namespace Typeahead

open Typeahead.Text

/-! ## Plain names -/

namespace Resource

theorem Path.leadingSlashes_of_not_mem {cs : List Char} (h : '/' ∉ cs) :
    leadingSlashes cs = 0 := by
  cases cs with
  | nil => rfl
  | cons c rest =>
      have hc : c ≠ '/' := fun heq => h (heq ▸ List.mem_cons_self)
      simp [leadingSlashes, hc]

/-- A text without a slash is a path of one part, unless it is no name at all. -/
theorem Path.parse_of_not_mem {name : String} (hslash : '/' ∉ name.toList)
    (hnamed : isNamed name.toList = true) : Path.parse name = ⟨0, [name]⟩ := by
  rw [parse, leadingSlashes_of_not_mem hslash, splitOn_of_not_mem hslash]
  simp [hnamed]

theorem Path.join_parse_of_not_mem {name : String} (hslash : '/' ∉ name.toList)
    (hnamed : isNamed name.toList = true) (root : Path) :
    root.join (Path.parse name) = ⟨root.slashes, root.parts ++ [name]⟩ := by
  rw [parse_of_not_mem hslash hnamed]
  rfl

end Resource

namespace WordList

/-! ## Language codes -/

def IsCodeChar (c : Char) : Prop :=
  ('a' ≤ c ∧ c ≤ 'z') ∨ ('A' ≤ c ∧ c ≤ 'Z') ∨ c = '-'

theorem isCodeChar_iff {c : Char} : IsCodeChar c ↔ (c.isAlpha || c == '-') = true := by
  have hlower : c.isLower = (decide ('a' ≤ c) && decide (c ≤ 'z')) := rfl
  have hupper : c.isUpper = decide ('A' ≤ c ∧ c ≤ 'Z') := rfl
  have halpha : c.isAlpha = (c.isUpper || c.isLower) := rfl
  rw [halpha, hlower, hupper, IsCodeChar]
  simp only [Bool.or_eq_true, Bool.and_eq_true, decide_eq_true_eq, beq_iff_eq]
  tauto

theorem isCode_iff {code : String} :
    isCode code = true ↔ code ≠ "" ∧ ∀ c ∈ code.toList, IsCodeChar c := by
  simp only [isCode, isCodeChar_iff]
  simp

/-! ## Names -/

def stockTemplate : Value :=
  .text "completionList.\x7bcode\x7d.txt"

/-- The name of the word list of a language code, unless the template was overridden. -/
def resourceOf (code : String) : String :=
  "completionList." ++ code ++ ".txt"

theorem toList_resourceOf (code : String) :
    (resourceOf code).toList = "completionList.".toList ++ code.toList ++ ".txt".toList := by
  show ("completionList." ++ code ++ ".txt").toList = _
  rw [String.toList_append, String.toList_append]

/-- **A name belongs to one code.** -/
theorem resourceOf_injective : Function.Injective resourceOf := by
  intro code other h
  have hchars := congrArg String.toList h
  rw [toList_resourceOf, toList_resourceOf] at hchars
  have hcodes := List.append_cancel_left (List.append_cancel_right hchars)
  exact String.toList_inj.mp hcodes

/-- Characters that part the names in a path, end a text or break a line. -/
def separators : List Char :=
  ['/', '\\', '\x00', '\n', '\r', '\x0b', '\x0c', '\x1c', '\x1d', '\x1e', '\x85', '\u2028',
    '\u2029']

def isNameChar (c : Char) : Bool :=
  c.isAlpha || c == '-' || c == '.'

theorem isNameChar_iff {c : Char} : isNameChar c = true ↔ IsCodeChar c ∨ c = '.' := by
  rw [isCodeChar_iff, isNameChar, Bool.or_eq_true, beq_iff_eq]

theorem isNameChar_of_mem {code : String} (h : isCode code = true) {c : Char}
    (hc : c ∈ (resourceOf code).toList) : isNameChar c = true := by
  have hfront : "completionList.".toList.all isNameChar = true := by decide
  have hback : ".txt".toList.all isNameChar = true := by decide
  rw [toList_resourceOf, List.mem_append, List.mem_append] at hc
  rcases hc with (hc | hc) | hc
  · exact List.all_eq_true.mp hfront c hc
  · exact isNameChar_iff.mpr (.inl ((isCode_iff.mp h).2 c hc))
  · exact List.all_eq_true.mp hback c hc

theorem not_mem_separators_of_mem {code : String} (h : isCode code = true) {c : Char}
    (hc : c ∈ (resourceOf code).toList) : c ∉ separators := by
  intro hmem
  have hseparators : (separators.all fun c => !isNameChar c) = true := by decide
  have hnot := List.all_eq_true.mp hseparators c hmem
  rw [isNameChar_of_mem h hc] at hnot
  cases hnot

theorem ne_dot_of_isCodeChar {c : Char} (h : IsCodeChar c) : c ≠ '.' := by
  rintro rfl
  rw [isCodeChar_iff] at h
  revert h
  decide

/-- No two dots of a name stand side by side: between them is the code. -/
theorem not_dots_infix_resourceOf {code : String} (h : isCode code = true) :
    ¬ ['.', '.'] <:+: (resourceOf code).toList := by
  intro hinfix
  obtain ⟨hne, hchars⟩ := isCode_iff.mp h
  have hcode : ∀ c ∈ code.toList, c ≠ '.' := fun c hc => ne_dot_of_isCodeChar (hchars c hc)
  have hchain : (resourceOf code).toList.IsChain fun a b => a ≠ '.' ∨ b ≠ '.' := by
    have hmiddle : code.toList.IsChain fun a b => a ≠ '.' ∨ b ≠ '.' :=
      (List.pairwise_of_forall_mem_list fun c hc _ _ => .inl (hcode c hc)).isChain
    rw [toList_resourceOf, List.append_assoc, List.isChain_append]
    refine ⟨by decide, hmiddle.append (by decide) ?_, ?_⟩
    · intro c hc _ _
      exact .inl (hcode c (List.mem_of_getLast? hc))
    · intro _ _ c hc
      rw [List.head?_append_of_ne_nil _ (by simpa using hne)] at hc
      exact .inr (hcode c (List.mem_of_head? hc))
  have hpair := hchain.infix hinfix
  simp at hpair

/-- **A name leads from a folder to an entry of the folder.** -/
theorem join_parse_resourceOf {code : String} (h : isCode code = true) (root : Resource.Path) :
    root.join (Resource.Path.parse (resourceOf code)) =
      ⟨root.slashes, root.parts ++ [resourceOf code]⟩ := by
  refine Resource.Path.join_parse_of_not_mem ?_ ?_ root
  · intro hslash
    exact not_mem_separators_of_mem h hslash (by decide)
  · rw [toList_resourceOf]
    rfl

end WordList

end Typeahead
