import Mathlib.Data.List.Basic
import Mathlib.Data.List.DropRight
import Mathlib.Data.List.TakeWhile
import Typeahead.Proofs.Text.Lines
import Typeahead.Word

/-!
# The word before a cursor

The word before a cursor grows by what is typed there, it is the longest run of letters
and hyphens that ends there, and in a part of a text it is the end of that in the whole.
Main statements: `wordAtEnd_append` and `startingWith_append_chars`, `wordAtEnd_eq_iff` and
`wordIn_longest_run`, and `wordBefore_part`.
-/

namespace Typeahead

open Typeahead.Text

/-! ## The word at the end of a text -/

theorem isWordChar_carriageReturn : isWordChar '\r' = false := by decide +kernel

theorem isWordChar_lineFeed : isWordChar '\n' = false := by decide +kernel

theorem wordAtEnd_append (cs : List Char) {run : List Char} (h : ∀ c ∈ run, isWordChar c = true) :
    wordAtEnd (cs ++ run) = wordAtEnd cs ++ run := by
  -- Read backwards, the whole run is passed before the text is reached.
  have hrun : run.reverse.takeWhile isWordChar = run.reverse :=
    List.takeWhile_eq_self_iff.mpr fun c hc => h c (List.mem_reverse.mp hc)
  rw [wordAtEnd, List.reverse_append, List.takeWhile_append, hrun, if_pos rfl,
    List.reverse_append, List.reverse_reverse]
  rfl

/-- A word does not reach beyond a character that continues no word. -/
theorem wordAtEnd_append_of_last {before : List Char}
    (h : ∀ c ∈ before.getLast?, isWordChar c = false) (cs : List Char) :
    wordAtEnd (before ++ cs) = wordAtEnd cs := by
  have hstop : before.reverse.takeWhile isWordChar = [] := by
    obtain rfl | ⟨rest, c, rfl⟩ := List.eq_nil_or_concat' before
    · rfl
    · rw [List.reverse_concat, List.takeWhile_cons_of_neg]
      rw [h c (by simp)]
      exact Bool.false_ne_true
  rw [wordAtEnd, List.reverse_append, List.takeWhile_append, hstop, List.append_nil]
  split
  · next hall => rw [wordAtEnd, (List.takeWhile_prefix isWordChar).eq_of_length hall]
  · rfl

theorem wordBefore_toList (text : String) {cursor : Nat} (h : cursor ≤ text.toList.length) :
    wordBefore text cursor = String.ofList (wordAtEnd (text.toList.take cursor)) := by
  rw [wordBefore, wordBeforeChars, if_neg (by omega), Int.toNat_natCast]

/-! ## Words that start with a word -/

/-- A text ends with a word: all of the word are letters or hyphens, and in front of it
is nothing or a character that is neither. -/
def EndsWithWord (cs word : List Char) : Prop :=
  ∃ before, cs = before ++ word ∧ (∀ c ∈ word, isLetter c = true ∨ c = '-') ∧
    (before = [] ∨ ∃ c, before.getLast? = some c ∧ ¬ (isLetter c = true ∨ c = '-'))

theorem isWordChar_iff {c : Char} : isWordChar c = true ↔ isLetter c = true ∨ c = '-' := by
  rw [isWordChar, Bool.or_eq_true, beq_iff_eq]

/-- The scan takes word characters from the end as long as there are some. -/
theorem wordAtEnd_eq_rtakeWhile (cs : List Char) : wordAtEnd cs = cs.rtakeWhile isWordChar := rfl

theorem endsWithWord_wordAtEnd (cs : List Char) : EndsWithWord cs (wordAtEnd cs) := by
  rw [wordAtEnd_eq_rtakeWhile]
  refine ⟨cs.rdropWhile isWordChar, List.rdropWhile_append_rtakeWhile.symm, ?_, ?_⟩
  · intro c hc
    exact isWordChar_iff.mp (List.mem_rtakeWhile_imp hc)
  · by_cases hnil : cs.rdropWhile isWordChar = []
    · exact .inl hnil
    · have hstop := List.rdropWhile_last_not isWordChar cs hnil
      rw [isWordChar_iff] at hstop
      exact .inr ⟨_, List.getLast?_eq_getLast_of_ne_nil hnil, hstop⟩

theorem EndsWithWord.eq_wordAtEnd {cs word : List Char} (h : EndsWithWord cs word) :
    wordAtEnd cs = word := by
  obtain ⟨before, rfl, hword, hbefore⟩ := h
  have hrun : ∀ c ∈ word, isWordChar c = true := fun c hc => isWordChar_iff.mpr (hword c hc)
  have hstop : ∀ c ∈ before.getLast?, isWordChar c = false := by
    intro c hc
    rcases hbefore with rfl | ⟨d, hd, hnot⟩
    · cases hc
    · obtain rfl : c = d := Option.some.inj (hc.symm.trans hd)
      rw [← isWordChar_iff] at hnot
      exact Bool.not_eq_true _ ▸ hnot
  calc wordAtEnd (before ++ word)
      = wordAtEnd ([] ++ word) := wordAtEnd_append_of_last hstop word
    _ = wordAtEnd [] ++ word := wordAtEnd_append [] hrun
    _ = word := rfl

/-- **The word at the end of a text** is the one word that it so ends with. -/
theorem wordAtEnd_eq_iff {cs word : List Char} : wordAtEnd cs = word ↔ EndsWithWord cs word := by
  constructor
  · rintro rfl
    exact endsWithWord_wordAtEnd cs
  · exact EndsWithWord.eq_wordAtEnd

/-- **The word before a cursor is the longest run that ends there.** A cursor outside the
text has an empty word before it. Otherwise the word is the one text that the text before
the cursor ends with, made of letters and hyphens only, and with no letter or hyphen in
front of it. -/
theorem wordIn_longest_run (text : String) (cursor : Int) :
    wordIn (.text text) (.int cursor) = .ok (.text (wordBefore text cursor)) ∧
    (cursor < 0 ∨ text.toList.length < cursor → wordBefore text cursor = "") ∧
    (0 ≤ cursor → cursor ≤ text.toList.length → ∀ word : String,
      wordBefore text cursor = word ↔
        EndsWithWord (text.toList.take cursor.toNat) word.toList) := by
  refine ⟨wordIn_text text cursor, fun hout => ?_, fun hzero hlength word => ?_⟩
  · rw [wordBefore, wordBeforeChars, if_pos hout, String.ofList_nil]
  · obtain ⟨n, rfl⟩ := Int.eq_ofNat_of_zero_le hzero
    rw [wordBefore_toList text (by omega), Int.toNat_natCast, ← wordAtEnd_eq_iff]
    constructor
    · rintro rfl
      rw [String.toList_ofList]
    · intro hword
      rw [hword, String.ofList_toList]

/-- Letters of two scripts, one of them beyond the basic plane, and a hyphen. -/
theorem wordIn_longest_run_two_scripts :
    (0 : Int) ≤ 6 ∧ (6 : Int) ≤ "2été-𐐀x".toList.length ∧
    wordBefore "2été-𐐀x" 6 = "été-𐐀" := by
  refine ⟨by decide, by decide, ?_⟩
  refine ((wordIn_longest_run "2été-𐐀x" 6).2.2 (by decide) (by decide) "été-𐐀").mpr ?_
  have hrun : ("été-𐐀".toList.all isWordChar) = true := by decide +kernel
  exact ⟨['2'], by decide, fun c hc => isWordChar_iff.mp (List.all_eq_true.mp hrun c hc),
    .inr ⟨'2', rfl, by decide +kernel⟩⟩

/-! ## Words in parts of a text

The word before an offset in a part of a text is the end of the word before that offset
in the whole text: as much of it as the part has in front of the offset. What follows the
offset does not matter.
-/

/-- Where an offset lies in a text. One below zero counts from the end of the text. -/
def placeIn (text : String) (offset : Int) : Nat :=
  if offset < 0 then (offset + text.toList.length).toNat else offset.toNat

def partOf (text : String) (a b : Int) : String :=
  String.ofList (Text.segment text.toList (placeIn text a) (placeIn text b))

def lastChars (count : Nat) (text : String) : String :=
  String.ofList (text.toList.rtake count)

/-! ## Last characters -/

theorem toList_lastChars (count : Nat) (text : String) :
    (lastChars count text).toList = text.toList.rtake count := by
  rw [lastChars, String.toList_ofList]

theorem length_toList_lastChars (count : Nat) (text : String) :
    (lastChars count text).toList.length = min count text.toList.length := by
  rw [toList_lastChars, List.rtake, List.length_drop]
  omega

theorem lastChars_suffix (count : Nat) (text : String) :
    (lastChars count text).toList <:+ text.toList := by
  rw [toList_lastChars]
  exact List.drop_suffix _ _

/-- The last characters are the whole text if there are no more. -/
theorem lastChars_eq_self_iff {count : Nat} {text : String} :
    lastChars count text = text ↔ text.toList.length ≤ count := by
  constructor
  · intro h
    have hlength := length_toList_lastChars count text
    rw [h] at hlength
    omega
  · intro h
    rw [lastChars, List.rtake, Nat.sub_eq_zero_of_le h, List.drop_zero, String.ofList_toList]

theorem lastChars_min (count : Nat) (text : String) :
    lastChars (min count text.toList.length) text = lastChars count text := by
  rw [lastChars, lastChars, List.rtake, List.rtake]
  congr 2
  omega

/-! ## Words in parts -/

/-- Without its first characters a text ends with as much of its word as is left. -/
theorem wordAtEnd_drop (cs : List Char) (a : Nat) :
    wordAtEnd (cs.drop a) = (wordAtEnd cs).rtake (cs.length - a) := by
  rw [wordAtEnd, wordAtEnd, List.rtake_eq_reverse_take_reverse, List.reverse_reverse,
    List.take_takeWhile, List.reverse_drop]

/-- What a part has in front of an offset in it. -/
theorem take_segment (cs : List Char) {a o b : Nat} (hb : o ≤ b) :
    (Text.segment cs a b).take (o - a) = (cs.take o).drop a := by
  rw [Text.segment, List.take_take, Nat.min_eq_left (by omega), List.drop_take]

theorem placeIn_of_nonneg (text : String) {offset : Int} (h : 0 ≤ offset) :
    placeIn text offset = offset.toNat :=
  if_neg (Int.not_lt.mpr h)

theorem length_toList_partOf (text : String) {a b : Int} (ha : 0 ≤ a) (hab : a ≤ b)
    (hb : b ≤ text.toList.length) : ((partOf text a b).toList.length : Int) = b - a := by
  rw [partOf, String.toList_ofList, placeIn_of_nonneg text ha,
    placeIn_of_nonneg text (Int.le_trans ha hab), Text.segment, List.length_take, List.length_drop]
  omega

/-- **The word before an offset in a part of a text.** -/
theorem wordBefore_part (text : String) {a o b : Int} (ha : 0 ≤ a) (hao : a ≤ o) (hob : o ≤ b)
    (hb : b ≤ text.toList.length) :
    wordBefore (partOf text a b) (o - a) = lastChars (o - a).toNat (wordBefore text o) := by
  have hlength := length_toList_partOf text ha (Int.le_trans hao hob) hb
  obtain ⟨m, rfl⟩ := Int.eq_ofNat_of_zero_le ha
  obtain ⟨k, hk⟩ := Int.le.dest hao
  obtain rfl : o = ((m + k : Nat) : Int) := by omega
  have hcursor : ((m + k : Nat) : Int) - (m : Int) = (k : Nat) := by omega
  have htake : (text.toList.take (m + k)).length = m + k := by
    rw [List.length_take]
    omega
  rw [hcursor, Int.toNat_natCast, wordBefore_toList _ (by omega), wordBefore_toList _ (by omega),
    lastChars, String.toList_ofList, partOf, String.toList_ofList, placeIn_of_nonneg _ ha,
    placeIn_of_nonneg _ (by omega), Int.toNat_natCast]
  congr 1
  calc wordAtEnd ((Text.segment text.toList m b.toNat).take k)
      = wordAtEnd ((text.toList.take (m + k)).drop m) := by
        rw [← take_segment text.toList (show m + k ≤ b.toNat by omega), Nat.add_sub_cancel_left]
    _ = (wordAtEnd (text.toList.take (m + k))).rtake k := by
        rw [wordAtEnd_drop, htake, Nat.add_sub_cancel_left]

theorem wordBefore_congr {text other : String} {o : Int} (ho : 0 ≤ o)
    (hlength : o ≤ text.toList.length)
    (hsame : other.toList.take o.toNat = text.toList.take o.toNat) :
    wordBefore other o = wordBefore text o := by
  have hother := congrArg List.length hsame
  rw [List.length_take, List.length_take] at hother
  obtain ⟨n, rfl⟩ := Int.eq_ofNat_of_zero_le ho
  rw [Int.toNat_natCast] at hsame hother
  rw [wordBefore_toList _ (by omega), wordBefore_toList _ (by omega), hsame]

end Typeahead
