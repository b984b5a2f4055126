import Mathlib.Data.List.Basic
import Typeahead.Document
import Typeahead.Proofs.Text.Break
import Typeahead.Text.Lines

/-!
# Positions and offsets

Counting characters until a number of UTF-16 units is reached undoes counting the units of
characters: `advance16_le_iff`. So the position of an offset, said by the line breaks
before it and the width of what follows the last of them, leads back to it, and no position
leads into a line break: `offsetAt_line_column`.
-/

namespace Typeahead

/-! ## Columns -/

namespace Text

/-- **Where a column stops.** -/
theorem advance16_le_iff {units : Nat} {cs : List Char} {k : Nat} :
    advance16 units cs ≤ k ↔ cs.length ≤ k ∨ units ≤ width16 (cs.take k) := by
  induction cs generalizing units k with
  | nil => simp [advance16]
  | cons c rest ih =>
      have hc := units16_pos c
      rcases Nat.eq_zero_or_pos units with rfl | hunits
      · simp [advance16]
      · rw [advance16, if_neg (Nat.ne_of_gt hunits)]
        cases k with
        | zero =>
            simp only [List.take_zero, width16, List.length_cons]
            omega
        | succ k =>
            rw [Nat.succ_le_succ_iff, ih, List.take_succ_cons, width16, List.length_cons]
            omega

theorem advance16_mono {u v : Nat} (h : u ≤ v) (cs : List Char) :
    advance16 u cs ≤ advance16 v cs := by
  rcases advance16_le_iff.mp (Nat.le_refl (advance16 v cs)) with hend | hunits
  · exact advance16_le_iff.mpr (.inl hend)
  · exact advance16_le_iff.mpr (.inr (Nat.le_trans h hunits))

theorem width16_take_lt {cs : List Char} {j k : Nat} (hjk : j < k) (hk : k ≤ cs.length) :
    width16 (cs.take j) < width16 (cs.take k) := by
  induction cs generalizing j k with
  | nil => simp at hk; omega
  | cons c rest ih =>
      have hc := units16_pos c
      obtain ⟨k, rfl⟩ : ∃ k', k = k' + 1 := ⟨k - 1, by omega⟩
      cases j with
      | zero =>
          rw [List.take_zero, List.take_succ_cons, width16, width16]
          omega
      | succ j =>
          rw [List.take_succ_cons, List.take_succ_cons, width16, width16]
          have hrest := ih (Nat.lt_of_succ_lt_succ hjk) (by simpa using hk)
          omega

/-- **The column of a place leads back to it.** -/
theorem advance16_width16_take {cs : List Char} {k : Nat} (hk : k ≤ cs.length) :
    advance16 (width16 (cs.take k)) cs = k := by
  apply Nat.le_antisymm
  · exact advance16_le_iff.mpr (.inr (Nat.le_refl _))
  · by_contra hlt
    -- A stop before `k` would have as many units behind it as `k` has.
    rcases advance16_le_iff.mp (Nat.le_refl (advance16 (width16 (cs.take k)) cs)) with hend | hunits
    · omega
    · exact Nat.not_lt_of_le hunits (width16_take_lt (by omega) hk)

end Text

namespace Document

open Typeahead.Text

/-- How many line breaks end at or before an offset. -/
def lineAt (cs : List Char) (o : Nat) : Nat :=
  (endsWithin cs 0 o).length

/-- The end of the last line break that ends at or before an offset, or the
start of the text. -/
def lineStartAt (cs : List Char) (o : Nat) : Nat :=
  (endsWithin cs 0 o).getLastD 0

/-- The UTF-16 units between the start of its line and an offset. -/
def columnAt (cs : List Char) (o : Nat) : Nat :=
  width16 ((cs.take o).drop (lineStartAt cs o))

/-! ## Columns on a line -/

theorem length_lineChars {cs : List Char} {l : Line} (h : IsLine cs l) :
    (lineChars cs l).length = l.stop - l.start := by
  have hstop := h.stop_le_length
  rw [lineChars, List.length_take, List.length_drop]
  omega

theorem take_lineChars (cs : List Char) {l : Line} {o : Nat} (hstop : o ≤ l.stop) :
    (lineChars cs l).take (o - l.start) = (cs.take o).drop l.start := by
  rw [lineChars, List.take_take, Nat.min_eq_left (by omega), List.drop_take]

theorem start_le_columnOffset (cs : List Char) (l : Line) (units : Nat) :
    l.start ≤ columnOffset cs l units :=
  Nat.le_add_right _ _

theorem columnOffset_le_stop {cs : List Char} {l : Line} (h : IsLine cs l) (units : Nat) :
    columnOffset cs l units ≤ l.stop := by
  have hle := advance16_le_length units (lineChars cs l)
  have hline := h.start_le_stop
  rw [length_lineChars h] at hle
  rw [columnOffset]
  omega

theorem columnOffset_width16 {cs : List Char} {l : Line} (h : IsLine cs l) {o : Nat}
    (hstart : l.start ≤ o) (hstop : o ≤ l.stop) :
    columnOffset cs l (width16 ((cs.take o).drop l.start)) = o := by
  rw [columnOffset, ← take_lineChars cs hstop,
    advance16_width16_take (by rw [length_lineChars h]; omega)]
  omega

/-! ## Offsets of positions -/

theorem offsetAt_of (doc : Document) (line character : Int) :
    doc.offsetAt (Position.of line character) = .ok (match doc.lines[line.toNat]? with
      | none => doc.chars.length
      | some l => columnOffset doc.chars l character.toNat) := by
  simp only [offsetAt, Position.of, Coordinate.whole, Coordinate.wholeOf, bind, Except.bind]
  cases doc.lines[line.toNat]? <;> rfl

theorem offsetAt_of_line {doc : Document} {line : Int} {l : Line}
    (h : doc.lines[line.toNat]? = some l) (character : Int) :
    doc.offsetAt (Position.of line character) =
      .ok (columnOffset doc.chars l character.toNat) := by
  rw [offsetAt_of, h]

theorem offsetAt_of_lineCount_le {doc : Document} {line : Int}
    (h : doc.lineCount ≤ line.toNat) (character : Int) :
    doc.offsetAt (Position.of line character) = .ok doc.chars.length := by
  rw [offsetAt_of, List.getElem?_eq_none h]

theorem not_insidePair_length (cs : List Char) : ¬ InsidePair cs cs.length := by
  rintro ⟨_, _, hlf⟩
  simp at hlf

/-- The line of an offset starts where its last break ends, and reaches to it. -/
theorem lines_getElem?_lineAt (cs : List Char) {o : Nat} (ho : o ≤ cs.length)
    (hout : ¬ InsidePair cs o) :
    ∃ stop, (Text.lines cs)[lineAt cs o]? = some ⟨lineStartAt cs o, stop⟩ ∧
      lineStartAt cs o ≤ o ∧ o ≤ stop :=
  (cutInto_lines cs).getElem?_ends (Nat.zero_le o) ho hout

theorem offsetAt_lineAt (doc : Document) {o : Nat} (ho : o ≤ doc.chars.length)
    (hout : ¬ InsidePair doc.chars o) :
    doc.offsetAt (Position.of (lineAt doc.chars o) (columnAt doc.chars o)) = .ok o := by
  obtain ⟨stop, hget, hstart, hstop⟩ := lines_getElem?_lineAt doc.chars ho hout
  have hline := isLine_of_mem_lines (List.mem_of_getElem? hget)
  have hget' : doc.lines[((lineAt doc.chars o : Nat) : Int).toNat]? =
      some ⟨lineStartAt doc.chars o, stop⟩ := hget
  rw [offsetAt_of_line hget', Int.toNat_natCast, columnAt,
    columnOffset_width16 hline hstart hstop]

theorem exists_offsetAt (doc : Document) (line character : Int) :
    ∃ o, doc.offsetAt (Position.of line character) = .ok o ∧ o ≤ doc.chars.length ∧
      ¬ InsidePair doc.chars o := by
  rcases Nat.lt_or_ge line.toNat doc.lineCount with hlt | hge
  · have hget := List.getElem?_eq_getElem hlt
    have hline := isLine_of_mem_lines (List.mem_of_getElem? hget)
    have hstop := columnOffset_le_stop hline character.toNat
    exact ⟨_, offsetAt_of_line hget character, Nat.le_trans hstop hline.stop_le_length,
      hline.not_insidePair (start_le_columnOffset _ _ _) hstop⟩
  · exact ⟨_, offsetAt_of_lineCount_le hge character, Nat.le_refl _, not_insidePair_length _⟩

/-- **Positions and offsets.** The line and column of an offset lead back to it,
unless it lies inside a pair; and whatever the line and the character are, they
lead to an offset of the text that is inside no pair. -/
theorem offsetAt_line_column (doc : Document) :
    (∀ o, o ≤ doc.chars.length → ¬ InsidePair doc.chars o →
      doc.offsetAt (Position.of (lineAt doc.chars o) (columnAt doc.chars o)) = .ok o) ∧
    ∀ line character : Int, ∃ o, doc.offsetAt (Position.of line character) = .ok o ∧
      o ≤ doc.chars.length ∧ ¬ InsidePair doc.chars o := by
  constructor
  · intro o ho hout
    exact offsetAt_lineAt doc ho hout
  · exact exists_offsetAt doc

/-- Behind an astral character, on the third line of a text with two kinds of
breaks. -/
theorem offsetAt_line_column_behind_astral :
    8 ≤ (Document.mk "a\r\nb\rc😀de" (.text "plaintext") {}).chars.length ∧
    ¬ InsidePair (Document.mk "a\r\nb\rc😀de" (.text "plaintext") {}).chars 8 ∧
    (Document.mk "a\r\nb\rc😀de" (.text "plaintext") {}).offsetAt (Position.of 2 4) = .ok 8 :=
  ⟨by decide, by decide,
    (offsetAt_line_column (Document.mk "a\r\nb\rc😀de" (.text "plaintext") {})).1 8 (by decide)
      (by decide)⟩

end Document

end Typeahead
