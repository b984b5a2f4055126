import Typeahead.Proofs.Document.Offset
import Typeahead.Proofs.Text.Lines

/-!
# Columns on a line

Where a column leads to on its line: to the first offset that has as many UTF-16
units of the line before it, or to the end of the line where there are not so many.
Main statement: `offsetAt_le_iff`. A column inside a surrogate pair is so rounded
up, and one outside the line is moved to the nearer end of it.
-/

namespace Typeahead.Document

open Typeahead.Text

variable {cs : List Char} {l : Line}

/-! ## The units before an offset -/

theorem take_lineChars_eq_segment (cs : List Char) {o : Nat} (hstop : o ≤ l.stop) :
    (lineChars cs l).take (o - l.start) = Text.segment cs l.start o := by
  rw [take_lineChars cs hstop, Text.segment, List.drop_take]

theorem width16_segment_succ {a o : Nat} {c : Char} (ha : a ≤ o) (hc : cs[o]? = some c) :
    width16 (Text.segment cs a (o + 1)) = width16 (Text.segment cs a o) + units16 c := by
  have hsub : o + 1 - a = (o - a) + 1 := by omega
  have hget : (cs.drop a)[o - a]? = some c := by
    rw [List.getElem?_drop, Nat.add_sub_cancel' ha, hc]
  rw [Text.segment, Text.segment, hsub, List.take_add_one, hget, width16_append]
  rfl

theorem width16_segment_lt {a o p : Nat} (ha : a ≤ o) (hop : o < p) (hp : p ≤ cs.length) :
    width16 (Text.segment cs a o) < width16 (Text.segment cs a p) := by
  have hlength : p - a ≤ (cs.drop a).length := by
    rw [List.length_drop]
    omega
  exact width16_take_lt (by omega) hlength

/-! ## Where a column leads -/

/-- **Where a column leads.** No farther than an offset of the line exactly when
enough units lie before that offset, or when the line ends there. -/
theorem columnOffset_le_iff (hline : IsLine cs l) {o : Nat} (hstart : l.start ≤ o)
    (hstop : o ≤ l.stop) (units : Nat) :
    columnOffset cs l units ≤ o ↔ o = l.stop ∨ units ≤ width16 (Text.segment cs l.start o) := by
  have hle := hline.start_le_stop
  have hadvance : columnOffset cs l units ≤ o ↔
      advance16 units (lineChars cs l) ≤ o - l.start := by
    rw [columnOffset]
    omega
  rw [hadvance, advance16_le_iff, take_lineChars_eq_segment cs hstop, length_lineChars hline]
  constructor
  · rintro (hend | hunits)
    · exact .inl (by omega)
    · exact .inr hunits
  · rintro (rfl | hunits)
    · exact .inl (Nat.le_refl _)
    · exact .inr hunits

theorem columnOffset_zero (hline : IsLine cs l) : columnOffset cs l 0 = l.start := by
  apply Nat.le_antisymm
  · exact (columnOffset_le_iff hline (Nat.le_refl _) hline.start_le_stop 0).mpr
      (.inr (Nat.zero_le _))
  · exact start_le_columnOffset cs l 0

theorem columnOffset_of_width_le (hline : IsLine cs l) {units : Nat}
    (hunits : width16 (Text.segment cs l.start l.stop) ≤ units) :
    columnOffset cs l units = l.stop := by
  have hstart := start_le_columnOffset cs l units
  have hstop := columnOffset_le_stop hline units
  rcases (columnOffset_le_iff hline hstart hstop units).mp (Nat.le_refl _) with hend | hbefore
  · exact hend
  · -- An offset before the end has fewer units before it than the line has.
    by_contra hne
    have hlt := width16_segment_lt hstart (Nat.lt_of_le_of_ne hstop hne) hline.stop_le_length
    omega

/-- **A column inside a surrogate pair** leads behind the astral character. -/
theorem columnOffset_of_inside_astral (hline : IsLine cs l) {o : Nat} {c : Char}
    (hstart : l.start ≤ o) (hstop : o < l.stop) (hc : cs[o]? = some c)
    (hastral : 0xFFFF < c.toNat) :
    columnOffset cs l (width16 (Text.segment cs l.start o) + 1) = o + 1 := by
  have hunits : units16 c = 2 := if_pos hastral
  have hwidth := width16_segment_succ hstart hc
  have hupper : columnOffset cs l (width16 (Text.segment cs l.start o) + 1) ≤ o + 1 := by
    rw [columnOffset_le_iff hline (by omega) (by omega)]
    omega
  have hlower : ¬ columnOffset cs l (width16 (Text.segment cs l.start o) + 1) ≤ o := by
    rw [columnOffset_le_iff hline hstart (Nat.le_of_lt hstop)]
    omega
  omega

/-! ## Positions -/

theorem stop_lt_start_of_next {doc : Document} {i : Nat} {next : Line}
    (hget : doc.lines[i]? = some l) (hnext : doc.lines[i + 1]? = some next) :
    l.stop < next.start := by
  obtain ⟨hi, rfl⟩ := List.getElem?_eq_some_iff.mp hget
  obtain ⟨hi', rfl⟩ := List.getElem?_eq_some_iff.mp hnext
  exact List.pairwise_iff_getElem.mp (cutInto_lines doc.chars).pairwise i (i + 1) hi hi'
    (Nat.lt_succ_self i)

/-- **Columns are rounded up and kept on their line.** On a line that exists, every
column leads to an offset of the line, and to none behind an offset of it exactly when
the line ends there or has as many units before it. So a column inside a surrogate
pair leads behind the astral character, a column that is not positive to the start of
the line, one at the end of the line or behind it to the end, and none into the break
or the next line. -/
theorem offsetAt_le_iff {doc : Document} {line : Int} (h : doc.lines[line.toNat]? = some l)
    (character : Int) :
    ∃ p, doc.offsetAt (Position.of line character) = .ok p ∧ l.start ≤ p ∧ p ≤ l.stop ∧
      (∀ o, l.start ≤ o → o ≤ l.stop →
        (p ≤ o ↔ o = l.stop ∨ character ≤ width16 (Text.segment doc.chars l.start o))) ∧
      (∀ o c, l.start ≤ o → o < l.stop → doc.chars[o]? = some c → 0xFFFF < c.toNat →
        character = width16 (Text.segment doc.chars l.start o) + 1 → p = o + 1) ∧
      (character ≤ 0 → p = l.start) ∧
      (width16 (Text.segment doc.chars l.start l.stop) ≤ character → p = l.stop) ∧
      ∀ next, doc.lines[line.toNat + 1]? = some next → p < next.start := by
  have hline := isLine_of_mem_lines (List.mem_of_getElem? h)
  have hstop := columnOffset_le_stop hline character.toNat
  refine ⟨columnOffset doc.chars l character.toNat, offsetAt_of_line h character,
    start_le_columnOffset _ _ _, hstop, ?_, ?_, ?_, ?_, ?_⟩
  · intro o hstart hstop
    rw [columnOffset_le_iff hline hstart hstop, Int.toNat_le]
  · intro o c hstart hstop hc hastral hinside
    have hunits : character.toNat = width16 (Text.segment doc.chars l.start o) + 1 := by omega
    rw [hunits]
    exact columnOffset_of_inside_astral hline hstart hstop hc hastral
  · intro hzero
    rw [Int.toNat_of_nonpos hzero]
    exact columnOffset_zero hline
  · intro hwide
    exact columnOffset_of_width_le hline (by omega)
  · intro next hnext
    exact Nat.lt_of_le_of_lt hstop (stop_lt_start_of_next h hnext)

/-- The fourth column of the second line lies inside its second surrogate pair. -/
theorem offsetAt_le_iff_inside_astral :
    (Document.mk "ok\r\na😀😀b\n" (.text "plaintext") {}).lines[(1 : Int).toNat]? = some ⟨4, 8⟩ ∧
    (Document.mk "ok\r\na😀😀b\n" (.text "plaintext") {}).offsetAt (Position.of 1 4) = .ok 7 := by
  have hget : (Document.mk "ok\r\na😀😀b\n" (.text "plaintext") {}).lines[(1 : Int).toNat]? =
      some ⟨4, 8⟩ := by decide
  obtain ⟨p, hoffset, -, -, -, hinside, -⟩ := offsetAt_le_iff hget 4
  refine ⟨hget, ?_⟩
  rw [hoffset, hinside 6 '😀' (by decide) (by decide) (by decide) (by decide) (by decide)]

end Typeahead.Document
