import Mathlib.Data.Prod.Lex
import Typeahead.Proofs.Document.Offset
import Typeahead.Proofs.Text.Lines

/-!
# The lines of a document and the order of positions

The lines of a document partition its text, and the order of positions is kept by
their offsets: a later position never leads to an earlier offset, and positions on
two lines that exist never to the same one. Main statements: `lines_partition` and
`offsetAt_mono`.
-/

namespace Typeahead.Document

open Typeahead.Text

def starts (doc : Document) : List Nat :=
  doc.lines.map Line.start

def stops (doc : Document) : List Nat :=
  doc.lines.map Line.stop

/-! ## The partition -/

theorem one_le_lineCount (doc : Document) : 1 ≤ doc.lineCount := by
  rw [lineCount, lines, (cutInto_lines doc.chars).length_eq]
  exact Nat.le_add_left _ _

theorem head?_starts (doc : Document) : doc.starts.head? = some 0 := by
  obtain ⟨stop, rest, hlines⟩ := (cutInto_lines doc.chars).exists_cons
  rw [starts, lines, hlines]
  rfl

theorem getLast?_stops (doc : Document) : doc.stops.getLast? = some doc.chars.length := by
  rw [stops, List.getLast?_map]
  exact (cutInto_lines doc.chars).getLast?_stop

/-- No character of a line belongs to a break. -/
theorem not_mem_lineChars {cs : List Char} {l : Line} (h : IsLine cs l) :
    '\r' ∉ lineChars cs l ∧ '\n' ∉ lineChars cs l :=
  h.unbroken.not_mem_segment

/-- **The lines partition the text.** They run from its start to its end, none of
them has a character of a break, between two of them stands one break, there are as
many as the breaks tell, and with what stands between them they give back the
text. -/
theorem lines_partition (doc : Document) :
    doc.starts.length = doc.lineCount ∧ doc.stops.length = doc.lineCount ∧ 1 ≤ doc.lineCount ∧
    doc.starts.head? = some 0 ∧ doc.stops.getLast? = some doc.chars.length ∧
    (∀ l ∈ doc.lines, l.start ≤ l.stop ∧ '\r' ∉ lineChars doc.chars l ∧
      '\n' ∉ lineChars doc.chars l) ∧
    doc.lines.IsChain (fun l next =>
      l.stop < next.start ∧ IsGap doc.chars l.stop next.start) ∧
    (doc.lineCount : Int) =
      1 + doc.chars.count '\n' + doc.chars.count '\r' - pairs doc.chars ∧
    withGaps doc.chars doc.lines = doc.chars := by
  have hcut := cutInto_lines doc.chars
  have hcount := length_lines_add_pairs doc.chars
  refine ⟨List.length_map _, List.length_map _, one_le_lineCount doc, head?_starts doc,
    getLast?_stops doc, fun l hl => ?_, ?_, ?_, ?_⟩
  · have hline := isLine_of_mem_lines hl
    exact ⟨hline.start_le_stop, not_mem_lineChars hline⟩
  · exact hcut.isChain.imp fun _ _ hbreak => ⟨hbreak.lt, hbreak.isGap⟩
  · rw [lineCount, lines]
    omega
  · rw [lines, hcut.withGaps_eq, List.drop_zero]

/-- A carriage return alone, one with a line feed, and a line feed before a carriage
return. -/
example : (Document.mk "\r\r\n\n\rb" (.text "plaintext") {}).starts = [0, 1, 3, 4, 5] ∧
    (Document.mk "\r\r\n\n\rb" (.text "plaintext") {}).stops = [0, 1, 3, 4, 6] := by
  decide

/-! ## The order of positions -/

/-- The offset of a line and a column, both counted from zero. -/
def offsetOf (doc : Document) (line units : Nat) : Nat :=
  match doc.lines[line]? with
  | none => doc.chars.length
  | some l => columnOffset doc.chars l units

theorem offsetAt_eq_offsetOf (doc : Document) (line character : Int) :
    doc.offsetAt (Position.of line character) =
      .ok (doc.offsetOf line.toNat character.toNat) :=
  offsetAt_of doc line character

theorem columnOffset_mono (cs : List Char) (l : Line) {u v : Nat} (h : u ≤ v) :
    columnOffset cs l u ≤ columnOffset cs l v :=
  Nat.add_le_add_left (advance16_mono h (lineChars cs l)) l.start

theorem offsetOf_le_length (doc : Document) (line units : Nat) :
    doc.offsetOf line units ≤ doc.chars.length := by
  unfold offsetOf
  split
  · exact Nat.le_refl _
  · next l hget =>
      have hline := isLine_of_mem_lines (List.mem_of_getElem? hget)
      exact Nat.le_trans (columnOffset_le_stop hline units) hline.stop_le_length

theorem offsetOf_mono_units (doc : Document) (line : Nat) {u v : Nat} (h : u ≤ v) :
    doc.offsetOf line u ≤ doc.offsetOf line v := by
  unfold offsetOf
  split
  · exact Nat.le_refl _
  · exact columnOffset_mono _ _ h

/-- Whatever the columns are, an earlier line leads to an earlier offset than a later
line that exists: the break between the two has a character. -/
theorem offsetOf_lt_of_line_lt {doc : Document} {m n : Nat} (h : m < n)
    (hn : n < doc.lineCount) (u v : Nat) : doc.offsetOf m u < doc.offsetOf n v := by
  have hm : m < doc.lines.length := Nat.lt_trans h hn
  have hfront := isLine_of_mem_lines (List.getElem_mem hm)
  have hstop : doc.lines[m].stop < doc.lines[n].start :=
    List.pairwise_iff_getElem.mp (cutInto_lines doc.chars).pairwise m n hm hn h
  rw [offsetOf, offsetOf, List.getElem?_eq_getElem hm, List.getElem?_eq_getElem hn]
  calc columnOffset doc.chars doc.lines[m] u
      ≤ doc.lines[m].stop := columnOffset_le_stop hfront u
    _ < doc.lines[n].start := hstop
    _ ≤ columnOffset doc.chars doc.lines[n] v := start_le_columnOffset _ _ v

theorem offsetOf_le_of_line_lt {doc : Document} {m n : Nat} (h : m < n) (u v : Nat) :
    doc.offsetOf m u ≤ doc.offsetOf n v := by
  rcases Nat.lt_or_ge n doc.lineCount with hn | hn
  · exact Nat.le_of_lt (offsetOf_lt_of_line_lt h hn u v)
  · have hend : doc.offsetOf n v = doc.chars.length := by
      rw [offsetOf, List.getElem?_eq_none hn]
    rw [hend]
    exact offsetOf_le_length doc m u

theorem offsetOf_le_of_toLex_le {doc : Document} {m n u v : Nat}
    (h : toLex (m, u) ≤ toLex (n, v)) : doc.offsetOf m u ≤ doc.offsetOf n v := by
  rcases Prod.Lex.toLex_le_toLex.mp h with hline | ⟨hline, hunits⟩
  · exact offsetOf_le_of_line_lt hline u v
  · obtain rfl : m = n := hline
    exact offsetOf_mono_units doc m hunits

/-- **Offsets keep the order of positions.** Compared by line and then by character,
negative numbers as zero, a position that is not behind another has an offset that is
not behind the other's; on an earlier line than an existing one it is before it. -/
theorem offsetAt_mono (doc : Document) (line₁ character₁ line₂ character₂ : Int) :
    ∃ o₁ o₂, doc.offsetAt (Position.of line₁ character₁) = .ok o₁ ∧
      doc.offsetAt (Position.of line₂ character₂) = .ok o₂ ∧
      (toLex (max line₁ 0, max character₁ 0) ≤ toLex (max line₂ 0, max character₂ 0) →
        o₁ ≤ o₂) ∧
      (max line₁ 0 < max line₂ 0 → max line₂ 0 < doc.lineCount → o₁ < o₂) := by
  refine ⟨_, _, offsetAt_eq_offsetOf doc line₁ character₁,
    offsetAt_eq_offsetOf doc line₂ character₂, fun hle => ?_, fun hlt hexists => ?_⟩
  · apply offsetOf_le_of_toLex_le
    -- `Int.toNat` is the maximum with zero, read as a natural number.
    simp only [Prod.Lex.toLex_le_toLex] at hle ⊢
    omega
  · exact offsetOf_lt_of_line_lt (by omega) (by omega) _ _

/-- Far behind the end of the first line and before the start of the empty second. -/
theorem offsetAt_mono_past_surrogates :
    ∃ o₁ o₂,
      (Document.mk "a😀\r\n\nb" (.text "plaintext") {}).offsetAt (Position.of (-3) 70) = .ok o₁ ∧
      (Document.mk "a😀\r\n\nb" (.text "plaintext") {}).offsetAt (Position.of 1 (-5)) = .ok o₂ ∧
      o₁ < o₂ := by
  obtain ⟨o₁, o₂, h₁, h₂, -, hlt⟩ :=
    offsetAt_mono (Document.mk "a😀\r\n\nb" (.text "plaintext") {}) (-3) 70 1 (-5)
  exact ⟨o₁, o₂, h₁, h₂, hlt (by decide) (by decide)⟩

end Typeahead.Document
