import Mathlib.Data.Rat.Floor
import Typeahead.Proofs.Document.Offset
import Typeahead.Proofs.Text.Numeral

/-!
# Coordinates that stand for no number

The relation `Coordinate.Stands` says which whole number a coordinate stands for. A
position leads nowhere if its line stands for none, or if its line exists and its
character stands for none. Main statement: `offsetAt_of_coordinates`.
-/

namespace Typeahead

open Typeahead.Text

namespace Coordinate

/-- The whole number that a coordinate stands for: a truth value counts as one or zero,
the fraction of a finite number is cut off, and a text has to be a numeral. Whatever
else is given stands for none, and neither does what is missing. -/
inductive Stands : Coordinate → Int → Prop
  | int (n : Int) : Stands (.given (.int n)) n
  | no : Stands (.given (.bool false)) 0
  | yes : Stands (.given (.bool true)) 1
  | negative {x : Decimal} {q : Rat} (h : x.amount = .finite q) (hq : q < 0) :
    Stands (.given (.real x)) ⌈q⌉
  | nonnegative {x : Decimal} {q : Rat} (h : x.amount = .finite q) (hq : 0 ≤ q) :
    Stands (.given (.real x)) ⌊q⌋
  | numeral {text : String} {negative : Bool} {values : List Nat}
    (h : Numeral.IsNumeral text.toList negative values)
    (hlength : values.length ≤ Numeral.digitLimit) :
    Stands (.given (.text text)) (Numeral.number negative values)

end Coordinate

/-! ## What is cut off -/

theorem tdiv_eq_floor {q : Rat} (hq : 0 ≤ q) : q.num.tdiv q.den = ⌊q⌋ := by
  rw [Int.tdiv_eq_ediv_of_nonneg (Rat.num_nonneg.mpr hq), ← Rat.floor_def']

theorem tdiv_eq_ceil {q : Rat} (hq : q < 0) : q.num.tdiv q.den = ⌈q⌉ := by
  have hfloor := tdiv_eq_floor (neg_nonneg.mpr hq.le)
  rw [Rat.neg_num, Rat.neg_den, Int.neg_tdiv, Int.floor_neg] at hfloor
  exact neg_injective hfloor

namespace Coordinate

theorem stands_of_amount {x : Decimal} {q : Rat} (h : x.amount = .finite q) :
    Stands (.given (.real x)) (q.num.tdiv q.den) := by
  rcases lt_or_ge q 0 with hq | hq
  · rw [tdiv_eq_ceil hq]
    exact .negative h hq
  · rw [tdiv_eq_floor hq]
    exact .nonnegative h hq

theorem whole_of_amount {x : Decimal} {q : Rat} (h : x.amount = .finite q) :
    whole (.given (.real x)) = .ok (q.num.tdiv q.den) := by
  rw [whole, wholeOf, Decimal.truncate?, h]

/-! ## What a coordinate stands for -/

theorem whole_of_stands {coordinate : Coordinate} {n : Int} (h : coordinate.Stands n) :
    coordinate.whole = .ok n := by
  cases h with
  | int | no | yes => rfl
  | negative h hq => rw [whole_of_amount h, tdiv_eq_ceil hq]
  | nonnegative h hq => rw [whole_of_amount h, tdiv_eq_floor hq]
  | numeral h hlength =>
    rw [whole, wholeOf, Numeral.parse_eq_ok_iff.mpr ⟨_, _, h, hlength, rfl⟩]
    rfl

theorem stands_of_whole {coordinate : Coordinate} {n : Int} (h : coordinate.whole = .ok n) :
    coordinate.Stands n := by
  cases coordinate with
  | missing => cases h
  | given v =>
    cases v with
    | null | nan | list _ | table _ => cases h
    | int m =>
      obtain rfl := Except.ok.inj h
      exact .int m
    | bool b =>
      obtain rfl := Except.ok.inj h
      cases b with
      | false => exact .no
      | true => exact .yes
    | real x =>
      cases hamount : x.amount with
      | infinite negative =>
        rw [whole, wholeOf, Decimal.truncate?, hamount] at h
        cases h
      | finite q =>
        rw [whole_of_amount hamount] at h
        obtain rfl := Except.ok.inj h
        exact stands_of_amount hamount
    | text s =>
      rw [whole, wholeOf] at h
      cases hparse : Numeral.parse s with
      | error trouble =>
        rw [hparse] at h
        cases h
      | ok m =>
        rw [hparse] at h
        obtain rfl := Except.ok.inj h
        obtain ⟨negative, values, hnumeral, hlength, rfl⟩ := Numeral.parse_eq_ok_iff.mp hparse
        exact .numeral hnumeral hlength

theorem whole_eq_error_iff {coordinate : Coordinate} :
    (∃ trouble, coordinate.whole = .error trouble) ↔ ∀ n, ¬ coordinate.Stands n := by
  constructor
  · rintro ⟨trouble, htrouble⟩ n hn
    rw [whole_of_stands hn] at htrouble
    cases htrouble
  · intro hnone
    cases hwhole : coordinate.whole with
    | error trouble => exact ⟨trouble, rfl⟩
    | ok n => exact absurd (stands_of_whole hwhole) (hnone n)

theorem stands_of_isSpelling {text : String} {n : Int} (h : Numeral.IsSpelling text n) :
    Stands (.given (.text text)) n := by
  refine stands_of_whole ?_
  rw [whole, wholeOf, h.parse]
  rfl

end Coordinate

namespace Document

variable {doc : Document} {position : Position}

/-! ## Offsets of positions -/

theorem offsetAt_of_line_error {trouble : Coordinate.Trouble}
    (h : position.line.whole = .error trouble) : doc.offsetAt position = .error trouble := by
  rw [offsetAt, h]
  rfl

/-- Behind the last line the character does not matter. -/
theorem offsetAt_of_line_behind {line : Int} (h : position.line.whole = .ok line)
    (hbehind : doc.lineCount ≤ line.toNat) : doc.offsetAt position = .ok doc.chars.length := by
  have hnone : doc.lines[line.toNat]? = none := List.getElem?_eq_none hbehind
  simp only [offsetAt, h, bind, Except.bind, hnone]
  rfl

theorem offsetAt_of_character_error {line : Int} {trouble : Coordinate.Trouble}
    (h : position.line.whole = .ok line) (hexists : line.toNat < doc.lineCount)
    (hcharacter : position.character.whole = .error trouble) :
    doc.offsetAt position = .error trouble := by
  have hsome := List.getElem?_eq_getElem hexists
  simp only [offsetAt, h, bind, Except.bind, hcharacter]
  rw [lineCount] at hexists
  rw [hsome]

theorem offsetAt_of_whole {line character : Int} (hline : position.line.whole = .ok line)
    (hcharacter : position.character.whole = .ok character) :
    doc.offsetAt position = doc.offsetAt (Position.of line character) := by
  rw [offsetAt, offsetAt, hline, hcharacter]
  rfl

theorem offsetAt_congr {other : Position} (hline : position.line.whole = other.line.whole)
    (hcharacter : position.character.whole = other.character.whole) :
    doc.offsetAt position = doc.offsetAt other := by
  rw [offsetAt, offsetAt, hline, hcharacter]

theorem offsetAt_eq_error_iff : (∃ trouble, doc.offsetAt position = .error trouble) ↔
    (∀ line, ¬ position.line.Stands line) ∨
      ∃ line, position.line.Stands line ∧ line.toNat < doc.lineCount ∧
        ∀ character, ¬ position.character.Stands character := by
  constructor
  · rintro ⟨trouble, htrouble⟩
    by_cases hline : ∃ line, position.line.Stands line
    · obtain ⟨line, hline⟩ := hline
      have hwhole := Coordinate.whole_of_stands hline
      right
      refine ⟨line, hline, ?_, ?_⟩
      · by_contra hbehind
        rw [offsetAt_of_line_behind hwhole (Nat.not_lt.mp hbehind)] at htrouble
        cases htrouble
      · intro character hcharacter
        rw [offsetAt_of_whole hwhole (Coordinate.whole_of_stands hcharacter), offsetAt_of]
          at htrouble
        cases htrouble
    · left
      exact not_exists.mp hline
  · rintro (hnone | ⟨line, hline, hexists, hnone⟩)
    · obtain ⟨trouble, htrouble⟩ := Coordinate.whole_eq_error_iff.mpr hnone
      exact ⟨trouble, offsetAt_of_line_error htrouble⟩
    · obtain ⟨trouble, htrouble⟩ := Coordinate.whole_eq_error_iff.mpr hnone
      exact ⟨trouble, offsetAt_of_character_error (Coordinate.whole_of_stands hline) hexists
        htrouble⟩

/-- **Coordinates that stand for no number.** A position leads nowhere if its line stands
for no number, or if its line exists and its character stands for none; the line is
blamed first. Behind the last line the end of the text is the answer whatever the
character is. Otherwise a position leads where the numbers lead that its coordinates
stand for, so that a decimal spelling of a number does what the number does. -/
theorem offsetAt_of_coordinates (doc : Document) (position : Position) :
    ((∃ trouble, doc.offsetAt position = .error trouble) ↔
      (∀ line, ¬ position.line.Stands line) ∨
        ∃ line, position.line.Stands line ∧ line.toNat < doc.lineCount ∧
          ∀ character, ¬ position.character.Stands character) ∧
    (∀ trouble, position.line.whole = .error trouble →
      doc.offsetAt position = .error trouble) ∧
    (∀ line, position.line.Stands line →
      (doc.lineCount ≤ line.toNat → doc.offsetAt position = .ok doc.chars.length) ∧
      (∀ trouble, line.toNat < doc.lineCount → position.character.whole = .error trouble →
        doc.offsetAt position = .error trouble) ∧
      ∀ character, position.character.Stands character →
        doc.offsetAt position = doc.offsetAt (Position.of line character)) ∧
    ∀ text n, Numeral.IsSpelling text n →
      doc.offsetAt { position with line := .given (.text text) } =
        doc.offsetAt { position with line := .given (.int n) } ∧
      doc.offsetAt { position with character := .given (.text text) } =
        doc.offsetAt { position with character := .given (.int n) } := by
  refine ⟨offsetAt_eq_error_iff, fun _ => offsetAt_of_line_error, ?_, ?_⟩
  · intro line hline
    have hwhole := Coordinate.whole_of_stands hline
    refine ⟨offsetAt_of_line_behind hwhole, fun _ => offsetAt_of_character_error hwhole, ?_⟩
    intro character hcharacter
    exact offsetAt_of_whole hwhole (Coordinate.whole_of_stands hcharacter)
  · intro text n hspelling
    have hwhole := Coordinate.whole_of_stands (Coordinate.stands_of_isSpelling hspelling)
    exact ⟨offsetAt_congr hwhole rfl, offsetAt_congr rfl hwhole⟩

/-- A spelling of one, and the fraction of a number, in a text of two lines; on the
second of them the character is looked at, behind it only the line. -/
theorem offsetAt_of_coordinates_two_lines :
    Numeral.IsSpelling " +01 " 1 ∧
    (Document.mk "ab\ncd" (.text "plaintext") {}).offsetAt
      ⟨.given (.text " +01 "), .given (.real ⟨false, 19, -1⟩)⟩ = .ok 4 ∧
    (Document.mk "ab\ncd" (.text "plaintext") {}).offsetAt ⟨.given (.int 1), .missing⟩ =
      .error .missing ∧
    (Document.mk "ab\ncd" (.text "plaintext") {}).offsetAt ⟨.given (.int 2), .missing⟩ =
      .ok 5 := by
  have hspelling : Numeral.IsSpelling " +01 " 1 :=
    @Numeral.IsSpelling.mk [' '] ['+'] [' '] false 1 1 (List.all_eq_true.mp (by decide))
      (List.all_eq_true.mp (by decide)) .plus (by decide)
  have hspelled := ((offsetAt_of_coordinates (Document.mk "ab\ncd" (.text "plaintext") {})
    ⟨.missing, .given (.real ⟨false, 19, -1⟩)⟩).2.2.2 " +01 " 1 hspelling).1
  have hsecond := (offsetAt_of_coordinates (Document.mk "ab\ncd" (.text "plaintext") {})
    ⟨.given (.int 1), .missing⟩).2.2.1 1 (.int 1)
  have hbehind := (offsetAt_of_coordinates (Document.mk "ab\ncd" (.text "plaintext") {})
    ⟨.given (.int 2), .missing⟩).2.2.1 2 (.int 2)
  refine ⟨hspelling, ?_, ?_, ?_⟩
  · rw [hspelled]
    decide +kernel
  · exact hsecond.2.1 .missing (by decide) rfl
  · exact hbehind.1 (by decide)

end Document

end Typeahead
