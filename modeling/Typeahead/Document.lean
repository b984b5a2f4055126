import Typeahead.Config
import Typeahead.Text.Lines
import Typeahead.Text.Numeral

/-!
# Documents and positions

An editor names a place by its line and by a column in UTF-16 units. A
document turns such a position into an offset in characters: a column past its
line means the end of the line, a line past the last means the end of the
text, and negative numbers count as zero.
-/

namespace Typeahead

open Typeahead.Text

structure Document where
  text : String
  /-- The markup dialect, which selects the fragmentizer. Nobody has checked it yet. -/
  languageId : Value := .text "plaintext"
  settings : Settings := {}
  deriving Repr, Inhabited

/-- One number of a position, as the editor sent it. -/
inductive Coordinate where
  /-- The position has no such number. -/
  | missing
  | given (v : Value)
  deriving Repr, Inhabited

/-- A place in a document, by line and by column in UTF-16 units. -/
structure Position where
  line : Coordinate
  character : Coordinate
  deriving Repr, Inhabited

namespace Coordinate

inductive Trouble where
  | missing
  | misfit (m : Misfit)
  | numeral (t : Numeral.Trouble)
  /-- The number is beyond every finite one. -/
  | infinite
  | notANumber
  deriving DecidableEq, Repr

def wholeOf : Value → Except Trouble Int
  | .int n => .ok n
  | .bool b => .ok (if b then 1 else 0)
  | .real x => match x.truncate? with
    | some n => .ok n
    | none => .error .infinite
  | .nan => .error .notANumber
  | .text s => (Numeral.parse s).mapError .numeral
  | .null | .list _ | .table _ => .error (.misfit .notNumber)

/-- The whole number of a coordinate: fractions are cut off, truth values
count as one and zero, and texts are read as numerals. -/
def whole : Coordinate → Except Trouble Int
  | .missing => .error .missing
  | .given v => wholeOf v

end Coordinate

def Position.of (line character : Int) : Position :=
  ⟨.given (.int line), .given (.int character)⟩

namespace Document

def ofValue (text languageId : Value) (settings : Settings) : Except Misfit Document :=
  match text with
  | .text s => .ok ⟨s, languageId, settings⟩
  | _ => .error .notText

def chars (doc : Document) : List Char :=
  doc.text.toList

def lines (doc : Document) : List Line :=
  Text.lines doc.chars

def lineCount (doc : Document) : Nat :=
  doc.lines.length

def lineChars (cs : List Char) (line : Line) : List Char :=
  (cs.drop line.start).take (line.stop - line.start)

def columnOffset (cs : List Char) (line : Line) (units : Nat) : Nat :=
  line.start + advance16 units (lineChars cs line)

/-- The offset of a position. The character is looked at only on a line that
exists. -/
def offsetAt (doc : Document) (position : Position) : Except Coordinate.Trouble Nat := do
  let line ← position.line.whole
  match doc.lines[line.toNat]? with
  | none => pure doc.chars.length
  | some l =>
    let character ← position.character.whole
    pure (columnOffset doc.chars l character.toNat)

def equals (a b : Document) : Bool :=
  a.text == b.text && a.languageId.equals b.languageId && a.settings.equals b.settings

end Document

end Typeahead
