import Typeahead.Number.Decimal
import Typeahead.Template.Layout

/-!
# Layouts of whole numbers

A whole number is shown in one of several bases, as the character of that
number, or with decimal places, with an exponent or as a percentage. Its digits
may be separated into groups, and may be filled up with zeros behind its sign.
-/

namespace Typeahead.Template.Layout

open Typeahead.Text

/-- A number in the parts that a layout arranges. -/
structure Numeral where
  negative : Bool
  /-- The mark of the base. -/
  mark : List Char := []
  digits : List Char
  /-- What follows the whole part. -/
  tail : List Char := []
  deriving DecidableEq, Repr

/-- The digits of a number in a base, most significant first. -/
def digitsIn (base n : Nat) : List Char :=
  Nat.toDigits base n

def groupSize (type : Char) : Nat :=
  if "boxX".toList.contains type then 4 else 3

/-- How many digits in groups of `size`, with separators, fill at least `width` places. -/
def groupedDigits (size width : Nat) : Nat :=
  let whole := (width - 1) / (size + 1)
  whole * size + min ((width - 1) % (size + 1)) size + 1

/-- Digits with a separator in front of every full group but the first; the
last digit comes first. -/
def separate (size : Nat) (mark : Char) (digits : List Char) : List Char :=
  (digits.mapIdx fun i c => if i ≠ 0 && i % size = 0 then [mark, c] else [c]).flatten

/-- Digits filled up with zeros to a least width, and in groups if there is a separator. -/
def Form.group (form : Form) (digits : List Char) (least : Nat) : List Char :=
  let filled := fun (n : Nat) => List.replicate (n - digits.length) '0' ++ digits
  match form.separator with
  | none => filled least
  | some mark =>
    let size := groupSize form.type
    (separate size mark (filled (groupedDigits size least)).reverse).reverse

def Form.shownSign (form : Form) (negative : Bool) : List Char :=
  if negative then ['-']
  else match form.sign with
    | some '+' => ['+']
    | some ' ' => [' ']
    | _ => []

def Form.arrange (form : Form) (n : Numeral) : List Char :=
  let sign := form.shownSign n.negative
  let others := sign.length + n.mark.length + n.tail.length
  let least := if form.fill = '0' && form.align = '=' then form.width - others else 0
  let digits := if n.digits.isEmpty then [] else form.group n.digits least
  let missing := form.width - (others + digits.length)
  let filling := fun (count : Nat) => List.replicate count form.fill
  let front := sign ++ n.mark
  let body := digits ++ n.tail
  match form.align with
  | '<' => front ++ body ++ filling missing
  | '^' => filling (missing / 2) ++ front ++ body ++ filling (missing - missing / 2)
  | '=' => front ++ filling missing ++ body
  | _ => filling missing ++ front ++ body

/-! ## Whole numbers -/

/-- The base of a type, and the mark that stands for it. -/
def base (type : Char) : Nat × String :=
  match type with
  | 'b' => (2, "0b")
  | 'o' => (8, "0o")
  | 'x' => (16, "0x")
  | 'X' => (16, "0X")
  | _ => (10, "")

def Form.wholeNumeral (form : Form) (n : Int) : Numeral :=
  let inBase := base form.type
  let digits := digitsIn inBase.1 n.natAbs
  { negative := n < 0, mark := if form.alternate then inBase.2.toList else [],
    digits := if form.type = 'X' then digits.map Char.toUpper else digits }

def Form.wholeTrouble? (form : Form) : Option Trouble :=
  if form.precision.isSome then some .wholePrecision
  else if form.zeroCoercion then some .wholeZeroCoercion
  else none

def Form.character (form : Form) (n : Int) : Except Trouble Numeral :=
  if form.sign.isSome then .error .characterSign
  else if form.alternate then .error .characterAlternateForm
  else if n < 0 ∨ 0x10FFFF < n then .error .notACharacter
  else .ok { negative := false, digits := [], tail := [Char.ofNat n.toNat] }

/-! ## Numbers with places -/

/-- A positive number rounded to some digits: those digits without the zeros at
their end, and the exponent of the first. -/
def significant (n places : Nat) : List Char × Nat :=
  let length := (digitsIn 10 n).length
  let kept := Decimal.roundQuotient n (Nat.pow 10 (length - places))
  let digits := digitsIn 10 kept
  let carried := if places < digits.length && places < length then 1 else 0
  ((digits.reverse.dropWhile (· = '0')).reverse, length - 1 + carried)

/-- The point and what follows it; a point that nothing follows is left out
unless the alternate form is asked for. -/
def Form.fraction (form : Form) (digits : List Char) : List Char :=
  if digits.isEmpty && !form.alternate then [] else '.' :: digits

def exponentMark (letter : Char) (exponent : Nat) : List Char :=
  letter :: '+' :: (if exponent < 10 then ['0'] else []) ++ digitsIn 10 exponent

def zeroFilled (places : Nat) (digits : List Char) : List Char :=
  digits ++ List.replicate (places - digits.length) '0'

/-- A number with an exponent, and with `places` digits behind the point. -/
def Form.scientific (form : Form) (letter : Char) (n places : Nat) : Numeral :=
  let (digits, exponent) := if n = 0 then (['0'], 0) else significant n (places + 1)
  { negative := false, digits := digits.take 1,
    tail := form.fraction (zeroFilled places (digits.drop 1)) ++ exponentMark letter exponent }

def Form.fixed (form : Form) (n places : Nat) : Numeral :=
  { negative := false, digits := digitsIn 10 n,
    tail := form.fraction (List.replicate places '0') }

/-- A number with at most `places` digits, with an exponent only if it is needed. -/
def Form.general (form : Form) (letter : Char) (n places : Nat) : Numeral :=
  let (digits, exponent) := if n = 0 then (['0'], 0) else significant n places
  if exponent < places then
    form.fixed n (if form.alternate then places - 1 - exponent else 0)
  else
    let rest := digits.drop 1
    { negative := false, digits := digits.take 1,
      tail := form.fraction (if form.alternate then zeroFilled (places - 1) rest else rest) ++
        exponentMark letter exponent }

def plainPlaces : Nat := 6

def greatestPlaces : Nat := Nat.pow 2 31 - 1

def Form.placed (form : Form) (n : Int) : Except Trouble Numeral :=
  let places := form.precision.getD plainPlaces
  let size := n.natAbs
  if greatestPlaces < places then .error .precisionTooGreat
  else
    let shown := match form.type with
      | 'e' => form.scientific 'e' size places
      | 'E' => form.scientific 'E' size places
      | 'g' => form.general 'e' size (max places 1)
      | 'G' => form.general 'E' size (max places 1)
      | '%' =>
        let fixed := form.fixed (100 * size) places
        { fixed with tail := fixed.tail ++ ['%'] }
      | _ => form.fixed size places
    .ok { shown with negative := n < 0 }

def Form.numeral (form : Form) (kind : Kind) (n : Int) : Except Trouble Numeral :=
  if "bcdoxXn".toList.contains form.type then
    match form.wholeTrouble? with
    | some trouble => .error trouble
    | none => if form.type = 'c' then form.character n else .ok (form.wholeNumeral n)
  else if "eEfFgG%".toList.contains form.type then form.placed n
  else .error (.unknownType form.type kind)

def applyNumber (layout : List Char) (kind : Kind) (n : Int) : Except Trouble (List Char) := do
  let form ← parse kind layout
  let numeral ← form.numeral kind n
  if greatestWidth < form.width then throw .tooWide
  return form.arrange numeral

example : applyNumber "#010_b".toList .number 80 = .ok "0b101_0000".toList := by rfl

example : applyNumber "010_b".toList .number 80 = .ok "0_0101_0000".toList := by rfl

example : applyNumber "+.2e".toList .number 21501184 = .ok "+2.15e+07".toList := by rfl

end Typeahead.Template.Layout
