import Typeahead.Text.Character
import Typeahead.Text.Quoted

/-!
# Whole numbers in text

A numeral is a sign, if any, and decimal digits of any script, with blanks
around it and single underscores between digits. Leading zeros do not matter.
A numeral of more than 4300 digits is refused before anything behind its
digits is looked at.
-/

namespace Typeahead.Text

namespace Numeral

inductive Trouble where
  | malformed (text : String)
  | tooLong (digits : Nat)
  deriving DecidableEq, Repr

/-- The most digits that are read. -/
def digitLimit : Nat := 4300

/-- The wording of a trouble; a quoted text is cut after 200 characters. -/
def Trouble.message : Trouble → String
  | .malformed text =>
    "invalid literal for int() with base 10: " ++
      String.ofList ((quotedChars text.toList).take 200)
  | .tooLong digits =>
    "Exceeds the limit (4300 digits) for integer string conversion: value has " ++
      toString digits ++ " digits; use sys.set_int_max_str_digits() to increase the limit"

/-- The blanks around a numeral: all but the information separators. -/
def isSpace (c : Char) : Bool :=
  isBlank c && !(0x1C ≤ c.toNat && c.toNat ≤ 0x1F)

def strip (cs : List Char) : List Char :=
  ((cs.dropWhile isSpace).reverse.dropWhile isSpace).reverse

/-- Digits and underscores at the front of a text: the values of the digits,
and the rest. There is no result when an underscore does not stand between two
digits. `after` tells whether a digit came just before. -/
def digitRun (after : Bool) : List Char → Option (List Nat × List Char)
  | [] => if after then some ([], []) else none
  | c :: rest =>
    match digit? c with
    | some d => (digitRun true rest).map fun run => (d :: run.1, run.2)
    | none =>
      if after then
        if c = '_' then digitRun false rest else some ([], c :: rest)
      else none

/-- The number that decimal digits stand for, most significant first. -/
def ofDigits (digits : List Nat) : Nat :=
  digits.foldl (fun n d => 10 * n + d) 0

def sign : List Char → Bool × List Char
  | '+' :: rest => (false, rest)
  | '-' :: rest => (true, rest)
  | cs => (false, cs)

def parse (text : String) : Except Trouble Int :=
  let signed := sign (strip text.toList)
  match digitRun false signed.2 with
  | none => .error (.malformed text)
  | some (digits, rest) =>
    if digitLimit < digits.length then .error (.tooLong digits.length)
    else if rest ≠ [] then .error (.malformed text)
    else .ok (if signed.1 then -(ofDigits digits : Int) else ofDigits digits)

/-- Digits of any script, with single underscores between them. -/
example : parse " -٣_4 " = .ok (-34) := by rfl

example : parse "1__0" = .error (.malformed "1__0") := by rfl

end Numeral

end Typeahead.Text
