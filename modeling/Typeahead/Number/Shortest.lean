import Typeahead.Number.Decimal

/-!
# Shortest decimals

A double-precision number is written with the fewest digits that still count
as it. Among those of the fewest digits the nearest is taken, and of two as near
the even one. All comparisons are exact.
-/

namespace Typeahead.Decimal

def digitCount (n : Nat) : Nat :=
  (Nat.toDigits 10 n).length

/-- The power of ten of the first digit of a positive quotient. -/
def leadingPower (num den : Nat) : Int :=
  if den ≤ num then (digitCount (num / den) : Int) - 1
  else -(digitCount ((den - 1) / num) : Int)

example : leadingPower 999 10 = 1 ∧ leadingPower 1 10 = -1 ∧ leadingPower 1 11 = -2 := by decide

/-- How often a power of ten goes into a quotient. -/
def timesIn (num den : Nat) (power : Int) : Nat :=
  if 0 ≤ power then num / (den * Nat.pow 10 power.toNat)
  else num * Nat.pow 10 (-power).toNat / den

def tenTo (power : Int) : Rat :=
  if 0 ≤ power then Nat.pow 10 power.toNat else 1 / (Nat.pow 10 (-power).toNat : Rat)

/-- The multiple of a power of ten that counts as `q`, if there is one. -/
def multiple? (q : Rat) (power : Int) : Option Nat :=
  let below := timesIn q.num.toNat q.den power
  let above := below + 1
  match nearestMagnitude below power == q, nearestMagnitude above power == q with
  | true, true =>
    let middle := (below + above : Nat) * tenTo power
    if 2 * q < middle then some below
    else if middle < 2 * q then some above
    else if below % 2 = 0 then some below
    else some above
  | true, false => some below
  | false, true => some above
  | false, false => none

/-- Enough digits to tell any two double-precision numbers apart. -/
def digitsNeeded : Nat := 17

/-- The fewest digits that count as a positive number, as a multiple of a power of ten. -/
def shortest (q : Rat) : Nat × Int :=
  let leading := leadingPower q.num.toNat q.den
  let found? := (List.range digitsNeeded).findSome? fun (more : Nat) =>
    (multiple? q (leading - more)).map fun n => (n, leading - more)
  found?.getD (0, 0)

/-! ## Writing -/

/-- The least and the greatest power of ten of a first digit that need no exponent. -/
def plainPowers : Int × Int := (-4, 15)

/-- An exponent has a sign and at least two digits. -/
def exponentText (power : Int) : String :=
  "e" ++ (if power < 0 then "-" else "+") ++ (if power.natAbs < 10 then "0" else "") ++
    toString power.natAbs

def zeros (count : Nat) : List Char :=
  List.replicate count '0'

/-- Digits whose first has the given power of ten, without an exponent and
with at least one digit behind the point. -/
def plainText (digits : List Char) (power : Int) : String :=
  if power < 0 then String.ofList ('0' :: '.' :: zeros ((-power).toNat - 1) ++ digits)
  else
    let whole := power.toNat + 1
    let rest := digits.drop whole
    String.ofList (digits.take whole ++ zeros (whole - digits.length) ++
      '.' :: if rest.isEmpty then ['0'] else rest)

def exponentForm (digits : List Char) (power : Int) : String :=
  let rest := digits.drop 1
  String.ofList (digits.take 1 ++ if rest.isEmpty then [] else '.' :: rest) ++ exponentText power

def magnitudeText (q : Rat) : String :=
  let (multiple, last) := shortest q
  let digits := Nat.toDigits 10 multiple
  let power := last + digits.length - 1
  let kept := (digits.reverse.dropWhile (· = '0')).reverse
  if plainPowers.1 ≤ power ∧ power ≤ plainPowers.2 then plainText kept power
  else exponentForm kept power

def shown (x : Decimal) : String :=
  let magnitude := match x.amount with
    | .infinite _ => "inf"
    | .finite q => if q = 0 then "0.0" else magnitudeText (if q < 0 then -q else q)
  if x.negative then "-" ++ magnitude else magnitude

example : shown ⟨false, 255, -1⟩ = "25.5" ∧ shown ⟨false, 5, -324⟩ = "5e-324" := by
  decide +kernel

/-- A number may have been written with more digits than it takes. -/
example : shown ⟨true, 100000000000000005551, -21⟩ = "-0.1" := by decide +kernel

end Typeahead.Decimal
