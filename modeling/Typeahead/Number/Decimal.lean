/-!
# Decimal numbers as they are written

A number with a fraction or an exponent is kept as it was written. It counts
as the double-precision number nearest to it, a tie going to the even
neighbour; the arithmetic here is exact.
-/

namespace Typeahead

/-- The number `digits * 10 ^ exponent`, or its negative. Zero may have a sign, too. -/
structure Decimal where
  negative : Bool
  digits : Nat
  exponent : Int
  deriving DecidableEq, Repr

inductive Amount where
  | finite (q : Rat)
  /-- Infinity, or its negative. -/
  | infinite (negative : Bool)
  deriving DecidableEq, Repr

namespace Decimal

/-- The whole number nearest to a quotient; a tie goes to the even one. -/
def roundQuotient (num den : Nat) : Nat :=
  let whole := num / den
  let rest := num % den
  if 2 * rest < den then whole
  else if den < 2 * rest then whole + 1
  else if whole % 2 = 0 then whole
  else whole + 1

/-- The power of two of the last binary place kept of a positive quotient: 53
places, or fewer near zero. -/
def lastPlace (num den : Nat) : Int :=
  let guess : Int := (Nat.log2 num : Int) - Nat.log2 den
  let reaches : Bool :=
    if 0 ≤ guess then den * Nat.pow 2 guess.toNat ≤ num
    else den ≤ num * Nat.pow 2 (-guess).toNat
  let leading := if reaches then guess else guess - 1
  max (leading - 52) (-1074)

/-- The least number that counts as infinity. -/
def infinite : Rat := (Nat.pow 2 1024 : Nat)

def nearestQuotient (num den : Nat) : Rat :=
  let place := lastPlace num den
  let value : Rat :=
    if 0 ≤ place then
      (roundQuotient num (den * Nat.pow 2 place.toNat) * Nat.pow 2 place.toNat : Nat)
    else (roundQuotient (num * Nat.pow 2 (-place).toNat) den : Rat) / Nat.pow 2 (-place).toNat
  if infinite ≤ value then infinite else value

/-- The double-precision number nearest to `digits * 10 ^ exponent`. -/
def nearestMagnitude (digits : Nat) (exponent : Int) : Rat :=
  if digits = 0 then 0
  else if 400 < exponent then infinite
  else if exponent < -(400 + (Nat.log2 digits : Int)) then 0
  else if 0 ≤ exponent then nearestQuotient (digits * Nat.pow 10 exponent.toNat) 1
  else nearestQuotient digits (Nat.pow 10 (-exponent).toNat)

/-- The amount that a decimal counts as: a double-precision number, or infinity. -/
def amount (x : Decimal) : Amount :=
  let magnitude := nearestMagnitude x.digits x.exponent
  if infinite ≤ magnitude then .infinite x.negative
  else .finite (if x.negative then -magnitude else magnitude)

def infinity (negative : Bool) : Decimal :=
  ⟨negative, 1, 1000⟩

/-- Infinity differs from every number, also from the least that counts as infinity. -/
example : (infinity true).amount = .infinite true ∧
    (infinity false).amount ≠ .finite infinite := by decide +kernel

/-- The whole part, toward zero. Infinity has none. -/
def truncate? (x : Decimal) : Option Int :=
  match x.amount with
  | .finite q => some (q.num.tdiv q.den)
  | .infinite _ => none

def floor? (x : Decimal) : Option Int :=
  match x.amount with
  | .finite q => some q.floor
  | .infinite _ => none

end Decimal

/-! ## Order and sums of amounts

Amounts are compared exactly, and infinity is beyond every finite one. A sum is
the double-precision number nearest to the sum of two such numbers; opposite
infinities have none.
-/

namespace Amount

def atMost : Amount → Amount → Bool
  | .infinite true, _ => true
  | _, .infinite false => true
  | .finite q, .finite r => q ≤ r
  | _, _ => false

def below (a b : Amount) : Bool :=
  !b.atMost a

/-- The double-precision number nearest to a quotient, or infinity. -/
def nearest (q : Rat) : Amount :=
  let magnitude := if q = 0 then 0 else Decimal.nearestQuotient q.num.natAbs q.den
  if Decimal.infinite ≤ magnitude then .infinite (q < 0)
  else .finite (if q < 0 then -magnitude else magnitude)

def rounded : Amount → Amount
  | .finite q => nearest q
  | .infinite negative => .infinite negative

def opposite : Amount → Amount
  | .finite q => .finite (-q)
  | .infinite negative => .infinite !negative

/-- The sum of two double-precision numbers, rounded to one again. -/
def plus : Amount → Amount → Option Amount
  | .finite q, .finite r => some (nearest (q + r))
  | .infinite a, .infinite b => if a = b then some (.infinite a) else none
  | .infinite a, .finite _ => some (.infinite a)
  | .finite _, .infinite b => some (.infinite b)

/-- The decimal that a double-precision number is. Its denominator is a power of two. -/
def decimal : Amount → Decimal
  | .finite q =>
    let places := Nat.log2 q.den
    ⟨q < 0, q.num.natAbs * Nat.pow 5 places, -places⟩
  | .infinite negative => Decimal.infinity negative

/-- A sum beyond 53 binary places goes to the even neighbour. -/
example : plus (.finite (2 ^ 53)) (.finite 1) = some (.finite (2 ^ 53)) ∧
    plus (.infinite true) (.infinite false) = none := by decide +kernel

example : decimal (.finite (-3 / 8)) = ⟨true, 375, -3⟩ := by decide +kernel

end Amount

end Typeahead
