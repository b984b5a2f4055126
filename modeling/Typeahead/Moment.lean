import Typeahead.Value

/-!
# Moments

A moment is given in seconds since the beginning of 1970, in universal time.
It has a time of day only if the number of its year fits in 32 bits.
-/

namespace Typeahead.Moment

/-- Why a moment has no time of day. -/
inductive Trouble where
  | notANumber
  | notSeconds
  /-- The seconds do not fit in 64 bits. -/
  | outOfRange
  /-- The years since 1900 do not fit in 32 bits. -/
  | noCalendar
  /-- The number of the year does not fit in 32 bits. -/
  | noYear
  deriving DecidableEq, Repr

def Trouble.message : Trouble → String
  | .notANumber => "Invalid value NaN (not a number)"
  | .notSeconds => ""
  | .outOfRange => "timestamp out of range for platform time_t"
  | .noCalendar => "[Errno 75] Value too large for defined data type"
  | .noYear => "signed integer is greater than maximum"

def day : Int := 86400

def yearStart (year : Int) : Int :=
  let before := year - 1
  (365 * before + before / 4 - before / 100 + before / 400 - 719162) * day

example : yearStart 1970 = 0 ∧ yearStart 2000 = 946684800 ∧ yearStart 1900 = -2208988800 := by
  decide

/-- The seconds from `-2 ^ 63` to a greatest one. -/
def within (greatest seconds : Int) : Except Trouble Int :=
  if -Int.pow 2 63 ≤ seconds ∧ seconds ≤ greatest then .ok seconds else .error .outOfRange

/-- The whole seconds of a moment, rounded down, if they fit in 64 bits. The
greatest number that fits is no double-precision number, so numbers with a
fraction may reach its nearest one, which is greater by one. -/
def seconds : Value → Except Trouble Int
  | .int n => within (Int.pow 2 63 - 1) n
  | .bool b => .ok (if b then 1 else 0)
  | .real x => match x.floor? with
    | some n => within (Int.pow 2 63) n
    | none => .error .outOfRange
  | .nan => .error .notANumber
  | _ => .error .notSeconds

def twoDigits (n : Nat) : String :=
  if n < 10 then "0" ++ toString n else toString n

def clock (seconds : Int) : String :=
  let second := (seconds % day).toNat
  twoDigits (second / 3600) ++ ":" ++ twoDigits (second / 60 % 60) ++ ":" ++
    twoDigits (second % 60)

example : clock 3661 = "01:01:01" ∧ clock (-1) = "23:59:59" := by decide

def timeOfDay (moment : Value) : Except Trouble String := do
  let s ← seconds moment
  if s < yearStart (1900 - Int.pow 2 31) ∨ yearStart (1900 + Int.pow 2 31) ≤ s then
    throw .noCalendar
  if yearStart (Int.pow 2 31) ≤ s then throw .noYear
  return clock s

end Typeahead.Moment
