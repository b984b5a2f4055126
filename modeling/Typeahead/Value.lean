import Typeahead.Number.Decimal
import Typeahead.Number.Shortest
import Typeahead.Text.Quoted

/-!
# Configured values

Settings, positions and candidates arrive as values that nobody has checked
yet. A value is checked at the moment it is used, and only then can it turn
out not to fit.
-/

namespace Typeahead

inductive Value where
  | null
  | bool (b : Bool)
  | int (n : Int)
  | real (x : Decimal)
  /-- What stands where a number is missing; it equals only itself. -/
  | nan
  | text (s : String)
  | list (items : List Value)
  | table (entries : List (String × Value))
  deriving Repr, Inhabited

/-- Why a value does not fit where it is used. -/
inductive Misfit where
  /-- Settings are a table of named entries. -/
  | notTable
  /-- A table has an entry of an unknown name. -/
  | unknownName (name : String)
  /-- A table lacks an entry that it has to have. -/
  | missingName (name : String)
  /-- A collection is a list, a text or a table. -/
  | notCollection
  /-- A language code, a label or a part of a code is a text. -/
  | notText
  /-- A coordinate is a number or a numeral. -/
  | notNumber
  /-- A logging level is a whole number or a name. -/
  | notLevel
  /-- Nothing is filed under a collection. -/
  | notKey
  deriving DecidableEq, Repr

namespace Value

def truthAmount (b : Bool) : Amount :=
  .finite (if b then 1 else 0)

def amount? : Value → Option Amount
  | .bool b => some (truthAmount b)
  | .int n => some (.finite n)
  | .real x => some x.amount
  | _ => none

mutual

/-- Whether two values are equal. Numbers are compared by what they amount to,
and the order of a table's entries does not matter. -/
def equals : Value → Value → Bool
  | .null, .null => true
  | .nan, .nan => true
  | .text s, .text t => s == t
  | .list xs, .list ys => allEqual xs ys
  | .table xs, .table ys => xs.length == ys.length && allIn xs ys
  | .bool a, w => amount? w == some (truthAmount a)
  | .int n, w => amount? w == some (.finite n)
  | .real x, w => amount? w == some x.amount
  | _, _ => false

def allEqual : List Value → List Value → Bool
  | [], [] => true
  | x :: xs, y :: ys => equals x y && allEqual xs ys
  | _, _ => false

/-- Whether each entry has an equal one under its name in `ys`. -/
def allIn : List (String × Value) → List (String × Value) → Bool
  | [], _ => true
  | (name, x) :: xs, ys =>
    (match ys.lookup name with
      | some y => equals x y
      | none => false) && allIn xs ys

end

instance : BEq Value := ⟨equals⟩

def text? : Value → Option String
  | .text s => some s
  | _ => none

/-- The text that a value is, or the reason why it has to be one. -/
def textOr {ε : Type} (v : Value) (otherwise : ε) : Except ε String :=
  match v with
  | .text s => .ok s
  | _ => .error otherwise

/-- Whether a value is nothing, zero or an empty collection. -/
def isEmpty : Value → Bool
  | .null => true
  | .bool b => !b
  | .int n => n == 0
  | .real x => x.amount == .finite 0
  | .nan => false
  | .text s => s == ""
  | .list xs => xs.isEmpty
  | .table entries => entries.isEmpty

/-- The items of a collection: those of a list, the characters of a text, or
the names of a table in their order. -/
def items : Value → Except Misfit (List Value)
  | .list xs => .ok xs
  | .text s => .ok (s.toList.map fun c => .text (String.ofList [c]))
  | .table entries => .ok (entries.map fun entry => .text entry.1)
  | _ => .error .notCollection

@[simp] theorem textOr_text {ε : Type} (s : String) (otherwise : ε) :
    (Value.text s).textOr otherwise = .ok s := rfl

@[simp] theorem items_list (xs : List Value) : (Value.list xs).items = .ok xs := rfl

end Value

/-! ## Keys

Things are filed under values that nobody has checked. Equal values have one
key, and a collection has none.
-/

/-- What things are filed under. -/
inductive Key where
  | null
  | nan
  | amount (a : Amount)
  | text (s : String)
  deriving DecidableEq, Repr

def Value.key (v : Value) : Except Misfit Key :=
  match v with
  | .null => .ok .null
  | .nan => .ok .nan
  | .text s => .ok (.text s)
  | v => match v.amount? with
    | some a => .ok (.amount a)
    | none => .error .notKey

@[simp] theorem Value.key_text (s : String) : (Value.text s).key = .ok (.text s) := rfl

/-- A whole number and the same number with a fraction of zero have one key. -/
example : (Value.real ⟨false, 10, -1⟩).key.toOption = (Value.int 1).key.toOption := by
  decide +kernel

/-! ## Values as text

A value that stands where a message expects text is shown. Texts inside
collections have quotes around them, so that a reader can tell them apart.
-/

namespace Value

open Typeahead.Text

mutual

/-- A value as text, with quotes around it if it is a text itself. -/
def quoted : Value → String
  | .null => "None"
  | .bool b => if b then "True" else "False"
  | .int n => toString n
  | .real x => x.shown
  | .nan => "nan"
  | .text s => Text.quoted s
  | .list items => "[" ++ quotedItems items ++ "]"
  | .table entries => "\x7b" ++ quotedEntries entries ++ "\x7d"

def quotedItems : List Value → String
  | [] => ""
  | [item] => quoted item
  | item :: rest => quoted item ++ ", " ++ quotedItems rest

def quotedEntries : List (String × Value) → String
  | [] => ""
  | [(name, value)] => Text.quoted name ++ ": " ++ quoted value
  | (name, value) :: rest => Text.quoted name ++ ": " ++ quoted value ++ ", " ++ quotedEntries rest

end

def shown : Value → String
  | .text s => s
  | v => v.quoted

@[simp] theorem shown_text (s : String) : (Value.text s).shown = s := rfl

@[simp] theorem quoted_text (s : String) : (Value.text s).quoted = Text.quoted s := by
  rw [quoted]

example : (Value.list [.null, .text "it's", .table [("a", .real ⟨false, 1, 16⟩)]]).shown =
    "[None, \"it's\", \x7b'a': 1e+16\x7d]" := by decide +kernel

end Value

/-! ## Arithmetic

Offsets are whole numbers, and those that a collaborator makes up may be
anything. Comparing and adding checks them: both operands have to count as
numbers. Whole numbers are added exactly; as soon as one has a fraction, the
sum is a double-precision number. What stands where a number is missing is
neither below nor above anything.
-/

namespace Value

/-- The whole number that a value is. Truth values count as one and zero. -/
def whole? : Value → Option Int
  | .int n => some n
  | .bool b => some (if b then 1 else 0)
  | _ => none

def truncated? : Value → Option Int
  | .real x => x.truncate?
  | v => v.whole?

/-- What a value amounts to, which has to count as a number. There is no amount
where a number is missing. -/
def measured : Value → Except Misfit (Option Amount)
  | .nan => .ok none
  | v => match v.amount? with
    | some a => .ok (some a)
    | none => .error .notNumber

def related (whole : Int → Int → Bool) (amounts : Amount → Amount → Bool) (v w : Value) :
    Except Misfit Bool :=
  match v.whole?, w.whole? with
  | some m, some n => .ok (whole m n)
  | _, _ => do
    match ← v.measured, ← w.measured with
    | some a, some b => return amounts a b
    | _, _ => return false

def isAtMost : Value → Value → Except Misfit Bool :=
  related (fun m n => m ≤ n) Amount.atMost

def isBelow : Value → Value → Except Misfit Bool :=
  related (fun m n => m < n) Amount.below

def isMinusZero : Value → Bool
  | .real x => x.negative && x.amount == .finite 0
  | _ => false

/-- The double-precision number of an amount, if there is one. If the number is
zero, it is said whether it has a minus sign. -/
def ofAmount? (isMinus : Bool) : Option Amount → Value
  | some a =>
    .real { a.decimal with negative := a.decimal.negative || (isMinus && a == .finite 0) }
  | none => .nan

def plus (v w : Value) : Except Misfit Value :=
  match v.whole?, w.whole? with
  | some m, some n => .ok (.int (m + n))
  | _, _ => do
    match ← v.measured, ← w.measured with
    | some a, some b =>
      return ofAmount? (v.isMinusZero && w.isMinusZero) (a.rounded.plus b.rounded)
    | _, _ => return .nan

def minus (v w : Value) : Except Misfit Value :=
  match v.whole?, w.whole? with
  | some m, some n => .ok (.int (m - n))
  | _, _ => do
    match ← v.measured, ← w.measured with
    | some a, some b =>
      return ofAmount? (v.isMinusZero && !w.isMinusZero) (a.rounded.plus b.rounded.opposite)
    | _, _ => return .nan

def size : Value → Except Misfit Nat
  | .text s => .ok s.toList.length
  | .list items => .ok items.length
  | .table entries => .ok entries.length
  | _ => .error .notCollection

@[simp] theorem isAtMost_int (m n : Int) : (Value.int m).isAtMost (.int n) = .ok (m ≤ n) := rfl

@[simp] theorem isBelow_int (m n : Int) : (Value.int m).isBelow (.int n) = .ok (m < n) := rfl

@[simp] theorem plus_int (m n : Int) : (Value.int m).plus (.int n) = .ok (.int (m + n)) := rfl

@[simp] theorem minus_int (m n : Int) : (Value.int m).minus (.int n) = .ok (.int (m - n)) := rfl

@[simp] theorem size_text (s : String) : (Value.text s).size = .ok s.toList.length := rfl

/-- A start with a fraction gives an end with the same fraction. -/
example : ((Value.real ⟨false, 15, -1⟩).plus (.int 2)).toOption.any
    (·.equals (.real ⟨false, 35, -1⟩)) := by decide +kernel

end Value

end Typeahead
