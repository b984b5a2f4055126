import Typeahead.Template.Kind
import Typeahead.Text.Character

/-!
# Layouts

A layout says how wide a text or a number is shown and how it lies in that
width. It is written as a fill character, an alignment, a width, a precision
and a type, each of which may be missing. Signs, separators and the like belong
to numbers and are refused for texts.
-/

namespace Typeahead.Template

open Typeahead.Text

/-- The first of consecutive decimal digits as a number, how many they are, and the rest. -/
def leadingNumber (cs : List Char) : Nat × Nat × List Char :=
  let digits := cs.takeWhile fun c => (digit? c).isSome
  (digits.foldl (fun n c => 10 * n + (digit? c).getD 0) 0, digits.length, cs.drop digits.length)

/-- The greatest number that a template may hold. -/
def greatestNumber : Nat := Nat.pow 2 63 - 1

/-- The most characters that a text may be filled up to. -/
def greatestWidth : Nat := Nat.pow 2 30

/-- A character that stands for none where one may be left out. -/
def noCharacter : Char := Char.ofNat 0

namespace Layout

inductive Trouble where
  | tooManyDigits
  | missingPrecision
  | bothSeparators
  | separator (mark type : Char)
  | malformed (layout : String) (kind : Kind)
  | unknownType (type : Char) (kind : Kind)
  | sign
  | space
  | zeroCoercion
  | alternateForm
  | signAlignment
  /-- A whole number has no precision. -/
  | wholePrecision
  | wholeZeroCoercion
  /-- A number shown as a character has no sign. -/
  | characterSign
  | characterAlternateForm
  /-- A number is not that of a character. -/
  | notACharacter
  | precisionTooGreat
  /-- There is no room for so wide a text. -/
  | tooWide
  deriving DecidableEq, Repr

structure Form where
  fill : Char
  align : Char
  sign : Option Char
  zeroCoercion : Bool
  alternate : Bool
  width : Nat
  separator : Option Char
  precision : Option Nat
  type : Char
  deriving DecidableEq, Repr

def isAlign (c : Char) : Bool :=
  c == '<' || c == '>' || c == '=' || c == '^'

/-- The fill character and the alignment at the front, if written, and the rest. -/
def takeAlign : List Char → Option Char × Option Char × List Char
  | fill :: align :: rest =>
    if isAlign align then (some fill, some align, rest)
    else if isAlign fill then (none, some fill, align :: rest)
    else (none, none, fill :: align :: rest)
  | [c] => if isAlign c then (none, some c, []) else (none, none, [c])
  | [] => (none, none, [])

def takeSign : List Char → Option Char × List Char
  | c :: rest => if c == '+' || c == '-' || c == ' ' then (some c, rest) else (none, c :: rest)
  | [] => (none, [])

def takeMark (mark : Char) : List Char → Bool × List Char
  | c :: rest => if c = mark then (true, rest) else (false, c :: rest)
  | [] => (false, [])

def takeSeparator (cs : List Char) : Except Trouble (Option Char × List Char) :=
  match cs with
  | ',' :: '_' :: _ => .error .bothSeparators
  | '_' :: ',' :: _ => .error .bothSeparators
  | ',' :: rest => .ok (some ',', rest)
  | '_' :: rest => .ok (some '_', rest)
  | _ => .ok (none, cs)

def takePrecision : List Char → Except Trouble (Option Nat × List Char)
  | '.' :: rest =>
    let number := leadingNumber rest
    if greatestNumber < number.1 then .error .tooManyDigits
    else if number.2.1 = 0 then .error .missingPrecision
    else .ok (some number.1, number.2.2)
  | cs => .ok (none, cs)

def separates (separator type : Char) : Bool :=
  type == noCharacter || "defgEG%F".toList.contains type ||
    (separator == '_' && "boxX".toList.contains type)

/-- The type of a layout that says none: the plain one of a text or of a whole number. -/
def plainType (kind : Kind) : Char :=
  if kind = .text then 's' else 'd'

/-- The alignment of a layout that says none: texts lie to the left and numbers to the right. -/
def plainAlign (kind : Kind) : Char :=
  if kind = .text then '<' else '>'

/-- Reads a layout for subjects of a kind. Zeros that fill up a number go behind its sign. -/
def parse (kind : Kind) (layout : List Char) : Except Trouble Form := do
  let (fill, align, afterAlign) := takeAlign layout
  let (sign, afterSign) := takeSign afterAlign
  let (zeroCoercion, afterCoercion) := takeMark 'z' afterSign
  let (alternate, afterAlternate) := takeMark '#' afterCoercion
  let (zeros, afterZero) :=
    if fill.isNone then takeMark '0' afterAlternate else (false, afterAlternate)
  let width := leadingNumber afterZero
  if greatestNumber < width.1 then throw .tooManyDigits
  let (separator, afterSeparator) ← takeSeparator width.2.2
  let (precision, rest) ← takePrecision afterSeparator
  let type ← match rest with
    | [] => pure (plainType kind)
    | [type] => pure type
    | _ => throw (.malformed (String.ofList layout) kind)
  match separator with
  | some mark => if !separates mark type then throw (.separator mark type)
  | none => pure ()
  let unsaid := if zeros && plainAlign kind = '>' then '=' else plainAlign kind
  return { fill := fill.getD (if zeros then '0' else ' '), align := align.getD unsaid, sign,
           zeroCoercion, alternate, width := width.1, separator, precision, type }

def Form.trouble? (form : Form) : Option Trouble :=
  if form.type ≠ 's' then some (.unknownType form.type .text)
  else if form.sign = some ' ' then some .space
  else if form.sign.isSome then some .sign
  else if form.zeroCoercion then some .zeroCoercion
  else if form.alternate then some .alternateForm
  else if form.align = '=' then some .signAlignment
  else if greatestWidth < form.width then some .tooWide
  else none

/-- A text cut to the precision and filled up to the width. -/
def Form.lay (form : Form) (text : List Char) : List Char :=
  let kept := match form.precision with
    | some n => text.take n
    | none => text
  let missing := form.width - kept.length
  let before :=
    if form.align = '>' then missing else if form.align = '^' then missing / 2 else 0
  List.replicate before form.fill ++ kept ++ List.replicate (missing - before) form.fill

def apply (layout text : List Char) : Except Trouble (List Char) :=
  if layout.isEmpty then .ok text
  else do
    let form ← parse .text layout
    match form.trouble? with
    | some trouble => throw trouble
    | none => return form.lay text

/-- A character in a message, by its code when it has no picture. -/
def shownChar (c : Char) : String :=
  if 32 < c.toNat ∧ c.toNat < 128 then String.ofList [c]
  else "\\x" ++ String.ofList (Nat.toDigits 16 c.toNat)

def Trouble.message : Trouble → String
  | .tooManyDigits => "Too many decimal digits in format string"
  | .missingPrecision => "Format specifier missing precision"
  | .bothSeparators => "Cannot specify both ',' and '_'."
  | .separator mark type =>
    "Cannot specify '" ++ String.ofList [mark] ++ "' with '" ++ shownChar type ++ "'."
  | .malformed layout kind =>
    "Invalid format specifier '" ++ layout ++ "' for object of type '" ++ kind.name ++ "'"
  | .unknownType type kind =>
    "Unknown format code '" ++ shownChar type ++ "' for object of type '" ++ kind.name ++ "'"
  | .sign => "Sign not allowed in string format specifier"
  | .space => "Space not allowed in string format specifier"
  | .zeroCoercion => "Negative zero coercion (z) not allowed in string format specifier"
  | .alternateForm => "Alternate form (#) not allowed in string format specifier"
  | .signAlignment => "'=' alignment not allowed in string format specifier"
  | .wholePrecision => "Precision not allowed in integer format specifier"
  | .wholeZeroCoercion => "Negative zero coercion (z) not allowed in integer format specifier"
  | .characterSign => "Sign not allowed with integer format specifier 'c'"
  | .characterAlternateForm =>
    "Alternate form (#) not allowed with integer format specifier 'c'"
  | .notACharacter => "%c arg not in range(0x110000)"
  | .precisionTooGreat => "precision too big"
  | .tooWide => ""

/-- An uneven rest goes behind a centred text. -/
example : apply "*^7".toList "en".toList = .ok "**en***".toList := by rfl

end Layout

end Typeahead.Template
