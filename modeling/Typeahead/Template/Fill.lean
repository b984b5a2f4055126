import Typeahead.Template.Layout.Number
import Typeahead.Template.Part
import Typeahead.Template.Subject

/-!
# Filling a template

The one name that a template can show is the language code: whole, by the
index of a character, or a fact about it. A template is filled from left to
right, so the first trouble in it is the one reported. A layout may itself hold
fields, one level deep.
-/

namespace Typeahead.Template

open Typeahead.Text

inductive Trouble where
  | flaw (f : Flaw)
  | layout (t : Layout.Trouble)
  /-- A field is numbered, and no values are given by number. -/
  | numbered (n : Nat)
  /-- A field names something other than the language code. -/
  | unknownName (name : String)
  /-- A step behind the name is empty. -/
  | emptyStep
  /-- Something other than a step follows an index. -/
  | stepExpected
  /-- There is no fact of this name about a subject. -/
  | noFact (kind : Kind) (name : String)
  /-- A subject of this kind has no items, or none under such an index. -/
  | notAnIndex (kind : Kind)
  | indexOutOfRange (kind : Kind)
  /-- A table has no entry under a key. -/
  | noEntry (key : String)
  /-- A subject of this kind has no layout. -/
  | noLayout (kind : Kind)
  | unknownConversion (c : Char)
  /-- The layout of a layout holds fields. -/
  | tooDeep
  deriving DecidableEq, Repr

def Flaw.message : Flaw → String
  | .loneOpen => "Single '\x7b' encountered in format string"
  | .loneClose => "Single '\x7d' encountered in format string"
  | .unclosedName => "expected '\x7d' before end of string"
  | .unclosedLayout => "unmatched '\x7b' in format spec"
  | .braceInName => "unexpected '\x7b' in field name"
  | .missingConversion => "end of string while looking for conversion specifier"
  | .colonExpected => "expected ':' after conversion specifier"

def Trouble.message : Trouble → String
  | .flaw f => f.message
  | .layout t => t.message
  | .numbered n =>
    "Replacement index " ++ toString n ++ " out of range for positional args tuple"
  | .unknownName name => quoted name
  | .emptyStep => "Empty attribute in format string"
  | .stepExpected => "Only '.' or '[' may follow ']' in format field specifier"
  | .noFact kind name => "'" ++ kind.name ++ "' object has no attribute " ++ quoted name
  | .notAnIndex .text => "string indices must be integers, not 'str'"
  | .notAnIndex .tuple => "tuple indices must be integers or slices, not str"
  | .notAnIndex kind => "'" ++ kind.name ++ "' object is not subscriptable"
  | .indexOutOfRange .text => "string index out of range"
  | .indexOutOfRange kind => kind.name ++ " index out of range"
  | .noEntry key => key
  | .noLayout kind => "unsupported format string passed to " ++ kind.name ++ ".__format__"
  | .unknownConversion c =>
    "Unknown conversion specifier " ++
      (if 32 < c.toNat ∧ c.toNat < 127 then String.ofList [c]
        else "\\x" ++ String.ofList (Nat.toDigits 16 c.toNat))
  | .tooDeep => "Max string recursion exceeded"

/-- The number that a text of decimal digits is; none for any other text. The
digits at the front must not be too many, whatever follows them. -/
def index? (cs : List Char) : Except Trouble (Option Nat) :=
  let number := leadingNumber cs
  if greatestNumber < number.1 then .error (.layout .tooManyDigits)
  else if cs.isEmpty || !number.2.2.isEmpty then .ok none
  else .ok (some number.1)

/-- The item of a subject at an index: a character of a text, an item of a tuple,
or a member of a kind under its name. A kind may take the index as its argument. -/
def itemAt (subject : Subject) (inside : List Char) (index? : Option Nat) :
    Except Trouble Subject :=
  match index?, subject with
  | some n, .text cs =>
    match cs[n]? with
    | some c => .ok (.text [c])
    | none => .error (.indexOutOfRange .text)
  | some n, .tuple items =>
    match items[n]? with
    | some item => .ok item
    | none => .error (.indexOutOfRange .tuple)
  | some n, .table | some n, .membership _ => .error (.noEntry (toString n))
  | none, .table => .error (.noEntry (quoted (String.ofList inside)))
  | none, .membership k =>
    match k.own? (String.ofList inside) with
    | some m => .ok (Subject.entry k m)
    | none => .error (.noEntry (quoted (String.ofList inside)))
  | index?, .kind k =>
    if k.takesArgument then
      .ok (.applied k ((index?.map fun n => Subject.number n).getD (.text inside)))
    else .error (.notAnIndex .sort)
  | _, _ => .error (.notAnIndex subject.kindOf)

/-- Follows the steps behind a name: a name behind a dot is that of a fact, and
what stands between brackets is an index. -/
def follow (subject : Subject) : List Char → Except Trouble Subject
  | [] => .ok subject
  | '.' :: rest =>
    let name := rest.takeWhile fun c => c ≠ '.' && c ≠ '['
    if name.isEmpty then .error .emptyStep
    else match subject.fact? (String.ofList name) with
      | none => .error (.noFact subject.kindOf (String.ofList name))
      | some fact => follow fact (rest.drop name.length)
  | '[' :: rest =>
    let inside := rest.takeWhile (· ≠ ']')
    if inside.isEmpty then .error .emptyStep
    else do
      let item ← itemAt subject inside (← index? inside)
      follow item (rest.drop (inside.length + 1))
  | _ :: _ => .error .stepExpected
  termination_by cs => cs.length
  decreasing_by all_goals simp only [List.length_drop, List.length_cons]; omega

def lookUp (code name : List Char) : Except Trouble Subject := do
  let first := name.takeWhile fun c => c ≠ '.' && c ≠ '['
  if first.isEmpty then throw (.numbered 0)
  match ← index? first with
  | some n => throw (.numbered n)
  | none =>
    if first = "code".toList then follow (.text code) (name.drop first.length)
    else throw (.unknownName (String.ofList first))

/-- Text whose characters above ASCII are spelled by their codes. -/
def toAscii (cs : List Char) : List Char :=
  cs.flatMap fun c => if c.toNat < 128 then [c] else Quoted.escapeCode c.toNat

def convert (conversion : Option Char) (subject : Subject) : Except Trouble Subject :=
  match conversion with
  | none => .ok subject
  | some 's' => .ok (.text subject.shown)
  | some 'r' => .ok (.text subject.quoted)
  | some 'a' => .ok (.text (toAscii subject.quoted))
  | some c => if c = noCharacter then .ok subject else .error (.unknownConversion c)

/-- A subject as a layout shows it. Without a layout, every subject is shown;
with one, a truth value counts as one or zero. -/
def lay (layout : List Char) (subject : Subject) : Except Trouble (List Char) :=
  if layout.isEmpty then .ok subject.shown
  else match subject with
    | .text cs => (Layout.apply layout cs).mapError .layout
    | .number n => (Layout.applyNumber layout .number n).mapError .layout
    | .truth b => (Layout.applyNumber layout .truth (if b then 1 else 0)).mapError .layout
    | subject => .error (.noLayout subject.kindOf)

/-- Fills a template whose layouts may hold fields `depth - 1` levels deep. -/
def fillWithin (code : List Char) : Nat → List Char → Except Trouble (List Char)
  | 0, _ => .error .tooDeep
  | depth + 1, template =>
    (parts template).foldlM (fun shown part => do
      match part with
      | .char c => return shown ++ [c]
      | .broken flaw => throw (.flaw flaw)
      | .field f =>
        let subject ← convert f.conversion (← lookUp code f.name)
        let layout ←
          if f.layout.contains '\x7b' then fillWithin code depth f.layout else pure f.layout
        return shown ++ (← lay layout subject)) []

/-- Fills a template with a language code. -/
def fill (template code : String) : Except Trouble String :=
  (fillWithin code.toList 2 template.toList).map String.ofList

end Typeahead.Template
