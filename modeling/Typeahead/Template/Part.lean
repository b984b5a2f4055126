/-!
# The parts of a template

A template is text with fields in curly braces; a doubled brace stands for
itself. A field names what it shows, and may add a conversion after an
exclamation mark and a layout after a colon. The parts are read from left to
right, and a broken part is the last one.
-/

namespace Typeahead.Template

/-- A field, by the texts between its braces. -/
structure Field where
  name : List Char
  conversion : Option Char
  layout : List Char
  deriving DecidableEq, Repr

inductive Flaw where
  /-- The template ends behind an opening brace. -/
  | loneOpen
  /-- A closing brace closes nothing. -/
  | loneClose
  /-- The template ends inside the name of a field. -/
  | unclosedName
  /-- The template ends inside a field, behind its name. -/
  | unclosedLayout
  /-- The name of a field holds an opening brace. -/
  | braceInName
  /-- The template ends where a conversion has to stand. -/
  | missingConversion
  /-- Something other than a layout follows a conversion. -/
  | colonExpected
  deriving DecidableEq, Repr

inductive Part where
  | char (c : Char)
  | field (f : Field)
  | broken (flaw : Flaw)
  deriving DecidableEq, Repr

/-- Where in a template the reader stands. What it has read of a field is kept
newest first. -/
inductive Reading where
  | text
  | opened
  | closed
  | name (read : List Char) (bracketed : Bool)
  | conversion (label : List Char)
  | converted (label : List Char) (sign : Char)
  | layout (label : List Char) (sign : Option Char) (read : List Char) (depth : Nat)
  | stopped
  deriving DecidableEq, Repr

namespace Reading

def complete (label : List Char) (sign : Option Char) (spec : List Char) :
    List Part × Reading :=
  ([.field ⟨label.reverse, sign, spec.reverse⟩], .text)

def stop (flaw : Flaw) : List Part × Reading :=
  ([.broken flaw], .stopped)

/-- One character of a field's name. Inside square brackets only their end matters. -/
def nameStep (read : List Char) (bracketed : Bool) (c : Char) : List Part × Reading :=
  if bracketed then ([], .name (c :: read) (c ≠ ']'))
  else match c with
    | '\x7b' => stop .braceInName
    | '[' => ([], .name (c :: read) true)
    | '\x7d' => complete read none []
    | ':' => ([], .layout read none [] 0)
    | '!' => ([], .conversion read)
    | _ => ([], .name (c :: read) false)

/-- Reads one character: the part it completes, if any, and where the reader stands then. -/
def step : Reading → Char → List Part × Reading
  | .text, c =>
    if c = '\x7b' then ([], .opened)
    else if c = '\x7d' then ([], .closed)
    else ([.char c], .text)
  | .opened, c => if c = '\x7b' then ([.char c], .text) else nameStep [] false c
  | .closed, c => if c = '\x7d' then ([.char c], .text) else stop .loneClose
  | .name read bracketed, c => nameStep read bracketed c
  | .conversion label, c => ([], .converted label c)
  | .converted label sign, c =>
    if c = '\x7d' then complete label (some sign) []
    else if c = ':' then ([], .layout label (some sign) [] 0)
    else stop .colonExpected
  | .layout label sign read depth, c =>
    if c = '\x7b' then ([], .layout label sign (c :: read) (depth + 1))
    else if c = '\x7d' then
      match depth with
      | 0 => complete label sign read
      | depth + 1 => ([], .layout label sign (c :: read) depth)
    else ([], .layout label sign (c :: read) depth)
  | .stopped, _ => ([], .stopped)

/-- What the end of the template makes of where the reader stands. -/
def finish : Reading → List Part
  | .text | .stopped => []
  | .opened => [.broken .loneOpen]
  | .closed => [.broken .loneClose]
  | .name _ _ => [.broken .unclosedName]
  | .conversion _ => [.broken .missingConversion]
  | .converted _ _ | .layout _ _ _ _ => [.broken .unclosedLayout]

def parts (r : Reading) : List Char → List Part
  | [] => r.finish
  | c :: rest =>
    let next := r.step c
    next.1 ++ parts next.2 rest

end Reading

def parts (template : List Char) : List Part :=
  Reading.text.parts template

end Typeahead.Template
