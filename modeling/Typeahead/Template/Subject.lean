import Typeahead.Template.Catalogue
import Typeahead.Text.Quoted

/-!
# Subjects of fields

A field begins with a text, the language code, and may go on to facts about
what it has reached: its kind, what can be done with it, the note that explains
that, and so on. Texts and numbers can be laid out; every other subject is only
shown.
-/

namespace Typeahead.Template

open Typeahead.Text

/-- What a field has reached. -/
inductive Subject where
  | text (cs : List Char)
  | number (n : Int)
  | truth (b : Bool)
  | nothing
  | tuple (items : List Subject)
  | table
  | kind (k : Kind)
  /-- The members that a kind keeps. -/
  | membership (k : Kind)
  /-- A member as its kind keeps it. -/
  | member (keeper : Kind) (m : Member)
  /-- What can be done with the subject `owner`. -/
  | operation (owner : Subject) (keeper : Kind) (m : Member)
  /-- A kind that was given an argument. -/
  | applied (k : Kind) (argument : Subject)
  deriving Repr

namespace Subject

def kindOfForm : Form → Kind
  | .slot => .slot
  | .method => .method
  | .classMethod => .classMethod
  | .detached => .detached
  | .maker => .operation
  | .getter => .getter
  | .place => .place
  | .note => .text
  | .absent => .nothing

def kindOf : Subject → Kind
  | .text _ => .text
  | .number _ => .number
  | .truth _ => .truth
  | .nothing => .nothing
  | .tuple _ => .tuple
  | .table => .table
  | .kind _ => .sort
  | .membership _ => .membership
  | .member _ m => kindOfForm m.form
  | .operation _ _ m => if m.form = .slot then .wrapper else .operation
  | .applied _ _ => .applied

def ofString (s : String) : Subject :=
  .text s.toList

def ofString? (s? : Option String) : Subject :=
  match s? with
  | some s => ofString s
  | none => .nothing

/-! ## Showing -/

/-- Where an operation is said to be stored. -/
def location : String :=
  "0x7f0000000000"

def shownOperation (k : Kind) (m : Member) : String :=
  if m.form = .slot then
    "<method-wrapper '" ++ m.label ++ "' of " ++ k.fullName ++ " object at " ++ location ++ ">"
  else "<built-in method " ++ m.label ++ " of " ++ k.fullName ++ " object at " ++ location ++ ">"

def shownMember (keeper : Kind) (m : Member) : String :=
  let named := fun (form group : String) =>
    "<" ++ form ++ " '" ++ m.label ++ "' of '" ++ keeper.fullName ++ "'" ++ group ++ ">"
  match m.form with
  | .slot => named "slot wrapper" " objects"
  | .method | .classMethod => named "method" " objects"
  | .getter => named "attribute" " objects"
  | .place => named "member" " objects"
  | .maker => shownOperation .sort m
  | .detached => "<staticmethod(" ++ shownOperation .sort m ++ ")>"
  | .note => quoted (m.note?.getD "")
  | .absent => "None"

def shownMembership (k : Kind) : String :=
  let entries := k.members.map fun m => quoted m.label ++ ": " ++ shownMember k m
  "\x7b" ++ ", ".intercalate entries ++ "\x7d"

mutual

/-- A subject as text, with quotes around it if it is a text itself. -/
def quoted : Subject → List Char
  | .text cs => quotedChars cs
  | .number n => (toString n).toList
  | .truth b => (if b then "True" else "False").toList
  | .nothing => "None".toList
  | .tuple items => '(' :: quotedItems items ++ (if items.length = 1 then [',', ')'] else [')'])
  | .table => ['\x7b', '\x7d']
  | .kind k => k.shown.toList
  | .membership k => (Kind.membership.name ++ "(" ++ shownMembership k ++ ")").toList
  | .member keeper m => (shownMember keeper m).toList
  | .operation owner _ m => (shownOperation owner.kindOf m).toList
  | .applied k argument => k.fullName.toList ++ '[' :: quoted argument ++ [']']

def quotedItems : List Subject → List Char
  | [] => []
  | [item] => quoted item
  | item :: rest => quoted item ++ ',' :: ' ' :: quotedItems rest

end

def shown : Subject → List Char
  | .text cs => cs
  | .membership k => (shownMembership k).toList
  | subject => subject.quoted

/-! ## Facts -/

/-- What a kind gives of a member that it finds in its lineage. -/
def ofMember (k keeper : Kind) (m : Member) : Subject :=
  match m.form with
  | .note => ofString? m.note?
  | .absent => .nothing
  | .maker | .detached => .operation (.kind keeper) keeper m
  | .classMethod => .operation (.kind k) keeper m
  | .slot | .method | .getter | .place => .member keeper m

/-- A member as the list of a kind's members gives it. -/
def entry (k : Kind) (m : Member) : Subject :=
  match m.form with
  | .classMethod | .detached => .member k m
  | _ => ofMember k k m

/-- What a kind says about itself. -/
def kindFact? (k : Kind) : String → Option Subject
  | "__name__" | "__qualname__" => some (ofString k.name)
  | "__module__" => some (ofString k.module)
  | "__mro__" => some (.tuple (k.lineage.map .kind))
  | "__bases__" => some (.tuple (k.parents.map .kind))
  | "__base__" => some ((k.parents.head?.map Subject.kind).getD .nothing)
  | "__dict__" => some (.membership k)
  | "__doc__" => some (match k.note?, k.own? "__doc__" with
    | some note, _ => ofString note
    | none, some m => ofMember k k m
    | none, none => .nothing)
  | "__text_signature__" => some (ofString? k.signature?)
  | "__basicsize__" => some (.number k.storage.size)
  | "__itemsize__" => some (.number k.storage.itemSize)
  | "__flags__" => some (.number k.storage.flags)
  | "__weakrefoffset__" => some (.number k.storage.weakOffset)
  | "__dictoffset__" => some (.number k.storage.tableOffset)
  | _ => none

/-- What a member, or what is done by it, says about the member. -/
def memberFact? (keeper : Kind) (m : Member) : String → Option Subject
  | "__name__" => some (ofString m.label)
  | "__qualname__" => some (ofString (keeper.name ++ "." ++ m.label))
  | "__objclass__" => some (.kind keeper)
  | "__doc__" => some (ofString? m.note?)
  | "__text_signature__" => some (ofString? m.signature?)
  | _ => none

def operationFact? (owner : Subject) (keeper : Kind) (m : Member) : String → Option Subject
  | "__self__" => some (if m.form = .detached then .nothing else owner)
  | "__module__" => some .nothing
  | "__qualname__" => some (ofString (match m.form, owner with
    | .slot, _ => keeper.name ++ "." ++ m.label
    | _, .kind k => k.name ++ "." ++ m.label
    | _, owner => owner.kindOf.name ++ "." ++ m.label))
  | name => memberFact? keeper m name

/-- What a whole number says about itself as a quotient and as a complex number. -/
def numberFact? (n : Int) : String → Option Subject
  | "real" | "numerator" => some (.number n)
  | "imag" => some (.number 0)
  | "denominator" => some (.number 1)
  | _ => none

def given? (subject : Subject) (name : String) : Option Subject :=
  if name = "__class__" then some (.kind subject.kindOf)
  else match subject, name with
    | .kind k, name => kindFact? k name
    | .number n, name => numberFact? n name
    | .truth b, name => numberFact? (if b then 1 else 0) name
    | .operation owner keeper m, name => operationFact? owner keeper m name
    | .member keeper m, name =>
      if m.form = .detached then
        match name with
        | "__func__" | "__wrapped__" => some (.operation (.kind keeper) keeper m)
        | "__isabstractmethod__" => some (.truth false)
        | "__dict__" => some .table
        | _ => none
      else memberFact? keeper m name
    | .applied k _, "__origin__" => some (.kind k)
    | .applied _ argument, "__args__" => some (.tuple [argument])
    | .applied _ _, "__parameters__" => some (.tuple [])
    | .applied _ _, "__unpacked__" => some (.truth false)
    | .applied _ _, "__typing_unpacked_tuple_args__" => some .nothing
    | _, _ => none

/-- What a subject gives of a member that is found in the lineage of its kind. -/
def bind (subject : Subject) (keeper : Kind) (m : Member) : Option Subject :=
  match m.form with
  | .getter | .place => subject.given? m.label
  | .slot | .method => some (.operation subject keeper m)
  | _ => some (ofMember subject.kindOf keeper m)

/-- The facts about an applied kind that are not facts about its kind. -/
def appliedFacts : List String :=
  ["__class__", "__origin__", "__args__", "__unpacked__", "__parameters__",
    "__typing_unpacked_tuple_args__", "__mro_entries__", "__reduce_ex__", "__reduce__",
    "__copy__", "__deepcopy__"]

def plainFact? (subject : Subject) (name : String) : Option Subject :=
  (subject.kindOf.find? name).bind fun (keeper, m) => subject.bind keeper m

/-- The fact of one name about a kind. What is said about every kind goes
before the members that the kind finds itself, and what can be done with every
kind comes behind them. -/
def sortFact? (k : Kind) (name : String) : Option Subject :=
  match Kind.sort.find? name, k.find? name with
  | some (keeper, m), found? =>
    if m.isGiven then (Subject.kind k).bind keeper m
    else match found? with
      | some (nearest, found) => some (ofMember k nearest found)
      | none => (Subject.kind k).bind keeper m
  | none, some (nearest, found) => some (ofMember k nearest found)
  | none, none => none

def fact? (subject : Subject) (name : String) : Option Subject :=
  match subject with
  | .kind k => sortFact? k name
  | .applied k _ => if appliedFacts.contains name then subject.plainFact? name else sortFact? k name
  | subject => subject.plainFact? name

end Subject

end Typeahead.Template
