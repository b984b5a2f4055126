/-!
# Kinds of subjects

Every subject of a field has a kind, and each kind belongs to the kind of
everything. Kinds are subjects themselves.
-/

namespace Typeahead.Template

inductive Kind where
  | text
  | number
  | truth
  | nothing
  | tuple
  | table
  /-- The kind of lists of the members of a kind. -/
  | membership
  /-- The kind of all kinds. -/
  | sort
  /-- The kind that all others belong to. -/
  | anything
  /-- The kind of what is done with a subject by name. -/
  | operation
  /-- The kind of what is done with a subject without being named. -/
  | wrapper
  | slot
  | method
  | classMethod
  | getter
  | place
  | detached
  /-- The kind of kinds that were given an argument. -/
  | applied
  deriving DecidableEq, Repr

/-- How the subjects of a kind are stored, in octets. -/
structure Storage where
  size : Nat
  itemSize : Nat := 0
  flags : Nat
  weakOffset : Nat := 0
  tableOffset : Nat := 0
  deriving DecidableEq, Repr

namespace Kind

def name : Kind → String
  | .text => "str"
  | .number => "int"
  | .truth => "bool"
  | .nothing => "NoneType"
  | .tuple => "tuple"
  | .table => "dict"
  | .membership => "mappingproxy"
  | .sort => "type"
  | .anything => "object"
  | .operation => "builtin_function_or_method"
  | .wrapper => "method-wrapper"
  | .slot => "wrapper_descriptor"
  | .method => "method_descriptor"
  | .classMethod => "classmethod_descriptor"
  | .getter => "getset_descriptor"
  | .place => "member_descriptor"
  | .detached => "staticmethod"
  | .applied => "GenericAlias"

def module : Kind → String
  | .applied => "types"
  | _ => "builtins"

/-- The kinds that a kind belongs to, itself among them, the nearest first. -/
def lineage : Kind → List Kind
  | .anything => [.anything]
  | .truth => [.truth, .number, .anything]
  | k => [k, .anything]

/-- The nearest other kinds that a kind belongs to. -/
def parents (k : Kind) : List Kind :=
  k.lineage.tail.take 1

/-- The name of a kind, with its module unless every kind is known there. -/
def fullName (k : Kind) : String :=
  if k.module = "builtins" then k.name else k.module ++ "." ++ k.name

def shown (k : Kind) : String :=
  "<class '" ++ k.fullName ++ "'>"

def storage : Kind → Storage
  | .text => ⟨80, 0, 273159424, 0, 0⟩
  | .number => ⟨24, 4, 21501184, 0, 0⟩
  | .truth => ⟨32, 4, 21500160, 0, 0⟩
  | .nothing => ⟨16, 0, 528640, 0, 0⟩
  | .tuple => ⟨24, 8, 71849248, 0, 0⟩
  | .table => ⟨48, 0, 541611328, 0, 0⟩
  | .membership => ⟨24, 0, 545088, 0, 0⟩
  | .sort => ⟨904, 40, 2148031744, 368, 264⟩
  | .anything => ⟨16, 0, 529664, 0, 0⟩
  | .operation => ⟨56, 0, 547200, 40, 0⟩
  | .wrapper => ⟨32, 0, 545152, 0, 0⟩
  | .slot => ⟨56, 0, 676224, 0, 0⟩
  | .method => ⟨56, 0, 678272, 0, 0⟩
  | .classMethod => ⟨56, 0, 545152, 0, 0⟩
  | .getter => ⟨48, 0, 545152, 0, 0⟩
  | .place => ⟨48, 0, 545152, 0, 0⟩
  | .detached => ⟨32, 0, 546048, 0, 24⟩
  | .applied => ⟨64, 0, 548096, 40, 0⟩

/-- What is handed over when a subject of a kind is made, if something is known of it. -/
def signature? : Kind → Option String
  | .tuple => some "(iterable=(), /)"
  | .anything => some "()"
  | _ => none

end Kind

end Typeahead.Template
