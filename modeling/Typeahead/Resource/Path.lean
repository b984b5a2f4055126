import Typeahead.Text.Lines

/-!
# Paths and addresses

How a folder is named by a text, and where an address says that resources come from.
-/

namespace Typeahead.Resource

/-! ## Paths

A path is kept in normal form: empty parts and single dots are dropped, double
dots stay. A path that begins with slashes is absolute; exactly two leading
slashes are kept apart from one, and three or more count as one.
-/

open Typeahead.Text

/-- A path in normal form. -/
structure Path where
  /-- How many slashes lead the path: none, one or two. -/
  slashes : Nat
  parts : List String
  deriving DecidableEq, Repr, Inhabited

namespace Path

/-- How many of the slashes at the front of a text count. -/
def leadingSlashes (cs : List Char) : Nat :=
  match (cs.takeWhile (· = '/')).length with
  | 0 => 0
  | 2 => 2
  | _ => 1

def isNamed (part : List Char) : Bool :=
  part ≠ [] && part ≠ ['.']

/-- The normal form of the path that a text spells. -/
def parse (text : String) : Path :=
  ⟨leadingSlashes text.toList, ((splitOn '/' text.toList).filter isNamed).map String.ofList⟩

/-- The characters of a path; the path without any is a single dot. -/
def chars (p : Path) : List Char :=
  if p.slashes = 0 ∧ p.parts = [] then ['.']
  else List.replicate p.slashes '/' ++ joinWith '/' (p.parts.map String.toList)

def render (p : Path) : String :=
  String.ofList p.chars

/-- A path seen from another one. An absolute path stays what it is. -/
def join (base p : Path) : Path :=
  if p.slashes = 0 then ⟨base.slashes, base.parts ++ p.parts⟩ else p

/-- Empty parts and single dots go, double dots stay. -/
example : (parse "///a/./../b//").render = "/a/../b" := by decide

example : (parse "//a").render = "//a" ∧ (parse "./").render = "." := by decide

end Path

/-! ## Where resources come from

An address names the origin of resources: `package://` with a dotted name,
`file://` with a path, or `memory://`. The path of a folder may be relative:
only a third slash makes it absolute.
-/

/-- Where resources come from. -/
inductive Origin where
  | package (name : String)
  | directory (root : Path)
  | memory
  deriving DecidableEq, Repr

namespace Origin

/-- Why an address names no origin. -/
inductive Trouble where
  | missingPackage (address : String)
  | unsupported (address : String)
  deriving DecidableEq, Repr

def Trouble.message : Trouble → String
  | .missingPackage address => "Missing package name in resource DSN: " ++ address
  | .unsupported address => "Unsupported resource DSN: " ++ address

/-- What follows `scheme` at the front of an address. -/
def after? (scheme address : String) : Option String :=
  if scheme.toList.isPrefixOf address.toList then
    some (String.ofList (address.toList.drop scheme.toList.length))
  else none

def parse (address : String) : Except Trouble Origin :=
  match after? "package://" address with
  | some name => if name = "" then .error (.missingPackage address) else .ok (.package name)
  | none => match after? "file://" address with
    | some path => .ok (.directory (Path.parse path))
    | none => match after? "memory://" address with
      | some _ => .ok .memory
      | none => .error (.unsupported address)

end Origin

end Typeahead.Resource
