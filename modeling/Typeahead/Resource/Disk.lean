import Typeahead.Resource.Path
import Typeahead.Text.Encoding
import Typeahead.Text.Quoted

/-!
# Files and packages

What is on disk, and what is installed.
-/

namespace Typeahead.Resource

/-! ## Files on disk

A disk is a tree of folders and files with a working folder in it. A path is
walked part by part. Where it leads to no file there is nothing to read; only
a name that no folder could hold is an error.
-/

open Typeahead.Text

inductive Node where
  | file (content : Octets)
  | folder (entries : List (String × Node))
  deriving Repr, Inhabited

abbrev Folder := List (String × Node)

namespace Folder

/-- A folder in which a path leads to a node, other nodes being kept. Folders
on the way are made. -/
def insert (node : Node) : List String → Folder → Folder
  | [], folder => folder
  | [name], folder => match node, folder.lookup name with
    | .folder [], some (.folder _) => folder
    | _, _ => (name, node) :: folder.filter (·.1 ≠ name)
  | name :: rest, folder =>
    let inner : Folder := match folder.lookup name with
      | some (.folder entries) => entries
      | _ => []
    (name, .folder (insert node rest inner)) :: folder.filter (·.1 ≠ name)

end Folder

/-- The files that can be read, and the folder where relative paths begin. -/
structure Disk where
  root : Folder := []
  workingFolder : List String := []
  deriving Repr, Inhabited

namespace Disk

/-- The most octets of a file name. -/
def longestName : Nat := 255

/-- The number of octets at which a path is too long. -/
def pathLimit : Nat := 4096

inductive Walk where
  | nothing
  | tooLong
  | file (content : Octets)
  deriving Repr

def octets (text : String) : Nat :=
  (Utf8.encode text.toList).length

/-- Walks from a folder, given with the folders around it from the inside out. -/
def walk (folder : Folder) (around : List Folder) : List String → Walk
  | [] => .nothing
  | part :: rest =>
    if part = ".." then
      match around with
      | [] => walk folder [] rest
      | outer :: others => walk outer others rest
    else if longestName < octets part then .tooLong
    else match folder.lookup part with
      | none => .nothing
      | some (.folder entries) => walk entries (folder :: around) rest
      | some (.file content) => if rest = [] then .file content else .nothing

/-- Walks a path. A relative path begins in the working folder. -/
def find (disk : Disk) (path : Path) : Walk :=
  walk disk.root [] (if path.slashes = 0 then disk.workingFolder ++ path.parts else path.parts)

/-- The content of the file that a path leads to; none when there is no such
file. The path is returned when it, or a name in it, is too long. -/
def read (disk : Disk) (path : Path) : Except Path (Option Octets) :=
  if path.chars.contains (Char.ofNat 0) then .ok none
  else if pathLimit ≤ octets path.render then .error path
  else match disk.find path with
    | .nothing => .ok none
    | .tooLong => .error path
    | .file content => .ok (some content)

/-- Goes from a folder, given by the names that lead to it, to one of its
folders, which is made if it is missing, or to the folder around it. -/
def enter (state : Folder × List String) (part : String) : Folder × List String :=
  if part = ".." then (state.1, state.2.dropLast)
  else
    let here := state.2 ++ [part]
    (Folder.insert (.folder []) here state.1, here)

/-- The root after going along a path from the working folder, and where that leads. -/
def follow (disk : Disk) (parts : List String) : Folder × List String :=
  (disk.workingFolder ++ parts).foldl enter (disk.root, [])

def addFolder (disk : Disk) (path : String) : Disk :=
  { disk with root := (disk.follow (Path.parse path).parts).1 }

/-- The disk with a file at a path seen from the working folder. The folders
that the path goes through are made. -/
def addFile (disk : Disk) (path : String) (content : Octets) : Disk :=
  let parts := (Path.parse path).parts
  match parts.getLast? with
  | none => disk
  | some name =>
    let (root, folder) := disk.follow parts.dropLast
    { disk with root := Folder.insert (.file content) (folder ++ [name]) root }

end Disk

/-! ## Installed packages

A package is found by its dotted name and has its resources in a folder. What
is installed under a name may also be a plain module, which has none.
-/

inductive Installed where
  | package (folder : Path)
  | module
  deriving DecidableEq, Repr

abbrev Packages := List (String × Installed)

namespace Packages

/-- Why a name gives no folder of resources. -/
inductive Trouble where
  /-- The name begins with a dot. -/
  | relative
  /-- A plain module has no resources. -/
  | plainModule
  /-- Nothing is installed under this name. -/
  | notFound (name : String)
  /-- Nothing can be installed under this name, as its parent is no package. -/
  | notInside (name parent : String)
  deriving DecidableEq, Repr

def Trouble.message? : Trouble → Option String
  | .relative | .plainModule => none
  | .notFound name => some ("No module named " ++ quoted name)
  | .notInside name parent =>
    some ("No module named " ++ quoted name ++ "; " ++ quoted parent ++ " is not a package")

/-- What stands before each dot of a name, and the whole name; shortest first. -/
def dottedHeads (read : List Char) : List Char → List String
  | [] => [String.ofList read.reverse]
  | c :: rest =>
    let longer := dottedHeads (c :: read) rest
    if c = '.' then String.ofList read.reverse :: longer else longer

/-- The first of some names, each inside the one before, that is not installed. -/
def firstMissing (packages : Packages) (parent : Option String) : List String → Option Trouble
  | [] => none
  | name :: rest =>
    match packages.lookup name with
    | some _ => firstMissing packages (some name) rest
    | none => match parent with
      | some outer =>
        if packages.lookup outer = some .module then some (.notInside name outer)
        else some (.notFound name)
      | none => some (.notFound name)

def folderOf (packages : Packages) (name : String) : Except Trouble Path :=
  if name.toList.head? = some '.' then .error .relative
  else match packages.lookup name with
    | some (.package folder) => .ok folder
    | some .module => .error .plainModule
    | none =>
      let missing? := firstMissing packages none (dottedHeads [] name.toList)
      .error (missing?.getD (.notFound name))

end Packages

end Typeahead.Resource
