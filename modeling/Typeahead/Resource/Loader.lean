import Typeahead.Action
import Typeahead.Resource.Disk
import Typeahead.Table
import Typeahead.Text.Encoding
import Typeahead.Value

/-!
# Loaders

A loader gives the content of a resource by its name, or nothing when there is
no such resource. Packages and directories are read from disk, stores from
memory, and the host may bring loaders of its own.
-/

namespace Typeahead.Resource

/-! ## Resources in memory

A store holds resources by name and counts how often each name has been asked
for, whether it is there or not.
-/

open Typeahead.Text

structure Store where
  items : List (Key × Octets) := []
  /-- How often each name has been read, with the name as it was asked for first. -/
  reads : List (Key × Value × Nat) := []
  deriving Repr, Inhabited

namespace Store

def add (store : Store) (key : Key) (content : Octets) : Store :=
  { store with items := (key, content) :: store.items.filter (·.1 ≠ key) }

def readCount (store : Store) (key : Key) : Nat :=
  (store.reads.lookup key).elim 0 (·.2)

def countRead (store : Store) (key : Key) (name : Value) : Store :=
  let first := (store.reads.lookup key).elim name (·.1)
  { store with
    reads := (key, first, store.readCount key + 1) :: store.reads.filter (·.1 ≠ key) }

def get? (store : Store) (key : Key) : Option Octets :=
  store.items.lookup key

/-- The store of some resources. Of two with one name the later one stays. -/
def ofList (items : List (String × Octets)) : Store :=
  items.foldl (fun store item => store.add (.text item.1) item.2) {}

end Store

/-! ## Loaders -/

/-- All that lies outside the caches: the disk, what is installed, the stores
in memory and the state of the host. -/
structure Surroundings (σ : Type) where
  disk : Disk := {}
  packages : Packages := []
  stores : Table Store := Table.filled {}
  host : σ

inductive Loader (σ : Type) where
  | package (name : String)
  | directory (root : Path)
  | memory (store : Nat)
  | custom (load : Value → Host σ (Option Octets))

instance {σ : Type} : Inhabited (Loader σ) := ⟨.memory 0⟩

namespace Surroundings

variable {σ α : Type}

def onHost (action : Action σ α) : Action (Surroundings σ) α :=
  action.zoom (·.host) fun host s => { s with host }

def readFile (root : Path) (name : Value) : Action (Surroundings σ) (Option Octets) := do
  let name ← Action.ofExcept (name.textOr (.misfit .notText))
  let disk ← Action.read (·.disk)
  Action.ofExcept ((disk.read (root.join (Path.parse name))).mapError fun path =>
    .nameTooLong path.render)

def readStore (id : Nat) (name : Value) : Action (Surroundings σ) (Option Octets) := do
  let key ← Action.ofExcept (name.key.mapError .misfit)
  let store ← Action.read (·.stores.row id)
  Action.modify fun s => { s with stores := s.stores.set id (store.countRead key name) }
  return store.get? key

def addToStore (id : Nat) (name : Value) (content : Octets) : Action (Surroundings σ) Unit := do
  let key ← Action.ofExcept (name.key.mapError .misfit)
  Action.modify fun s => { s with stores := s.stores.set id ((s.stores.row id).add key content) }

def newStore (store : Store) : Action (Surroundings σ) Nat := do
  let id ← Action.read (·.stores.size)
  Action.modify fun s => { s with stores := s.stores.push store }
  return id

end Surroundings

namespace Loader

variable {σ : Type}

def load (name : Value) : Loader σ → Action (Surroundings σ) (Option Octets)
  | .package dotted => do
    Action.emit (.call (.load name))
    let packages ← Action.read (·.packages)
    let root ← Action.ofExcept ((packages.folderOf dotted).mapError .package)
    Surroundings.readFile root name
  | .directory root => do
    Action.emit (.call (.load name))
    Surroundings.readFile root name
  | .memory store => do
    Action.emit (.call (.load name))
    Surroundings.readStore store name
  | .custom f => Surroundings.onHost (Action.ask (.load name) (f name))

def ofAddress (address : String) : Action (Surroundings σ) (Loader σ) := do
  match ← Action.ofExcept ((Origin.parse address).mapError .origin) with
  | .package dotted => return .package dotted
  | .directory root => return .directory root
  | .memory => return .memory (← Surroundings.newStore {})

/-- The loader of an address that nobody has checked. -/
def ofValue (address : Value) : Action (Surroundings σ) (Loader σ) := do
  ofAddress (← Action.ofExcept (address.textOr .notAnAddress))

end Loader

end Typeahead.Resource
