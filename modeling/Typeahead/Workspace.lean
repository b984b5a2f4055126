import Typeahead.Fragment.Dialect
import Typeahead.Language.Resolver
import Typeahead.RootLog
import Typeahead.WordList

/-!
# The workspace

All that lives as long as the process: the configuration, the registries, the
root log, the caches and resolvers that were made, and what lies around them.
Caches and resolvers are shared by number, so two users of one number see the
same cache. The process-wide cache and the shared engine are made when they
are first needed, and never replaced.
-/

namespace Typeahead

open Typeahead.Resource

/-- Completes words with one resolver and one cache. -/
structure Engine where
  resolver : Nat
  cache : Nat
  deriving DecidableEq, Repr

structure Workspace (σ : Type) where
  /-- The package that holds the bundled word lists. -/
  bundled : String
  vars : Variables := {}
  config : Config := Config.ofVariables bundled vars
  fragmentizers : Registry (Fragmentizer.Factory σ) := Fragmentizer.initial
  builders : Registry (Builder.Factory σ) := Builder.initial
  rootLog : RootLog := {}
  caches : Table (Cache σ) := Table.filled default
  resolvers : Table (Resolver σ) := Table.filled {}
  sharedCache : Option Nat := none
  /-- The engine of those who have none of their own. -/
  sharedEngine : Option Engine := none
  surroundings : Surroundings σ

namespace Workspace

variable {σ α : Type}

def onSurroundings (action : Action (Surroundings σ) α) : Action (Workspace σ) α :=
  action.zoom (·.surroundings) fun surroundings w => { w with surroundings }

def onHost (action : Action σ α) : Action (Workspace σ) α :=
  onSurroundings (Surroundings.onHost action)

def onRootLog (action : Action RootLog α) : Action (Workspace σ) α :=
  action.zoom (·.rootLog) fun rootLog w => { w with rootLog }

/-! ## Configuration and registries -/

def override (change : Config → Config) : Action (Workspace σ) Unit :=
  Action.modify fun w => { w with config := change w.config }

/-- Sets a variable to a text, or makes it unset. No text of a variable can hold
a null character. The configuration stays what it is until it is made again. -/
def setVariable (name : Variable) (value : Value) : Action (Workspace σ) Unit :=
  match value with
  | .null => Action.modify fun w => { w with vars := w.vars.set name none }
  | .text s =>
    if s.toList.contains '\x00' then Action.fail .nullInVariable
    else Action.modify fun w => { w with vars := w.vars.set name (some s) }
  | _ => Action.fail (.misfit .notText)

/-- Makes the configuration again from the variables. -/
def reconfigure : Action (Workspace σ) Unit :=
  Action.modify fun w => { w with config := Config.ofVariables w.bundled w.vars }

def registerFragmentizer (languageId : Value) (factory : Fragmentizer.Factory σ) :
    Action (Workspace σ) Unit := do
  let key ← Action.ofExcept (languageId.key.mapError .misfit)
  Action.modify fun w => { w with fragmentizers := w.fragmentizers.register key factory }

def registerBuilder (languageId : Value) (factory : Builder.Factory σ) :
    Action (Workspace σ) Unit := do
  let key ← Action.ofExcept (languageId.key.mapError .misfit)
  Action.modify fun w => { w with builders := w.builders.register key factory }

def fragmentize (doc : Document) : Action (Workspace σ) (List Draft) := do
  let w ← Action.read id
  onHost (doc.fragments w.config w.fragmentizers)

def annotate (doc : Document) (fragment : Draft) : Action (Workspace σ) Annotated := do
  let w ← Action.read id
  let plainText ← onHost (fragment.plainText w.config w.builders)
  return ⟨plainText, fragment, doc⟩

/-! ## Caches -/

def newCache (loader : Loader σ) : Action (Workspace σ) Nat := do
  let next ← Action.read (·.caches.size)
  Action.modify fun w => { w with caches := w.caches.push { loader } }
  return next

def words (cache : Nat) (code : String) : Action (Workspace σ) (List String) := do
  let w ← Action.read id
  let (list, kept) ← onSurroundings ((w.caches.row cache).get w.config code)
  Action.modify fun w => { w with caches := w.caches.set cache kept }
  return list

/-- The list of a code that nobody has checked yet. -/
def wordsOf (cache : Nat) (code : Value) : Action (Workspace σ) (List String) :=
  match code.text? with
  | some text => words cache text
  | none => Action.fail (.misfit .notText)

def clearCache (cache : Nat) : Action (Workspace σ) Unit :=
  Action.modify fun w => { w with caches := w.caches.set cache (w.caches.row cache).clear }

/-- The process-wide cache, made at the first need. -/
def defaultCache : Action (Workspace σ) Nat := do
  let w ← Action.read id
  match w.sharedCache with
  | some cache => return cache
  | none =>
    let loader ← onSurroundings (Loader.ofValue w.config.address)
    let cache ← newCache loader
    Action.modify fun w => { w with sharedCache := some cache }
    return cache

/-! ## Resolvers -/

/-- A new resolver, whose detector is made now. -/
def newResolver (factory? : Option (Host σ (Detector σ))) : Action (Workspace σ) Nat := do
  let resolver ← onHost (Resolver.make factory?)
  let next ← Action.read (·.resolvers.size)
  Action.modify fun w => { w with resolvers := w.resolvers.push resolver }
  return next

def resolve (resolver : Nat) (plainText : Value) (settings : Settings) :
    Action (Workspace σ) (Option Value) := do
  let w ← Action.read id
  let (language?, next) ←
    onHost ((w.resolvers.row resolver).resolve w.config plainText settings)
  Action.modify fun w => { w with resolvers := w.resolvers.set resolver next }
  return language?

/-! ## Engines -/

/-- A new engine. It may configure the root log; then its detector is made; and
without a cache of its own it uses the process-wide one. -/
def newEngine (factory? : Option (Host σ (Detector σ))) (cache? : Option Nat)
    (verbose? : Option Bool) : Action (Workspace σ) Engine := do
  let w ← Action.read id
  if verbose?.getD w.config.verbose then
    onRootLog (RootLog.setup (.int RootLog.info))
  let resolver ← newResolver factory?
  let cache ← match cache? with
    | some cache => pure cache
    | none => defaultCache
  return ⟨resolver, cache⟩

end Workspace

end Typeahead
