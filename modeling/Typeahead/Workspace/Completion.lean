import Typeahead.Value
import Typeahead.Word
import Typeahead.Workspace

/-!
# Completion requests

A request goes from a position to the fragment there, to its plain text, its
language and the word before the cursor. Each stage may give up, and then
there are no candidates. The candidates are the words of the fragment's
dictionary and then those of the language's list that start with the word; a
word that is in both comes twice.
-/

namespace Typeahead

open Typeahead.Text

namespace Workspace

variable {σ : Type}

def candidates (cache : Nat) (fragment : Draft) (cursor language : Value) :
    Action (Workspace σ) (List String) := do
  let word ← Action.ofExcept (wordIn fragment.code cursor)
  if word.isEmpty then return []
  else do
    let listed ← wordsOf cache language
    if listed = [] ∧ fragment.settings.dictionary.isEmpty then return []
    let own ← Action.ofExcept (startingAmong word fragment.settings.dictionary)
    let found := own ++ (← Action.ofExcept (startingAmong word (listed.map .text)))
    Action.log .debug .engine
      (toString found.length ++ " candidates for " ++ word.quoted ++ " (" ++
        (language.text?.getD "") ++ ")")
    return found

def completeIn (engine : Engine) (doc : Document) (fragment : Draft) (cursor : Value) :
    Action (Workspace σ) (List String) := do
  let annotated ← annotate doc fragment
  match ← resolve engine.resolver annotated.plainText fragment.settings with
  | none =>
    Action.log .debug .engine
      ("Language of fragment at " ++ toString (fragment.start.truncated?.getD 0) ++ " is unknown")
    return []
  | some language => candidates engine.cache fragment cursor language

/-- The candidates for the word being typed at a position of a document. -/
def complete (engine : Engine) (doc : Document) (position : Position) :
    Action (Workspace σ) (List String) := do
  let offset ← Action.ofExcept ((doc.offsetAt position).mapError .coordinate)
  let fragments ← fragmentize doc
  match ← Action.ofExcept ((Draft.locate fragments (.int offset)).mapError .misfit) with
  | none =>
    Action.log .debug .engine ("No fragment at offset " ++ toString offset)
    return []
  | some (fragment, cursor) => completeIn engine doc fragment cursor

/-- The shared engine, made at the first need and without a detector. -/
def theSharedEngine : Action (Workspace σ) Engine := do
  match ← Action.read (·.sharedEngine) with
  | some engine => return engine
  | none =>
    let engine ← newEngine none none none
    Action.modify fun w => { w with sharedEngine := some engine }
    return engine

def completeShared (doc : Document) (position : Position) :
    Action (Workspace σ) (List String) := do
  let engine ← theSharedEngine
  complete engine doc position

end Workspace

end Typeahead
