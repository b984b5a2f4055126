import Typeahead.Action
import Typeahead.Config
import Typeahead.Value

/-!
# The language of a fragment

A fragment names its language, or asks for detection. A resolver holds the
detector, which is made once and whose output on that occasion is kept from
the standard output. Without a detector the language stays unknown, and that
is warned of once.
-/

namespace Typeahead

open Typeahead.Text

structure Resolver (σ : Type) where
  detector : Option (Detector σ) := none
  /-- Whether it has been warned that there is no detector. -/
  warned : Bool := false

namespace Resolver

variable {σ : Type}

/-- The record of what a detector printed while it was made. -/
def startupRecord (text : String) : Event :=
  .record ⟨.debug, .language,
    "Language detector wrote to stdout during startup: " ++ quoted text⟩

/-- A new resolver, whose detector is made now. -/
def make (factory? : Option (Host σ (Detector σ))) : Action σ (Resolver σ) :=
  match factory? with
  | none => return {}
  | some factory => do
    let detector ← Action.quietly startupRecord (Action.ask .makeDetector factory)
    return { detector := some detector }

/-- The language of a text with some settings, if it is known, and the
resolver from then on. -/
def resolve (config : Config) (resolver : Resolver σ) (plainText : Value) (settings : Settings) :
    Action σ (Option Value × Resolver σ) :=
  if !config.asksForDetection settings.language then
    match settings.language with
    | .null => return (none, resolver)
    | language => return (some language, resolver)
  else match resolver.detector with
    | none =>
      if resolver.warned then return (none, resolver)
      else do
        Action.log .warning .language
          ("Language is set to " ++ settings.language.quoted ++
            " but no language detector is configured")
        return (none, { resolver with warned := true })
    | some detector => do
      let cleaned ← Action.ask (.clean plainText) (detector.clean plainText)
      let detected? ← Action.ask (.detect cleaned [] []) (detector.detect cleaned [] [])
      match detected? with
      | none => return (none, resolver)
      | some detected => do
        let code ← Action.ofExcept (detected.code.mapError .misfit)
        return (some (.text code), resolver)

end Resolver

end Typeahead
