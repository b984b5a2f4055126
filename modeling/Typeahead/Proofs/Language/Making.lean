import Typeahead.Proofs.Collaborators

/-!
# What detectors print

What a detector prints while it is made is kept from the standard output and recorded,
also when it cannot be made. Main statement: `Resolver.make_some`. What it prints when it
is asked for a language is printed: `Resolver.printedText_resolve`.
-/

namespace Typeahead

open Typeahead.Text

variable {σ α β : Type}

/-! ## Printed text -/

namespace Event

theorem printedText_append (events more : List Event) :
    printedText (events ++ more) = printedText events ++ printedText more := by
  rw [printedText, List.map_append, String.join_append]
  rfl

end Event

namespace Action

theorem printedText_ask (call : Call) (host : Host σ α) (s : σ) :
    Event.printedText (ask call host s).events = (host s).printed := by
  rw [ask_apply]
  by_cases hempty : (host s).printed = ""
  · simp [hempty, Event.printedText, Event.text]
  · simp [hempty, Event.printedText, Event.text]

theorem printedText_bind_of_ok {first : Action σ α} {next : α → Action σ β} {s : σ} {a : α}
    (h : (first s).result = .ok a) :
    Event.printedText ((first >>= next) s).events =
      Event.printedText (first s).events ++
        Event.printedText (next a (first s).state).events := by
  rw [bind_of_ok h, Event.printedText_append]

theorem quietly_ask (note : String → Event) (call : Call) (host : Host σ α) (s : σ) :
    quietly note (ask call host) s =
      ⟨(host s).answer.mapError .collaborator, (host s).state,
        .call call :: if (host s).printed = "" then [] else [note (host s).printed]⟩ := by
  have hrest : (ask call host s).events.filter (fun e => !e.isPrinted) = [.call call] := by
    rw [ask_apply]
    split <;> rfl
  show Outcome.mk _ _ ((ask call host s).events.filter (fun e => !e.isPrinted) ++
    if Event.printedText (ask call host s).events = "" then []
    else [note (Event.printedText (ask call host s).events)]) = _
  rw [printedText_ask, hrest]
  rfl

end Action

/-! ## Making a detector -/

namespace Resolver

def startupEvents (printed : String) : List Event :=
  .call .makeDetector :: if printed = "" then [] else [startupRecord printed]

/-- The log records of a detector that printed a text while it was made: one, or none
if it did not print. -/
def startupRecords (printed : String) : List Record :=
  if printed = "" then []
  else [⟨.debug, .language,
    "Language detector wrote to stdout during startup: " ++ quoted printed⟩]

theorem printedText_startupEvents (printed : String) :
    Event.printedText (startupEvents printed) = "" := by
  rw [startupEvents]
  split <;> rfl

theorem calls_startupEvents (printed : String) :
    Event.calls (startupEvents printed) = [.makeDetector] := by
  rw [startupEvents]
  split <;> rfl

theorem records_startupEvents (printed : String) :
    Event.records (startupEvents printed) = startupRecords printed := by
  rw [startupEvents, startupRecords]
  split <;> rfl

/-- **A resolver that is made** has the detector that the factory made, or there is the
factory's own trouble. -/
theorem make_some (factory : Host σ (Detector σ)) (s : σ) :
    make (some factory) s =
      ⟨((factory s).answer.mapError .collaborator).map fun detector =>
          { detector := some detector },
        (factory s).state, startupEvents (factory s).printed⟩ := by
  have hmake : make (some factory) =
      (fun detector => ({ detector := some detector } : Resolver σ)) <$>
        Action.quietly startupRecord (Action.ask .makeDetector factory) := by
    rw [map_eq_pure_bind]
    rfl
  rw [hmake, Action.map_apply, Action.quietly_ask]
  rfl

end Resolver

/-! ## Asking a detector -/

/-- What a detector prints when it is asked for the language of a text: first what making
the text fit prints, and then what detecting prints, if it comes to that. -/
def Detector.heard (detector : Detector σ) (plainText : Value) (s : σ) : String :=
  (detector.clean plainText s).printed ++
    match (detector.clean plainText s).answer with
    | .ok cleaned => (detector.detect cleaned [] [] (detector.clean plainText s).state).printed
    | .error _ => ""

theorem Detector.printedText_find (detector : Detector σ) (plainText : Value) (s : σ) :
    Event.printedText (detector.find plainText s).events = detector.heard plainText s := by
  have hclean := Action.printedText_ask (.clean plainText) (detector.clean plainText) s
  have hanswer := Action.result_ask (.clean plainText) (detector.clean plainText) s
  rw [find, heard]
  cases hcleaned : (detector.clean plainText s).answer with
  | error trouble =>
    rw [hcleaned] at hanswer
    rw [Action.bind_of_error hanswer, hclean]
    exact String.append_empty.symm
  | ok cleaned =>
    rw [hcleaned] at hanswer
    rw [Action.printedText_bind_of_ok hanswer, hclean, Action.events_bind_of_silent,
      Action.printedText_ask]
    · rfl
    · -- What was detected is only taken apart.
      intro detected?
      cases detected? with
      | none => exact Action.silent_pure none
      | some detected =>
        exact (Action.silent_ofExcept _).bind fun code => Action.silent_pure _

/-- **What a detector prints is printed** when a language is resolved by it. -/
theorem Resolver.printedText_resolve {config : Config} {settings : Settings}
    (hasks : config.asksForDetection settings.language = true) {resolver : Resolver σ}
    {detector : Detector σ} (hdetector : resolver.detector = some detector) (plainText : Value)
    (s : σ) : Event.printedText (resolver.resolve config plainText settings s).events =
      detector.heard plainText s := by
  rw [resolve_of_detector hasks hdetector,
    Action.events_bind_of_silent fun _ => Action.silent_pure _, Detector.printedText_find]

end Typeahead
