import Typeahead.Proofs.Workspace.Sparing

/-!
# Missing detectors

What a resolver does when it is asked for a language, as far as its mark goes that it has
warned. Main statements: `Resolver.resolve_of_missing` and `Resolver.marks_resolve`, and
`Workspace.resolvers_resolve` with `Workspace.languageWarnings_resolve` for a resolver of a
workspace.
-/

namespace Typeahead

open Typeahead.Action

variable {σ : Type}

/-! ## One resolver -/

namespace Resolver

/-- The warning that a language is asked for which no detector can find out. -/
def missingDetector (language : Value) : Record :=
  ⟨.warning, .language,
    "Language is set to " ++ language.quoted ++ " but no language detector is configured"⟩

def afterAsked (resolver : Resolver σ) (asks : Bool) : Resolver σ :=
  { resolver with warned := resolver.warned || (asks && resolver.detector.isNone) }

def warningsOf (resolver : Resolver σ) (asks : Bool) (language : Value) : List Record :=
  if asks ∧ resolver.detector.isNone ∧ resolver.warned = false then [missingDetector language]
  else []

/-- **Without a detector** the language stays unknown, which is warned of once. -/
theorem resolve_of_missing {config : Config} {settings : Settings}
    (hasks : config.asksForDetection settings.language = true) {resolver : Resolver σ}
    (hdetector : resolver.detector = none) (plainText : Value) (s : σ) :
    resolver.resolve config plainText settings s =
      ⟨.ok (none, { resolver with warned := true }), s,
        if resolver.warned then [] else [.record (missingDetector settings.language)]⟩ := by
  rw [resolve, hasks, if_neg (by decide), hdetector]
  cases resolver with
  | mk detector warned =>
    obtain rfl := hdetector
    cases warned <;> rfl

theorem afterAsked_of_not (resolver : Resolver σ) {asks : Bool}
    (h : (asks && resolver.detector.isNone) = false) : resolver.afterAsked asks = resolver := by
  rw [afterAsked, h, Bool.or_false]

theorem afterAsked_afterAsked (resolver : Resolver σ) (asks asks' : Bool) :
    (resolver.afterAsked asks).afterAsked asks' = resolver.afterAsked (asks || asks') := by
  simp only [afterAsked, Bool.or_assoc, Bool.and_or_distrib_right]

theorem warningsOf_of_not (resolver : Resolver σ) {asks : Bool} (language : Value)
    (h : (asks && resolver.detector.isNone) = false) : resolver.warningsOf asks language = [] := by
  refine if_neg fun hwarns => ?_
  rw [hwarns.1, hwarns.2.1] at h
  cases h

def left (resolver : Resolver σ) (o : Outcome σ (Option Value × Resolver σ)) : Resolver σ :=
  match o.result with
  | .ok found => found.2
  | .error _ => resolver

theorem marks_resolve (config : Config) (resolver : Resolver σ) (plainText : Value)
    (settings : Settings) (s : σ) :
    resolver.left (resolver.resolve config plainText settings s) =
        resolver.afterAsked (config.asksForDetection settings.language) ∧
      Event.languageWarnings (resolver.resolve config plainText settings s).events =
        resolver.warningsOf (config.asksForDetection settings.language) settings.language := by
  cases hasks : config.asksForDetection settings.language with
  | false =>
    rw [resolve_of_explicit hasks, afterAsked_of_not resolver rfl, warningsOf_of_not _ _ rfl]
    exact ⟨rfl, rfl⟩
  | true =>
    cases hdetector : resolver.detector with
    | none =>
      rw [resolve_of_missing hasks hdetector]
      rw [afterAsked, warningsOf, hdetector]
      cases hwarned : resolver.warned with
      | false => exact ⟨rfl, rfl⟩
      | true => exact ⟨rfl, rfl⟩
    | some detector =>
      have hnot : (true && resolver.detector.isNone) = false := by rw [hdetector]; rfl
      rw [afterAsked_of_not resolver hnot, warningsOf_of_not _ _ hnot,
        resolve_of_detector hasks hdetector,
        events_bind_of_silent fun _ => silent_pure _, detector.unwarned_find plainText s, left,
        bind_apply]
      cases (detector.find plainText s).result with
      | error fault => exact ⟨rfl, rfl⟩
      | ok language? => exact ⟨rfl, rfl⟩

/-! ## A new resolver -/

/-- It has a detector just if there is a factory, and has not warned. -/
structure Fresh (factory? : Option (Host σ (Detector σ))) (resolver : Resolver σ) : Prop where
  detector : resolver.detector.isNone = factory?.isNone
  warned : resolver.warned = false

theorem fresh_of_make {factory? : Option (Host σ (Detector σ))} {s : σ} {resolver : Resolver σ}
    (h : (make factory? s).result = .ok resolver) : resolver.Fresh factory? := by
  cases factory? with
  | none =>
    obtain rfl : ({} : Resolver σ) = resolver := Except.ok.inj h
    exact ⟨rfl, rfl⟩
  | some factory =>
    rw [make_some] at h
    cases hmade : (factory s).answer with
    | error trouble =>
      rw [hmade] at h
      cases h
    | ok detector =>
      rw [hmade] at h
      obtain rfl := Except.ok.inj h
      exact ⟨rfl, rfl⟩

end Resolver

/-! ## A resolver of a workspace -/

namespace Workspace

/-- **A resolver that is asked** is marked, and no other one is touched. -/
theorem resolvers_resolve (id : Nat) (plainText : Value) (settings : Settings)
    (w : Workspace σ) :
    (resolve id plainText settings w).state.resolvers = w.resolvers.set id
      ((w.resolvers.row id).afterAsked (w.config.asksForDetection settings.language)) := by
  have hleft := (Resolver.marks_resolve w.config (w.resolvers.row id) plainText settings
    w.surroundings.host).1
  rw [← hleft, resolve, read_id_bind, bind_apply, Resolver.left]
  have hresult : (onHost ((w.resolvers.row id).resolve w.config plainText settings) w).result =
      ((w.resolvers.row id).resolve w.config plainText settings w.surroundings.host).result := rfl
  rw [hresult]
  cases ((w.resolvers.row id).resolve w.config plainText settings w.surroundings.host).result with
  | error fault => exact (Table.set_row w.resolvers id).symm
  | ok found => rfl

theorem languageWarnings_resolve (id : Nat) (plainText : Value) (settings : Settings)
    (w : Workspace σ) :
    Event.languageWarnings (resolve id plainText settings w).events =
      (w.resolvers.row id).warningsOf (w.config.asksForDetection settings.language)
        settings.language := by
  rw [resolve, read_id_bind, events_bind_of_silent fun found => ?_]
  · exact (Resolver.marks_resolve w.config _ plainText settings w.surroundings.host).2
  · exact (silent_modify _).bind fun _ => silent_pure _

/-- Without a detector no language is detected. -/
theorem result_resolve_of_missing {id : Nat} {settings : Settings} {w : Workspace σ}
    (hasks : w.config.asksForDetection settings.language = true)
    (hdetector : (w.resolvers.row id).detector = none) (plainText : Value) :
    (resolve id plainText settings w).result = .ok none := by
  rw [result_resolve, Resolver.resolve_of_missing hasks hdetector]
  rfl

end Workspace

end Typeahead
