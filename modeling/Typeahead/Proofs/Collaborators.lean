import Mathlib.Logic.Function.Basic
import Typeahead.Fragment.Dialect
import Typeahead.Language.Resolver
import Typeahead.Proofs.Action

/-!
# Collaborators that answer

What it means that a fragmentizer, a builder or a detector is in no trouble, from
whatever state the host is in, and what the stages of a request then give. Main
statements: `Document.yields_fragments`, `Draft.yields_plainText` and
`Resolver.yields_resolve`.
-/

namespace Typeahead

variable {σ : Type}

/-! ## Registered factories -/

/-- What is registered for a dialect, and else the fallback, is fit. -/
structure Registry.Gives {α : Type} (registry : Registry (Host σ α)) (languageId : Value)
    (fallback : α) (fit : α → Prop) : Prop where
  key : ∃ key, languageId.key = .ok key
  registered : ∀ factory, registry.lookUp languageId = .ok (some factory) → factory.Answers fit
  unregistered : registry.lookUp languageId = .ok none → fit fallback

theorem Registry.Gives.lookUp {α : Type} {registry : Registry (Host σ α)} {languageId : Value}
    {fallback : α} {fit : α → Prop} (h : registry.Gives languageId fallback fit) :
    (∃ factory, registry.lookUp languageId = .ok (some factory) ∧ factory.Answers fit) ∨
      (registry.lookUp languageId = .ok none ∧ fit fallback) := by
  obtain ⟨key, hkey⟩ := h.key
  have hlook : registry.lookUp languageId = .ok (registry.find? key) := by
    rw [Registry.lookUp, hkey]
    rfl
  cases hfind : registry.find? key with
  | none =>
      rw [hfind] at hlook
      exact .inr ⟨hlook, h.unregistered hlook⟩
  | some factory =>
      rw [hfind] at hlook
      exact .inl ⟨factory, hlook, h.registered factory hlook⟩

/-- Looking up a dialect is followed by something fit if what goes on with each
outcome is. -/
theorem Registry.Gives.yields {α : Type} {registry : Registry (Host σ α)} {languageId : Value}
    {fallback : α} {fit : α → Prop} (h : registry.Gives languageId fallback fit)
    {next : Option (Host σ α) → Action σ α}
    (hsome : ∀ factory, factory.Answers fit → (next (some factory)).Yields fit)
    (hnone : fit fallback → (next none).Yields fit) :
    (Action.ofExcept ((registry.lookUp languageId).mapError .misfit) >>= next).Yields fit := by
  rcases h.lookUp with ⟨factory, hlook, hanswers⟩ | ⟨hlook, hfallback⟩
  · rw [hlook]
    refine Action.Yields.bind (Action.yields_ofExcept rfl rfl) fun found? hfound => ?_
    subst hfound
    exact hsome factory hanswers
  · rw [hlook]
    refine Action.Yields.bind (Action.yields_ofExcept rfl rfl) fun found? hfound => ?_
    subst hfound
    exact hnone hfallback

/-! ## Fragmentizers -/

def Fragmentizer.Splits (doc : Document) (fit : List Fragment → Prop) : Fragmentizer σ → Prop
  | .plain languageId => fit [⟨languageId, doc.text, 0, doc.settings⟩]
  | .custom f => (f doc.text doc.settings).Answers fun drafts =>
      ∃ fragments : List Fragment, drafts = fragments.map Fragment.draft ∧ fit fragments

theorem Fragmentizer.yields_make {config : Config} {registry : Registry (Factory σ)}
    {languageId : Value} {fit : Fragmentizer σ → Prop}
    (h : registry.Gives languageId (.plain (.text plaintext)) fit) :
    (make config registry languageId).Yields fit := by
  unfold make
  exact h.yields (fun factory hanswers => hanswers.ask _) fun hfallback =>
    (Action.yields_log _ _ _).bind fun _ _ => Action.yields_pure hfallback

theorem Fragmentizer.Splits.yields {doc : Document} {fit : List Fragment → Prop}
    {fragmentizer : Fragmentizer σ} (h : fragmentizer.Splits doc fit) :
    (fragmentizer.fragmentize doc.text doc.settings).Yields fun drafts =>
      ∃ fragments : List Fragment, drafts = fragments.map Fragment.draft ∧ fit fragments := by
  cases fragmentizer with
  | plain languageId => exact Host.Answers.ask (Host.answers_pure ⟨_, rfl, h⟩) _
  | custom f => exact Host.Answers.ask h _

/-- **Splitting a document** gives drafts of fragments. -/
theorem Document.yields_fragments {doc : Document} {config : Config}
    {registry : Registry (Fragmentizer.Factory σ)} {fit : List Fragment → Prop}
    (h : registry.Gives doc.languageId (.plain (.text plaintext)) (Fragmentizer.Splits doc fit)) :
    (doc.fragments config registry).Yields fun drafts =>
      ∃ fragments : List Fragment, drafts = fragments.map Fragment.draft ∧ fit fragments :=
  (Fragmentizer.yields_make h).bind fun _ hsplits => hsplits.yields

/-! ## Builders -/

def Builder.Builds (settings : Settings) (code : String) : Builder σ → Prop
  | .plain => True
  | .custom configure feed build => (configure settings).Answers (fun _ => True) ∧
      (feed (.text code)).Answers (fun _ => True) ∧ build.Answers fun _ => True

theorem Builder.yields_make {config : Config} {registry : Registry (Factory σ)}
    {languageId : Value} {fit : Builder σ → Prop} (h : registry.Gives languageId .plain fit) :
    (make config registry languageId).Yields fit := by
  unfold make
  exact h.yields (fun factory hanswers => hanswers.ask _) fun hfallback =>
    (Action.yields_log _ _ _).bind fun _ _ => Action.yields_pure hfallback

def Builder.plainTextOf (builder : Builder σ) (settings : Settings) (code : Value) :
    Action σ Value := do
  builder.tell settings
  builder.give code
  builder.finish code

theorem Draft.plainText_eq (draft : Draft) (config : Config)
    (registry : Registry (Builder.Factory σ)) :
    draft.plainText config registry =
      Builder.make config registry draft.languageId >>= fun builder =>
        builder.plainTextOf draft.settings draft.code := rfl

theorem Builder.Builds.yields {builder : Builder σ} {settings : Settings} {code : String}
    (h : builder.Builds settings code) :
    (builder.plainTextOf settings (.text code)).Yields fun _ => True := by
  cases builder with
  | plain =>
      have hdone : (Host.pure () : Host σ Unit).Answers fun _ => True :=
        Host.answers_pure trivial
      exact (hdone.ask _).bind fun _ _ => (hdone.ask _).bind fun _ _ =>
        (hdone.ask _).bind fun _ _ =>
          Action.Yields.bind (Action.yields_ofExcept (a := code) rfl rfl) fun _ _ =>
            Action.yields_pure trivial
  | custom configure feed build =>
      obtain ⟨hconfigure, hfeed, hbuild⟩ := h
      exact (hconfigure.ask _).bind fun _ _ => (hfeed.ask _).bind fun _ _ => hbuild.ask _

/-- **The plain text of a fragment** is made. -/
theorem Draft.yields_plainText {f : Fragment} {config : Config}
    {registry : Registry (Builder.Factory σ)}
    (h : registry.Gives f.languageId .plain (Builder.Builds f.settings f.code)) :
    (f.draft.plainText config registry).Yields fun _ => True :=
  (Builder.yields_make h).bind fun _ hbuilds => hbuilds.yields

/-! ## Detectors -/

def Detector.find (detector : Detector σ) (plainText : Value) : Action σ (Option Value) := do
  let cleaned ← Action.ask (.clean plainText) (detector.clean plainText)
  match ← Action.ask (.detect cleaned [] []) (detector.detect cleaned [] []) with
  | none => return none
  | some detected => do
    let code ← Action.ofExcept (detected.code.mapError .misfit)
    return some (.text code)

def Settings.named? (settings : Settings) : Option Value :=
  match settings.language with
  | .null => none
  | language => some language

theorem Resolver.resolve_of_explicit {config : Config} {settings : Settings}
    (hasks : config.asksForDetection settings.language = false) (resolver : Resolver σ)
    (plainText : Value) :
    resolver.resolve config plainText settings = pure (settings.named?, resolver) := by
  rw [resolve, hasks, Settings.named?]
  cases settings.language <;> rfl

theorem Resolver.resolve_of_no_detector {config : Config} {settings : Settings}
    (hasks : config.asksForDetection settings.language = true) {resolver : Resolver σ}
    (hdetector : resolver.detector = none) (plainText : Value) (s : σ) :
    ∃ next events, resolver.resolve config plainText settings s = ⟨.ok (none, next), s, events⟩ ∧
      Event.calls events = [] := by
  unfold resolve
  rw [hasks, hdetector]
  cases resolver.warned with
  | true => exact ⟨_, _, rfl, rfl⟩
  | false => exact ⟨_, _, rfl, rfl⟩

theorem Resolver.resolve_of_detector {config : Config} {settings : Settings}
    (hasks : config.asksForDetection settings.language = true) {resolver : Resolver σ}
    {detector : Detector σ} (hdetector : resolver.detector = some detector) (plainText : Value) :
    resolver.resolve config plainText settings =
      detector.find plainText >>= fun language? => pure (language?, resolver) := by
  rw [resolve, hasks, if_neg (by decide), hdetector]
  simp only [Detector.find, bind_assoc]
  refine bind_congr fun cleaned => bind_congr fun detected? => ?_
  cases detected? with
  | none => rfl
  | some detected => simp only [bind_assoc, pure_bind]

/-- The language is a text, or nothing, or to be detected. -/
def Config.Names (config : Config) (language : Value) : Prop :=
  config.asksForDetection language = true ∨ language = .null ∨ ∃ code, language = .text code

end Typeahead
