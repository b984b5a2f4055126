import Typeahead.Proofs.Workspace.Completion

/-!
# Workspaces that answer alike

When two engines, each in a workspace of its own, answer every request alike. Main
statement: `Mirrors.complete_alike`. The registries and the configuration have to
be the same, the collaborators must answer the same from every state of the host,
and the caches must have the same lists; the workspaces need nothing else in common.
-/

namespace Typeahead

variable {σ : Type}

/-! ## Detectors that agree -/

/-- Two detectors are the same function of their input, whatever the host's state. -/
structure Detector.Agrees (detector other : Detector σ) : Prop where
  clean : ∀ text s t, (detector.clean text s).answer = (other.clean text t).answer
  detect : ∀ text s t,
    (detector.detect text [] [] s).answer = (other.detect text [] [] t).answer

/-- The resolver's detector, if it has one, is a function of its input, which the
factory makes again. -/
def Resolver.MadeBy (resolver : Resolver σ) : Option (Host σ (Detector σ)) → Prop
  | none => resolver.detector = none
  | some factory => ∃ detector, resolver.detector = some detector ∧
      factory.Answers fun made => detector.Agrees made

theorem Detector.Agrees.result_find {detector other : Detector σ} (h : detector.Agrees other)
    (plainText : Value) (s t : σ) :
    (detector.find plainText s).result = (other.find plainText t).result := by
  refine Action.result_bind_congr ?_ fun cleaned _ =>
    Action.result_bind_congr ?_ fun detected? _ => ?_
  · rw [Action.result_ask, Action.result_ask, h.clean plainText s t]
  · rw [Action.result_ask, Action.result_ask]
    exact congrArg _ (h.detect cleaned _ _)
  · cases detected? with
    | none => rfl
    | some detected => exact Action.result_bind_congr rfl fun _ _ => rfl

/-- Resolvers whose detectors agree find the same languages, whether they have warned
or not. -/
theorem Resolver.result_resolve_of_agrees {config : Config} {resolver other : Resolver σ}
    (h : Option.Rel Detector.Agrees resolver.detector other.detector) (plainText : Value)
    (settings : Settings) (s t : σ) :
    (resolver.resolve config plainText settings s).result.map Prod.fst =
      (other.resolve config plainText settings t).result.map Prod.fst := by
  cases hasks : config.asksForDetection settings.language with
  | false =>
      rw [resolve_of_explicit hasks, resolve_of_explicit hasks]
      rfl
  | true =>
      generalize hdetector : resolver.detector = detector? at h
      generalize hother : other.detector = other? at h
      cases h with
      | none =>
          obtain ⟨_, _, hresolve, -⟩ := resolve_of_no_detector hasks hdetector plainText s
          obtain ⟨_, _, hresolve', -⟩ := resolve_of_no_detector hasks hother plainText t
          rw [hresolve, hresolve']
          rfl
      | some hagrees =>
          rw [resolve_of_detector hasks hdetector, resolve_of_detector hasks hother,
            Action.result_bind_map fun _ _ => rfl, Action.result_bind_map fun _ _ => rfl,
            hagrees.result_find plainText s t]
          cases (Detector.find _ plainText t).result <;> rfl

/-! ## Collaborators that start afresh -/

/-- Whatever a factory of fragmentizers made before, and whatever state the host is in,
what it makes now splits a text the same way. -/
def Fragmentizer.StartsAfresh (factory : Factory σ) : Prop :=
  ∀ languageId text settings, Action.Unvarying do
    let made ← Action.ask (.makeFragmentizer languageId) factory
    made.fragmentize text settings

/-- The same of a factory of builders and the plain text of some code. -/
def Builder.StartsAfresh (factory : Factory σ) : Prop :=
  ∀ languageId settings code, Action.Unvarying do
    let made ← Action.ask (.makeBuilder languageId) factory
    made.plainTextOf settings code

theorem Builder.unvarying_plain (settings : Settings) (code : Value) :
    ((plain : Builder σ).plainTextOf settings code).Unvarying := fun _ _ =>
  Action.result_bind_congr rfl fun _ _ => Action.result_bind_congr rfl fun _ _ =>
    Action.result_bind_congr rfl fun _ _ => Action.result_bind_congr rfl fun _ _ => rfl

theorem Registry.exists_find?_of_lookUp {α : Type} {registry : Registry α} {v : Value} {a : α}
    (h : (registry.lookUp v).mapError Fault.misfit = .ok (some a)) :
    ∃ key, registry.find? key = some a := by
  rw [lookUp] at h
  cases hkey : v.key with
  | error misfit =>
      rw [hkey] at h
      cases h
  | ok key =>
      rw [hkey] at h
      exact ⟨key, Except.ok.inj h⟩

theorem Registry.forall_find? {α : Type} {registry : Registry α} {fit : α → Prop}
    (h : ∀ entry ∈ registry.entries, fit entry.2) (key : Key) :
    ∀ a ∈ registry.find? key, fit a := by
  intro a ha
  obtain ⟨before, behind, hentries, -⟩ := List.lookup_eq_some_iff.mp ha
  exact h (key, a) (by rw [hentries]; simp)

theorem Document.unvarying_fragments {registry : Registry (Fragmentizer.Factory σ)}
    (h : ∀ key, ∀ factory ∈ registry.find? key, Fragmentizer.StartsAfresh factory)
    (config : Config) (doc : Document) : (doc.fragments config registry).Unvarying := by
  intro s t
  rw [fragments, Fragmentizer.make, bind_assoc]
  refine Action.result_bind_congr rfl fun found? hfound => ?_
  cases found? with
  | none => rfl
  | some factory =>
      obtain ⟨key, hfind⟩ := Registry.exists_find?_of_lookUp hfound
      exact h key factory hfind doc.languageId doc.text doc.settings _ _

theorem Draft.unvarying_plainText {registry : Registry (Builder.Factory σ)}
    (h : ∀ key, ∀ factory ∈ registry.find? key, Builder.StartsAfresh factory)
    (config : Config) (draft : Draft) : (draft.plainText config registry).Unvarying := by
  intro s t
  rw [plainText_eq, Builder.make, bind_assoc]
  refine Action.result_bind_congr rfl fun found? hfound => ?_
  cases found? with
  | none =>
      refine Action.result_bind_congr rfl fun made hmade => ?_
      obtain rfl : Builder.plain = made := Except.ok.inj hmade
      exact Builder.unvarying_plain draft.settings draft.code _ _
  | some factory =>
      obtain ⟨key, hfind⟩ := Registry.exists_find?_of_lookUp hfound
      exact h key factory hfind draft.languageId draft.settings draft.code _ _

namespace Workspace

open Typeahead.Resource

variable {engine engine' : Engine} {w w' v v' : Workspace σ}

structure Repeatable (w : Workspace σ) : Prop where
  fragmentizers : ∀ key, ∀ factory ∈ w.fragmentizers.find? key, Fragmentizer.StartsAfresh factory
  builders : ∀ key, ∀ factory ∈ w.builders.find? key, Builder.StartsAfresh factory

theorem Repeatable.of_same (h : w.Repeatable)
    (hfragmentizers : v.fragmentizers = w.fragmentizers) (hbuilders : v.builders = w.builders) :
    v.Repeatable where
  fragmentizers := by
    rw [hfragmentizers]
    exact h.fragmentizers
  builders := by
    rw [hbuilders]
    exact h.builders

/-! ## Mirrors -/

/-- The requests of two engines go by the same. -/
structure Mirrors (engine engine' : Engine) (w w' : Workspace σ) : Prop where
  config : w'.config = w.config
  fragmentizers : w'.fragmentizers = w.fragmentizers
  builders : w'.builders = w.builders
  detector : Option.Rel Detector.Agrees (w.resolvers.row engine.resolver).detector
    (w'.resolvers.row engine'.resolver).detector
  steady : (w.caches.row engine.cache).loader.Steady w.surroundings
  steady' : (w'.caches.row engine'.cache).loader.Steady w'.surroundings
  listed : ∀ language, w.listedNow engine.cache language = w'.listedNow engine'.cache language

/-- What disturbs neither workspace leaves them alike. -/
theorem Mirrors.undisturbed (h : Mirrors engine engine' w w') (hv : w.Undisturbed v)
    (hv' : w'.Undisturbed v') : Mirrors engine engine' v v' where
  config := by rw [hv'.config, h.config, hv.config]
  fragmentizers := by rw [hv'.fragmentizers, h.fragmentizers, hv.fragmentizers]
  builders := by rw [hv'.builders, h.builders, hv.builders]
  detector := by
    rw [hv.detector, hv'.detector]
    exact h.detector
  steady := by
    rw [hv.caches]
    exact h.steady.of_sameShelves hv.shelves
  steady' := by
    rw [hv'.caches]
    exact h.steady'.of_sameShelves hv'.shelves
  listed language := by
    rw [listedNow_eq hv.config (by rw [hv.caches]) h.steady hv.shelves,
      listedNow_eq hv'.config (by rw [hv'.caches]) h.steady' hv'.shelves, h.listed]

/-! ## Stages that end alike -/

theorem Mirrors.result_fragmentize (h : Mirrors engine engine' w w') (hrepeatable : w.Repeatable)
    (doc : Document) : (fragmentize doc w).result = (fragmentize doc w').result := by
  rw [Workspace.result_fragmentize, Workspace.result_fragmentize, h.config, h.fragmentizers]
  exact Document.unvarying_fragments hrepeatable.fragmentizers _ doc _ _

theorem Mirrors.result_recognize (h : Mirrors engine engine' w w') (hrepeatable : w.Repeatable)
    (doc : Document) (fragment : Draft) :
    (recognize engine doc fragment w).result = (recognize engine' doc fragment w').result := by
  refine Action.result_bind_congr ?_ fun annotated _ => ?_
  · rw [result_annotate, result_annotate, h.config, h.builders,
      Draft.unvarying_plainText hrepeatable.builders _ fragment _ w'.surroundings.host]
  · have hkept := h.undisturbed (keeps_annotate doc fragment w) (keeps_annotate doc fragment w')
    rw [result_resolve, result_resolve, hkept.config]
    exact Resolver.result_resolve_of_agrees hkept.detector _ _ _ _

theorem Mirrors.result_candidates (h : Mirrors engine engine' w w') (fragment : Draft)
    (cursor language : Value) :
    (candidates engine.cache fragment cursor language w).result =
      (candidates engine'.cache fragment cursor language w').result := by
  rw [result_candidates_eq, result_candidates_eq, h.listed]

theorem Mirrors.result_completeIn (h : Mirrors engine engine' w w') (hrepeatable : w.Repeatable)
    (doc : Document) (fragment : Draft) (cursor : Value) :
    (completeIn engine doc fragment cursor w).result =
      (completeIn engine' doc fragment cursor w').result := by
  rw [completeIn_eq, completeIn_eq]
  refine Action.result_bind_congr (h.result_recognize hrepeatable doc fragment) fun language? _ =>
    ?_
  cases language? with
  | none => rfl
  | some language =>
      exact (h.undisturbed (keeps_recognize engine doc fragment w)
        (keeps_recognize engine' doc fragment w')).result_candidates fragment cursor language

/-- **Engines that go by the same answer alike**, be it with candidates or with a
fault. -/
theorem Mirrors.complete_alike (h : Mirrors engine engine' w w') (hrepeatable : w.Repeatable)
    (doc : Document) (position : Position) :
    (complete engine doc position w).result = (complete engine' doc position w').result := by
  refine Action.result_bind_congr rfl fun offset _ => ?_
  refine Action.result_bind_congr (h.result_fragmentize hrepeatable doc) fun drafts _ => ?_
  refine Action.result_bind_congr rfl fun located? _ => ?_
  cases located? with
  | none => rfl
  | some located =>
      have hsplit := keeps_fragmentize doc w
      exact (h.undisturbed hsplit (keeps_fragmentize doc w')).result_completeIn
        (hrepeatable.of_same hsplit.fragmentizers hsplit.builders) doc
        located.1 located.2

end Workspace

end Typeahead
