import Typeahead.Proofs.Collaborators
import Typeahead.Proofs.Resource.Loading
import Typeahead.Workspace.Completion

/-!
# Stages of a request

What the stages of a completion request before the word list give, and what they
leave alone. Main statements: `exists_fragmentize`, `exists_recognize` and, for
each stage, that it keeps `Undisturbed`: collaborators change the state of the
host, and nothing else but the mark of a resolver that it has warned.
-/

namespace Typeahead

namespace Workspace

open Typeahead.Resource

variable {σ α : Type}

/-! ## What stages leave alone -/

/-- Registries, caches and detectors are the same, and so are the configuration
and what can be loaded. -/
structure Undisturbed (w w' : Workspace σ) : Prop where
  config : w'.config = w.config
  fragmentizers : w'.fragmentizers = w.fragmentizers
  builders : w'.builders = w.builders
  caches : w'.caches = w.caches
  detector : ∀ id, (w'.resolvers.row id).detector = (w.resolvers.row id).detector
  shelves : w.surroundings.SameShelves w'.surroundings

theorem Undisturbed.refl (w : Workspace σ) : w.Undisturbed w :=
  ⟨rfl, rfl, rfl, rfl, fun _ => rfl, .refl _⟩

theorem Undisturbed.trans {w w' w'' : Workspace σ} (h : w.Undisturbed w')
    (h' : w'.Undisturbed w'') : w.Undisturbed w'' where
  config := h'.config.trans h.config
  fragmentizers := h'.fragmentizers.trans h.fragmentizers
  builders := h'.builders.trans h.builders
  caches := h'.caches.trans h.caches
  detector id := (h'.detector id).trans (h.detector id)
  shelves := h.shelves.trans h'.shelves

instance : IsPreorder (Workspace σ) Undisturbed where
  refl := .refl
  trans _ _ _ := .trans

theorem keeps_onHost (action : Action σ α) : (onHost action).Keeps Undisturbed :=
  fun w => ⟨rfl, rfl, rfl, rfl, fun _ => rfl, Surroundings.keeps_onHost action w.surroundings⟩

theorem keeps_fragmentize (doc : Document) :
    (fragmentize doc : Action (Workspace σ) _).Keeps Undisturbed :=
  (Action.keeps_of_same fun _ => rfl).bind fun _ => keeps_onHost _

theorem keeps_annotate (doc : Document) (fragment : Draft) :
    (annotate doc fragment : Action (Workspace σ) _).Keeps Undisturbed :=
  (Action.keeps_of_same fun _ => rfl).bind fun _ =>
    (keeps_onHost _).bind fun _ => Action.keeps_of_same fun _ => rfl

/-- A resolver keeps its detector. -/
theorem ensures_detector (config : Config) (resolver : Resolver σ) (plainText : Value)
    (settings : Settings) :
    (resolver.resolve config plainText settings).Ensures fun found =>
      found.2.detector = resolver.detector := by
  unfold Resolver.resolve
  split
  · split <;> exact Action.ensures_pure rfl
  · split
    · split
      · exact Action.ensures_pure rfl
      · exact Action.ensures_bind fun _ => Action.ensures_pure rfl
    · refine Action.ensures_bind fun cleaned => Action.ensures_bind fun detected? => ?_
      cases detected? with
      | none => exact Action.ensures_pure rfl
      | some detected => exact Action.ensures_bind fun _ => Action.ensures_pure rfl

theorem keeps_resolve (resolver : Nat) (plainText : Value) (settings : Settings) :
    (resolve resolver plainText settings : Action (Workspace σ) _).Keeps Undisturbed := by
  intro w
  rw [resolve, Action.read_id_bind, Action.bind_apply]
  have hkeeps := keeps_onHost ((w.resolvers.row resolver).resolve w.config plainText settings) w
  cases hresult : (onHost ((w.resolvers.row resolver).resolve w.config plainText settings)
      w).result with
  | error fault => exact hkeeps
  | ok found =>
      -- What is put back is this resolver, with the detector that it had.
      refine hkeeps.trans ⟨rfl, rfl, rfl, rfl, fun id => ?_, .refl _⟩
      by_cases hid : id = resolver
      · subst hid
        show ((w.resolvers.set id found.2).row id).detector = (w.resolvers.row id).detector
        rw [Table.row_set_self]
        exact ensures_detector _ _ _ _ _ found hresult
      · show ((w.resolvers.set resolver found.2).row id).detector = (w.resolvers.row id).detector
        rw [Table.row_set_of_ne _ _ hid]

/-! ## What stages give -/

/-- A fragment that the builder of its dialect takes, whose language is named or
can be detected, and whose dictionary holds words. -/
structure Handles (w : Workspace σ) (f : Fragment) : Prop where
  builds : w.builders.Gives f.languageId .plain (Builder.Builds f.settings f.code)
  language : w.config.Names f.settings.language
  dictionary : ∃ words : List String, f.settings.dictionary = words.map .text

theorem Handles.undisturbed {w w' : Workspace σ} {f : Fragment} (h : w.Handles f)
    (hw : w.Undisturbed w') : w'.Handles f where
  builds := by rw [hw.builders]; exact h.builds
  language := by rw [hw.config]; exact h.language
  dictionary := h.dictionary

theorem result_fragmentize (doc : Document) (w : Workspace σ) :
    (fragmentize doc w).result =
      (doc.fragments w.config w.fragmentizers w.surroundings.host).result := by
  rw [fragmentize, Action.read_id_bind]
  rfl

/-- **Splitting** gives drafts of fragments. -/
theorem exists_fragmentize {w : Workspace σ} {doc : Document} {fit : List Fragment → Prop}
    (h : w.fragmentizers.Gives doc.languageId (.plain (.text plaintext))
      (Fragmentizer.Splits doc fit)) :
    ∃ fragments : List Fragment, (fragmentize doc w).result = .ok (fragments.map Fragment.draft) ∧
      fit fragments := by
  have hyields : (doc.fragments w.config w.fragmentizers).Yields _ :=
    Document.yields_fragments h
  obtain ⟨drafts, hresult, fragments, rfl, hfit⟩ := hyields w.surroundings.host
  exact ⟨fragments, (result_fragmentize doc w).trans hresult, hfit⟩

def recognize (engine : Engine) (doc : Document) (fragment : Draft) :
    Action (Workspace σ) (Option Value) := do
  let annotated ← annotate doc fragment
  resolve engine.resolver annotated.plainText fragment.settings

theorem keeps_recognize (engine : Engine) (doc : Document) (fragment : Draft) :
    (recognize engine doc fragment : Action (Workspace σ) _).Keeps Undisturbed :=
  (keeps_annotate doc fragment).bind fun _ => keeps_resolve _ _ _

theorem result_annotate (doc : Document) (fragment : Draft) (w : Workspace σ) :
    (annotate doc fragment w).result =
      (fragment.plainText w.config w.builders w.surroundings.host).result.map
        (⟨·, fragment, doc⟩) := by
  rw [annotate, Action.read_id_bind, Action.result_bind_map fun _ _ => rfl]
  rfl

theorem exists_annotate {w : Workspace σ} {f : Fragment} (doc : Document)
    (h : w.builders.Gives f.languageId .plain (Builder.Builds f.settings f.code)) :
    ∃ annotated, (annotate doc f.draft w).result = .ok annotated := by
  have hyields : (f.draft.plainText w.config w.builders).Yields _ := Draft.yields_plainText h
  obtain ⟨plainText, hresult, _⟩ := hyields w.surroundings.host
  refine ⟨⟨plainText, f.draft, doc⟩, ?_⟩
  rw [result_annotate, hresult]
  rfl

theorem result_resolve (resolver : Nat) (plainText : Value) (settings : Settings)
    (w : Workspace σ) :
    (resolve resolver plainText settings w).result =
      ((w.resolvers.row resolver).resolve w.config plainText settings
        w.surroundings.host).result.map Prod.fst := by
  rw [resolve, Action.read_id_bind, Action.result_bind_map fun _ _ => rfl]
  rfl

theorem result_resolve_of_explicit {resolver : Nat} {settings : Settings} {w : Workspace σ}
    (hasks : w.config.asksForDetection settings.language = false) (plainText : Value) :
    (resolve resolver plainText settings w).result = .ok settings.named? := by
  rw [result_resolve, Resolver.resolve_of_explicit hasks]
  rfl

theorem result_recognize_of_explicit {w : Workspace σ} {engine : Engine} {f : Fragment}
    (doc : Document)
    (hbuilds : w.builders.Gives f.languageId .plain (Builder.Builds f.settings f.code))
    (hasks : w.config.asksForDetection f.settings.language = false) :
    (recognize engine doc f.draft w).result = .ok f.settings.named? := by
  obtain ⟨annotated, hannotated⟩ := exists_annotate doc hbuilds
  rw [recognize, Action.result_bind_of_ok hannotated]
  refine result_resolve_of_explicit ?_ _
  rw [(keeps_annotate doc f.draft w).config]
  exact hasks

end Workspace

end Typeahead
