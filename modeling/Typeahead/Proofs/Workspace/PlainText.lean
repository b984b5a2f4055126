import Typeahead.Proofs.Workspace.Completion
import Typeahead.Proofs.Workspace.Requests

/-!
# Documents in one fragment

What a request returns for a document that is one fragment and whose settings do
not ask for detection. Main statement: `result_complete_of_explicit`. All that
counts is the word before the offset, the dictionary, and the list of the language
that is named.
-/

namespace Typeahead

namespace Workspace

open Typeahead.Resource

variable {σ : Type}

/-- Every document of the dialect is one fragment, which the builder of the
fragment's dialect takes. -/
def SplitsPlainly (w : Workspace σ) (languageId : Value) : Prop :=
  ∀ doc : Document, doc.languageId = languageId →
    w.fragmentizers.Gives doc.languageId (.plain (.text plaintext))
      (Fragmentizer.Splits doc fun fragments =>
        ∃ dialect, fragments = [⟨dialect, doc.text, 0, doc.settings⟩] ∧
          w.builders.Gives dialect .plain (Builder.Builds doc.settings doc.text))

/-- Where nothing was registered, plain text is one fragment. -/
theorem splitsPlainly_of_initial {w : Workspace σ}
    (hfragmentizers : w.fragmentizers = Fragmentizer.initial)
    (hbuilders : w.builders = Builder.initial) : w.SplitsPlainly (.text plaintext) := by
  intro doc hdoc
  rw [hdoc, hfragmentizers]
  refine ⟨⟨_, rfl⟩, fun factory hfactory => ?_, fun hnone => by cases hnone⟩
  obtain rfl := Option.some.inj (Except.ok.inj hfactory)
  rw [hbuilders]
  refine Host.answers_pure
    ⟨_, rfl, ⟨_, rfl⟩, fun builder hbuilder => ?_, fun hnone => by cases hnone⟩
  obtain rfl := Option.some.inj (Except.ok.inj hbuilder)
  exact Host.answers_pure trivial

theorem SplitsPlainly.follows {w w' : Workspace σ} {languageId : Value}
    (h : w.SplitsPlainly languageId) (hw : w.Follows w') : w'.SplitsPlainly languageId := by
  unfold SplitsPlainly
  rw [hw.fragmentizers, hw.builders]
  exact h

def answerFor (w : Workspace σ) (cache : Nat) (settings : Settings) (word : String) :
    Except Fault (List String) :=
  match settings.named? with
  | none => .ok []
  | some language =>
    candidatesOf (.text word) settings.dictionary (w.listedNow cache language)

theorem answerFor_noWord (w : Workspace σ) (cache : Nat) (settings : Settings) :
    w.answerFor cache settings "" = .ok [] := by
  unfold answerFor
  cases settings.named? <;> rfl

/-- One cache over one steady loader has one answer for each word. -/
theorem answerFor_eq {w w' : Workspace σ} {cache cache' : Nat}
    (hconfig : w'.config = w.config) (hcache : w'.caches.row cache' = w.caches.row cache)
    (hsteady : (w.caches.row cache).loader.Steady w.surroundings)
    (hshelves : w.surroundings.SameShelves w'.surroundings) (settings : Settings)
    (word : String) : w'.answerFor cache' settings word = w.answerFor cache settings word := by
  unfold answerFor
  cases settings.named? with
  | none => rfl
  | some language =>
      exact congrArg (candidatesOf (.text word) settings.dictionary)
        (listedNow_eq hconfig hcache hsteady hshelves language)

theorem result_complete_at_end {engine : Engine} {doc : Document} {position : Position}
    {w : Workspace σ} (hplain : w.SplitsPlainly doc.languageId)
    (hoffset : doc.offsetAt position = .ok doc.chars.length) :
    (complete engine doc position w).result = .ok [] := by
  obtain ⟨fragments, hsplit, dialect, rfl, -⟩ := exists_fragmentize (hplain doc rfl)
  refine result_complete_of_uncovered hoffset hsplit (Fragment.locate_eq_none_iff.mpr ?_)
  intro f hf
  obtain rfl := List.mem_singleton.mp hf
  rw [← Bool.not_eq_true, Fragment.contains_iff]
  rintro ⟨-, hlt⟩
  have hlt' : (doc.chars.length : Int) < 0 + doc.chars.length := hlt
  omega

theorem exists_result_complete (engine : Engine) {doc : Document} {position : Position}
    {o : Nat} {w : Workspace σ} (hplain : w.SplitsPlainly doc.languageId)
    (hexplicit : w.config.asksForDetection doc.settings.language = false)
    (hoffset : doc.offsetAt position = .ok o) (ho : o < doc.chars.length) :
    ∃ w', w.Undisturbed w' ∧ (complete engine doc position w).result =
      w'.answerFor engine.cache doc.settings (wordBefore doc.text o) := by
  obtain ⟨fragments, hsplit, dialect, rfl, hbuilds⟩ := exists_fragmentize (hplain doc rfl)
  let f : Fragment := ⟨dialect, doc.text, 0, doc.settings⟩
  have hcovers : f.contains o = true := by
    rw [Fragment.contains_iff]
    show 0 ≤ (o : Int) ∧ (o : Int) < 0 + doc.chars.length
    omega
  have hlocated : Fragment.locate [f] o = some (f, (o : Int)) := by
    rw [Fragment.locate_singleton hcovers]
    show some (f, (o : Int) - 0) = _
    rw [Int.sub_zero]
  have hsplit_kept := keeps_fragmentize doc w
  have hrecognized : (recognize engine doc f.draft (fragmentize doc w).state).result =
      .ok doc.settings.named? := by
    rw [← hsplit_kept.builders] at hbuilds
    rw [← hsplit_kept.config] at hexplicit
    exact result_recognize_of_explicit doc hbuilds hexplicit
  refine ⟨_, hsplit_kept.trans (keeps_recognize engine doc f.draft _), ?_⟩
  rw [result_complete_of_located hoffset hsplit hlocated, answerFor]
  cases hnamed : doc.settings.named? with
  | none =>
      rw [hnamed] at hrecognized
      exact result_completeIn_of_unknown hrecognized
  | some language =>
      rw [hnamed] at hrecognized
      rw [result_completeIn_of_known hrecognized]
      exact result_candidates_draft engine.cache f o language _

/-- **What a document in one fragment has** at an offset, if its settings do not ask
for detection. -/
theorem result_complete_of_explicit {engine : Engine} {doc : Document} {position : Position}
    {o : Nat} {w : Workspace σ} (hplain : w.SplitsPlainly doc.languageId)
    (hexplicit : w.config.asksForDetection doc.settings.language = false)
    (hsteady : (w.caches.row engine.cache).loader.Steady w.surroundings)
    (hoffset : doc.offsetAt position = .ok o) (ho : o < doc.chars.length) :
    (complete engine doc position w).result =
      w.answerFor engine.cache doc.settings (wordBefore doc.text o) := by
  obtain ⟨w', hkept, hresult⟩ :=
    exists_result_complete engine hplain hexplicit hoffset ho
  rw [hresult, answerFor_eq hkept.config (by rw [hkept.caches]) hsteady hkept.shelves]

end Workspace

end Typeahead
