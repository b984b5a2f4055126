import Typeahead.Proofs.WordList.Naming
import Typeahead.Proofs.Workspace.Steps

/-!
# What loaders are asked for

With the template that nobody has overridden, whatever is done with caches and engines,
loaders are asked for names of word lists alone. Main statement: `loads_of_run`. The
language codes come from settings and from detectors, which may hold any text; only those
that are well formed get as far as a loader.
-/

namespace Typeahead.Workspace

open Typeahead.Resource

variable {σ : Type}

/-- A step does not override the template by another one. -/
def Step.KeepsTemplate : Step σ → Prop
  | .override change => ∀ config : Config, config.resourceTemplate = WordList.stockTemplate →
    (change config).resourceTemplate = WordList.stockTemplate
  | _ => True

theorem template_run {w : Workspace σ} (h : w.config.resourceTemplate = WordList.stockTemplate)
    {step : Step σ} (hstep : step.KeepsTemplate) :
    (step.run w).state.config.resourceTemplate = WordList.stockTemplate := by
  obtain ⟨moves, hmoves, hall⟩ := does_run step w
  refine hmoves.leads.invariant
    (P := fun s => s.config.resourceTemplate = WordList.stockTemplate) h ?_
  intro m hm s _ hs
  have hmay := hall m hm
  cases m with
  | configure config =>
      show config.resourceTemplate = WordList.stockTemplate
      rcases hmay with ⟨-, rfl⟩ | ⟨change, rfl, rfl⟩
      · rfl
      · exact hstep w.config h
  | _ => exact hs

theorem template_after {w : Workspace σ} (h : w.config.resourceTemplate = WordList.stockTemplate)
    {steps : List (Step σ)} (hsteps : ∀ step ∈ steps, step.KeepsTemplate) :
    (Step.after w steps).config.resourceTemplate = WordList.stockTemplate := by
  induction steps using List.reverseRecOn with
  | nil => exact h
  | append_singleton steps step ih =>
      rw [Step.after_concat]
      refine template_run (ih fun step' hstep' => hsteps step' ?_) (hsteps step ?_)
      · exact List.mem_append_left _ hstep'
      · exact List.mem_append_right _ (List.mem_singleton_self step)

theorem exists_code_of_load {w : Workspace σ}
    (h : w.config.resourceTemplate = WordList.stockTemplate) {steps : List (Step σ)}
    (hsteps : ∀ step ∈ steps, step.KeepsTemplate) {name : Value}
    (hname : .load name ∈ Step.calls w steps) :
    ∃ code, WordList.isCode code = true ∧ name = .text (WordList.resourceOf code) := by
  obtain ⟨before, step, behind, rfl, hload⟩ := Step.exists_of_mem_calls hname
  obtain ⟨cache, code, resource, rfl, hfetches⟩ := exists_of_load hload
  have htemplate : (Step.after w before).config.resourceTemplate = WordList.stockTemplate :=
    template_after h fun step' hstep' => hsteps step' (List.mem_append_left _ hstep')
  have hnamed := hfetches.named
  rw [Config.nameOf_stock htemplate] at hnamed
  exact ⟨code, hfetches.isCode, congrArg Value.text (Except.ok.inj hnamed).symm⟩

/-- **Loaders are asked for names of word lists alone.** Whatever is done from any
workspace on, unless the template is overridden by another one: each name that a loader is
asked for is that of a code of ASCII letters and hyphens. No character in it separates, it
has no two dots side by side, and below a folder it is an entry of the folder. Two codes
have two names. -/
theorem loads_of_run (w : Workspace σ) (steps : List (Step σ))
    (htemplate : w.config.resourceTemplate = WordList.stockTemplate)
    (hsteps : ∀ step ∈ steps, step.KeepsTemplate) :
    (∀ name, .load name ∈ Step.calls w steps → ∃ code : String,
      let resource := "completionList." ++ code ++ ".txt"
      name = .text resource ∧ code ≠ "" ∧ (∀ c ∈ code.toList, WordList.IsCodeChar c) ∧
      (∀ c ∈ resource.toList, c ∉ WordList.separators) ∧ ¬ ['.', '.'] <:+: resource.toList ∧
      ∀ (root : Path) (s : Surroundings σ), ((Loader.directory root).load name s).result =
        (s.disk.read ⟨root.slashes, root.parts ++ [resource]⟩).mapError fun path =>
          .nameTooLong path.render) ∧
    ∀ code other resource, (Step.after w steps).config.nameOf code = .ok resource →
      (Step.after w steps).config.nameOf other = .ok resource → code = other := by
  constructor
  · intro name hname
    obtain ⟨code, hcode, rfl⟩ := exists_code_of_load htemplate hsteps hname
    obtain ⟨hne, hchars⟩ := WordList.isCode_iff.mp hcode
    refine ⟨code, rfl, hne, hchars, fun c hc => WordList.not_mem_separators_of_mem hcode hc,
      WordList.not_dots_infix_resourceOf hcode, fun root s => ?_⟩
    rw [Loader.result_load_directory, Surroundings.result_readFile,
      WordList.join_parse_resourceOf hcode]
    rfl
  · intro code other resource hcode hother
    rw [Config.nameOf_stock (template_after htemplate hsteps)] at hcode hother
    exact WordList.resourceOf_injective (Except.ok.inj (hcode.trans hother.symm))

/-- Settings and a detector that try to get out of the folder do not get as far as the
loader, and a country does. -/
theorem loads_of_run_climbing :
    let detector : Detector Unit :=
      ⟨Host.pure, fun _ _ _ => Host.pure (some (.of "../../en" "" "\n"))⟩
    let w : Workspace Unit := { bundled := "lists", surroundings := { host := () } }
    let document (language : String) : Document :=
      ⟨"a tr.", .text plaintext, Settings.of language []⟩
    let steps : List (Step Unit) :=
      [.newCache (.directory ⟨1, ["lists"]⟩), .newEngine (some (Host.pure detector)) (some 0) none,
        .complete ⟨0, 0⟩ (document "../en") (Position.of 0 4),
        .complete ⟨0, 0⟩ (document "auto") (Position.of 0 4), .get 0 (.text "en\n"),
        .complete ⟨0, 0⟩ (document "en-GB") (Position.of 0 4)]
    (∀ name, .load name ∈ Step.calls w steps → ∃ code : String,
      name = .text ("completionList." ++ code ++ ".txt") ∧
        ∀ c ∈ code.toList, WordList.IsCodeChar c) ∧
      ((Step.calls w steps).filterMap Call.loaded?).map Value.text? =
        [some "completionList.en-GB.txt"] := by
  intro detector w document steps
  have hsteps : ∀ step ∈ steps, step.KeepsTemplate := by
    intro step hstep
    simp only [steps, List.mem_cons, List.not_mem_nil, or_false] at hstep
    rcases hstep with rfl | rfl | rfl | rfl | rfl | rfl <;> trivial
  constructor
  · intro name hname
    obtain ⟨code, hcode, -, hchars, -⟩ := (loads_of_run w steps rfl hsteps).1 name hname
    exact ⟨code, hcode, hchars⟩
  · decide +kernel

end Typeahead.Workspace
