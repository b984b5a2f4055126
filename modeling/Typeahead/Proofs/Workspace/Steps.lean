import Mathlib.Data.List.Induction
import Typeahead.Proofs.Workspace.Shared

/-!
# Runs

Whatever a host does with the library, one step after the other: it makes caches and
engines, asks them, registers collaborators and overrides the configuration, and in
between anything may happen around the library. Main statements: `does_run`, with one
case for each kind of step, and `exists_of_load`: a loader is only ever asked for the
list of a code that its cache does not keep.
-/

namespace Typeahead.Workspace

open Typeahead.Resource

variable {σ α β : Type}

/-- Something that a host does, or that happens around the library. -/
inductive Step (σ : Type) where
  | newCache (loader : Loader σ)
  | newEngine (factory? : Option (Host σ (Detector σ))) (cache? : Option Nat)
      (verbose? : Option Bool)
  | defaultCache
  | complete (engine : Engine) (doc : Document) (position : Position)
  | completeShared (doc : Document) (position : Position)
  | get (cache : Nat) (code : Value)
  | contains (cache : Nat) (code : String)
  | size (cache : Nat)
  | clear (cache : Nat)
  | registerFragmentizer (languageId : Value) (factory : Fragmentizer.Factory σ)
  | registerBuilder (languageId : Value) (factory : Builder.Factory σ)
  | override (change : Config → Config)
  | setVariable (name : Variable) (value : Value)
  | reconfigure
  | disturb (change : Surroundings σ → Surroundings σ)

inductive Answer where
  | cache (number : Nat)
  | engine (engine : Engine)
  | words (list : List String)
  | yes (b : Bool)
  | count (n : Nat)
  | done

namespace Step

def run : Step σ → Action (Workspace σ) Answer
  | .newCache loader => .cache <$> Workspace.newCache loader
  | .newEngine factory? cache? verbose? =>
    .engine <$> Workspace.newEngine factory? cache? verbose?
  | .defaultCache => .cache <$> Workspace.defaultCache
  | .complete engine doc position => .words <$> Workspace.complete engine doc position
  | .completeShared doc position => .words <$> Workspace.completeShared doc position
  | .get cache code => .words <$> wordsOf cache code
  | .contains cache code => Action.read fun w => .yes ((w.caches.row cache).contains code)
  | .size cache => Action.read fun w => .count (w.caches.row cache).size
  | .clear cache => (fun _ => .done) <$> clearCache cache
  | .registerFragmentizer languageId factory =>
    (fun _ => .done) <$> Workspace.registerFragmentizer languageId factory
  | .registerBuilder languageId factory =>
    (fun _ => .done) <$> Workspace.registerBuilder languageId factory
  | .override change => (fun _ => .done) <$> Workspace.override change
  | .setVariable name value => (fun _ => .done) <$> Workspace.setVariable name value
  | .reconfigure => (fun _ => .done) <$> Workspace.reconfigure
  | .disturb change =>
    (fun _ => .done) <$> onSurroundings (Action.modify change)

def after (w : Workspace σ) (steps : List (Step σ)) : Workspace σ :=
  steps.foldl (fun w step => (step.run w).state) w

def history (w : Workspace σ) : List (Step σ) → List (Step σ × Except Fault Answer)
  | [] => []
  | step :: rest => (step, (step.run w).result) :: history (step.run w).state rest

def calls (w : Workspace σ) : List (Step σ) → List Call
  | [] => []
  | step :: rest => Event.calls (step.run w).events ++ calls (step.run w).state rest

theorem after_append (w : Workspace σ) (steps more : List (Step σ)) :
    after w (steps ++ more) = after (after w steps) more :=
  List.foldl_append

theorem after_concat (w : Workspace σ) (steps : List (Step σ)) (step : Step σ) :
    after w (steps ++ [step]) = (step.run (after w steps)).state :=
  after_append w steps [step]

theorem history_concat (w : Workspace σ) (steps : List (Step σ)) (step : Step σ) :
    history w (steps ++ [step]) =
      history w steps ++ [(step, (step.run (after w steps)).result)] := by
  induction steps generalizing w with
  | nil => rfl
  | cons first rest ih =>
      show _ :: history (first.run w).state (rest ++ [step]) = _
      rw [ih]
      rfl

theorem exists_of_mem_calls {c : Call} {w : Workspace σ} {steps : List (Step σ)}
    (h : c ∈ calls w steps) :
    ∃ before step behind, steps = before ++ step :: behind ∧
      c ∈ Event.calls (step.run (after w before)).events := by
  induction steps generalizing w with
  | nil => cases h
  | cons first rest ih =>
      rcases List.mem_append.mp h with h | h
      · exact ⟨[], first, rest, rfl, h⟩
      · obtain ⟨before, step, behind, rfl, hc⟩ := ih h
        exact ⟨first :: before, step, behind, rfl, hc⟩

/-! ## What a step does to caches -/

def NeedsShared : Step σ → Prop
  | .newEngine _ none _ => True
  | .defaultCache => True
  | .completeShared _ _ => True
  | _ => False

/-- The cache whose lists a step asks for. -/
def cache? (w : Workspace σ) : Step σ → Option Nat
  | .get cache _ => some cache
  | .complete engine _ _ => some engine.cache
  | .completeShared doc position =>
    (Workspace.completeShared doc position w).state.sharedEngine.map Engine.cache
  | _ => none

def May (w : Workspace σ) (step : Step σ) : Move σ → Prop
  | .make loader => step = .newCache loader
  | .share _ => step.NeedsShared
  | .install _ => ∃ doc position, step = .completeShared doc position
  | .keep cache _ _ _ => step.cache? w = some cache
  | .miss cache _ _ => step.cache? w = some cache
  | .forget cache => step = .clear cache
  | .configure config =>
    step = .reconfigure ∧ config = Config.ofVariables w.bundled w.vars ∨
      ∃ change, step = .override change ∧ config = change w.config

theorem may_of_reads {w : Workspace σ} {step : Step σ} {cache : Nat}
    (hstep : step.cache? w = some cache) {m : Move σ} (h : m.Reads cache) : step.May w m := by
  cases m with
  | keep cache' code name list =>
      obtain rfl : cache' = cache := h
      exact hstep
  | miss cache' code name =>
      obtain rfl : cache' = cache := h
      exact hstep
  | _ => exact h.elim

end Step

variable {w : Workspace σ} {may : Move σ → Prop}

theorem Does.map {action : Action (Workspace σ) α} (h : Does action w may) (make : α → β) :
    Does (make <$> action) w may := by
  rw [map_eq_pure_bind]
  exact h.bind fun _ _ => does_pure _

theorem does_setVariable (name : Variable) (value : Value) :
    Does (setVariable name value) w may := by
  unfold setVariable
  split
  · exact .idle rfl rfl
  · split
    · exact does_fail _
    · exact .idle rfl rfl
  · exact does_fail _

/-- **Each step** does the moves that come from it. -/
theorem does_run (step : Step σ) (w : Workspace σ) : Does step.run w (step.May w) := by
  cases step with
  | newCache loader =>
      refine Does.map ?_ _
      exact .single (m := .make loader) trivial rfl rfl rfl rfl
  | newEngine factory? cache? verbose? =>
      refine ((does_newEngine factory? cache? verbose?).mono ?_).map _
      rintro m ⟨rfl, loader, rfl⟩
      trivial
  | defaultCache =>
      refine (does_defaultCache.mono ?_).map _
      rintro m ⟨loader, rfl⟩
      trivial
  | complete engine doc position =>
      exact ((does_complete engine doc position).mono fun m => Step.may_of_reads rfl).map _
  | completeShared doc position =>
      refine ((does_completeShared doc position).mono ?_).map _
      rintro m (⟨loader, rfl⟩ | ⟨engine, rfl⟩ | ⟨engine, hengine, hreads⟩)
      · trivial
      · exact ⟨doc, position, rfl⟩
      · refine Step.may_of_reads ?_ hreads
        rw [Step.cache?, hengine]
        rfl
  | get cache code =>
      exact ((does_wordsOf cache code).mono fun m => Step.may_of_reads rfl).map _
  | contains cache code => exact .idle rfl rfl
  | size cache => exact .idle rfl rfl
  | clear cache =>
      refine Does.map ?_ _
      exact .single (m := .forget cache) trivial rfl rfl rfl rfl
  | registerFragmentizer languageId factory =>
      refine Does.map (Does.bind (does_ofExcept _) fun key _ => ?_) _
      exact .idle rfl rfl
  | registerBuilder languageId factory =>
      refine Does.map (Does.bind (does_ofExcept _) fun key _ => ?_) _
      exact .idle rfl rfl
  | override change =>
      refine Does.map ?_ _
      exact .single (m := .configure (change w.config)) trivial rfl rfl rfl
        (.inr ⟨change, rfl, rfl⟩)
  | setVariable name value => exact (does_setVariable name value).map _
  | reconfigure =>
      refine Does.map ?_ _
      exact .single (m := .configure (Config.ofVariables w.bundled w.vars)) trivial rfl rfl rfl
        (.inl ⟨rfl, rfl⟩)
  | disturb change => exact .idle rfl rfl

theorem leads_run (step : Step σ) (w : Workspace σ) :
    ∃ moves, w.standing.Leads moves (step.run w).state.standing ∧
      ∀ cache, .forget cache ∈ moves → step = .clear cache := by
  obtain ⟨moves, hmoves, hall⟩ := does_run step w
  exact ⟨moves, hmoves.leads, fun cache hforget => hall _ hforget⟩

theorem leads_after (w : Workspace σ) (steps : List (Step σ)) :
    ∃ moves, w.standing.Leads moves (Step.after w steps).standing ∧
      ∀ cache, .forget cache ∈ moves → .clear cache ∈ steps := by
  induction steps using List.reverseRecOn with
  | nil =>
      refine ⟨[], .nil _, fun cache hforget => ?_⟩
      cases hforget
  | append_singleton steps step ih =>
      obtain ⟨moves, hmoves, hclear⟩ := ih
      obtain ⟨more, hmore, hclear'⟩ := leads_run step (Step.after w steps)
      rw [Step.after_concat]
      refine ⟨moves ++ more, hmoves.append hmore, fun cache hforget => ?_⟩
      rcases List.mem_append.mp hforget with hforget | hforget
      · exact List.mem_append_left _ (hclear cache hforget)
      · rw [hclear' cache hforget]
        exact List.mem_append_right _ (List.mem_singleton_self _)

/-! ## What a step loads -/

/-- When a step asks a loader for a list, and what comes of it. -/
structure Step.Fetches (w : Workspace σ) (step : Step σ) (cache : Nat) (code resource : String) :
    Prop where
  cache? : step.cache? w = some cache
  isCode : WordList.isCode code = true
  named : w.config.nameOf code = .ok resource
  missing : cache < w.caches.size → (w.caches.row cache).find? code = none
  kept : (∃ fault, (step.run w).result = .error fault) ∨
    ∃ list, ((step.run w).state.caches.row cache).find? code = some list

theorem exists_error_map {o : Except Fault α} (make : α → β) (h : ∃ fault, o = .error fault) :
    ∃ fault, o.map make = .error fault := by
  obtain ⟨fault, rfl⟩ := h
  exact ⟨fault, rfl⟩

/-- **What a step loads** is the list of a code that the cache it asks does not keep. -/
theorem exists_of_load {step : Step σ} {name : Value}
    (hname : .load name ∈ Event.calls (step.run w).events) :
    ∃ cache code resource, name = .text resource ∧ step.Fetches w cache code resource := by
  -- Only steps that ask a cache load, which leaves three kinds of them.
  have hcache : ∃ cache, step.cache? w = some cache := by
    obtain ⟨moves, hmoves, hall⟩ := does_run step w
    rw [← Event.mem_loads, hmoves.loads, List.mem_filterMap] at hname
    obtain ⟨m, hm, hloaded⟩ := hname
    have hmay := hall m hm
    cases m with
    | keep cache code name list => exact ⟨cache, hmay⟩
    | miss cache code name => exact ⟨cache, hmay⟩
    | _ => cases hloaded
  cases step with
  | complete engine doc position =>
      rw [Step.run, Action.map_apply] at hname
      obtain ⟨code, resource, hcode, hresource, rfl, hmissing, hkept⟩ :=
        (does_complete engine doc position).kept_of_load hname
      refine ⟨engine.cache, code, resource, rfl, rfl, hcode, hresource, fun _ => hmissing, ?_⟩
      rw [Step.run, Action.map_apply]
      exact hkept.imp_left (exists_error_map _)
  | completeShared doc position =>
      rw [Step.run, Action.map_apply] at hname
      obtain ⟨engine, code, resource, hengine, hcode, hresource, rfl, hmissing, hkept⟩ :=
        kept_of_load_completeShared hname
      refine ⟨engine.cache, code, resource, rfl, ?_, hcode, hresource, hmissing, ?_⟩
      · rw [Step.cache?, hengine]
        rfl
      · rw [Step.run, Action.map_apply]
        exact hkept.imp_left (exists_error_map _)
  | get cache code =>
      rw [Step.run, Action.map_apply] at hname
      obtain ⟨text, resource, hcode, hresource, rfl, hmissing, hkept⟩ :=
        (does_wordsOf cache code).kept_of_load hname
      refine ⟨cache, text, resource, rfl, rfl, hcode, hresource, fun _ => hmissing, ?_⟩
      rw [Step.run, Action.map_apply]
      exact hkept.imp_left (exists_error_map _)
  | _ =>
      obtain ⟨cache, hcache⟩ := hcache
      cases hcache

end Typeahead.Workspace
