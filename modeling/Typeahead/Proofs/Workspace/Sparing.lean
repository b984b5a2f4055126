import Typeahead.Proofs.Workspace.Steps

/-!
# What resolvers and the root log are spared

Of all that is done with a workspace, few things touch its resolvers or the root log, or
warn about a language. Main statements: `spares_run` for all steps that make no engine and
are no requests, and `keeps_complete_of` for a request: before and behind the call of its
resolver, it spares them too.
-/

namespace Typeahead

def Event.languageWarnings (events : List Event) : List Record :=
  (records events).filter fun r => r.level = .warning ∧ r.topic = .language

theorem Event.languageWarnings_append (events more : List Event) :
    languageWarnings (events ++ more) = languageWarnings events ++ languageWarnings more := by
  rw [languageWarnings, records, List.filterMap_append, List.filter_append]
  rfl

/-! ## Actions that do not warn -/

namespace Action

variable {σ α β : Type}

def Unwarned (action : Action σ α) : Prop :=
  ∀ s, Event.languageWarnings (action s).events = []

theorem Silent.unwarned {action : Action σ α} (h : action.Silent) : action.Unwarned := by
  intro s
  rw [h s]
  rfl

theorem Unwarned.bind {first : Action σ α} {next : α → Action σ β} (hfirst : first.Unwarned)
    (hnext : ∀ a, (next a).Unwarned) : (first >>= next).Unwarned := by
  intro s
  rw [bind_apply]
  cases (first s).result with
  | error fault => exact hfirst s
  | ok a =>
    show Event.languageWarnings (_ ++ _) = []
    rw [Event.languageWarnings_append, hfirst, hnext, List.append_nil]

/-- A collaborator that is called writes no record. -/
theorem unwarned_ask (call : Call) (host : Host σ α) : (ask call host).Unwarned := by
  intro s
  rw [ask_apply]
  split <;> rfl

theorem unwarned_log {level : Level} {topic : Topic} (h : level ≠ .warning ∨ topic ≠ .language)
    (message : String) : (log level topic message : Action σ Unit).Unwarned := by
  intro s
  show List.filter _ [Record.mk level topic message] = []
  rw [List.filter_cons_of_neg, List.filter_nil]
  rw [Bool.not_eq_true, decide_eq_false_iff_not]
  tauto

end Action

open Typeahead.Action

variable {σ α β : Type}

/-! ## Collaborators -/

theorem Fragmentizer.unwarned_make (config : Config) (registry : Registry (Factory σ))
    (languageId : Value) : (make config registry languageId).Unwarned := by
  refine (silent_ofExcept _).unwarned.bind fun factory? => ?_
  cases factory? with
  | some factory => exact unwarned_ask _ factory
  | none => exact (unwarned_log (.inl (by decide)) _).bind fun _ => (silent_pure _).unwarned

theorem Document.unwarned_fragments (doc : Document) (config : Config)
    (registry : Registry (Fragmentizer.Factory σ)) : (doc.fragments config registry).Unwarned := by
  refine (Fragmentizer.unwarned_make config registry _).bind fun fragmentizer => ?_
  cases fragmentizer with
  | plain languageId => exact unwarned_ask _ _
  | custom f => exact unwarned_ask _ _

theorem Builder.unwarned_make (config : Config) (registry : Registry (Factory σ))
    (languageId : Value) : (make config registry languageId).Unwarned := by
  refine (silent_ofExcept _).unwarned.bind fun factory? => ?_
  cases factory? with
  | some factory => exact unwarned_ask _ factory
  | none => exact (unwarned_log (.inl (by decide)) _).bind fun _ => (silent_pure _).unwarned

theorem Builder.unwarned_plainTextOf (builder : Builder σ) (settings : Settings) (code : Value) :
    (builder.plainTextOf settings code).Unwarned := by
  cases builder with
  | plain =>
    refine (unwarned_ask _ _).bind fun _ => (unwarned_ask _ _).bind fun _ => ?_
    exact (unwarned_ask _ _).bind fun _ =>
      ((silent_ofExcept _).bind fun _ => silent_pure _).unwarned
  | custom configure feed build =>
    exact (unwarned_ask _ _).bind fun _ => (unwarned_ask _ _).bind fun _ => unwarned_ask _ _

theorem Draft.unwarned_plainText (draft : Draft) (config : Config)
    (registry : Registry (Builder.Factory σ)) : (draft.plainText config registry).Unwarned := by
  rw [plainText_eq]
  exact (Builder.unwarned_make config registry _).bind fun builder =>
    builder.unwarned_plainTextOf _ _

theorem Detector.unwarned_find (detector : Detector σ) (plainText : Value) :
    (detector.find plainText).Unwarned := by
  refine (unwarned_ask _ _).bind fun cleaned => (unwarned_ask _ _).bind fun detected? => ?_
  cases detected? with
  | none => exact (silent_pure none).unwarned
  | some detected => exact ((silent_ofExcept _).bind fun code => silent_pure _).unwarned

/-- What a detector prints while it is made is recorded, and is no warning. -/
theorem Resolver.unwarned_make (factory? : Option (Host σ (Detector σ))) :
    (make factory?).Unwarned := by
  cases factory? with
  | none => exact (silent_pure _).unwarned
  | some factory =>
    intro s
    rw [make_some, Event.languageWarnings, records_startupEvents, startupRecords]
    split <;> rfl

/-! ## Lists -/

namespace Resource

theorem Loader.unwarned_load (loader : Loader σ) (name : Value) : (loader.load name).Unwarned := by
  have hcall : (Action.emit (.call (.load name)) : Action (Surroundings σ) Unit).Unwarned :=
    fun _ => rfl
  cases loader with
  | package dotted =>
    refine hcall.bind fun _ => ((silent_read _).bind fun packages => ?_).unwarned
    exact (silent_ofExcept _).bind fun root => Surroundings.silent_readFile root name
  | directory root => exact hcall.bind fun _ => (Surroundings.silent_readFile root name).unwarned
  | memory store => exact hcall.bind fun _ => (Surroundings.silent_readStore store name).unwarned
  | custom load => exact fun s => unwarned_ask (.load name) (load name) s.host

end Resource

namespace Cache

theorem unwarned_wordsOf (config : Config) (code name : String)
    (loaded : Except Fault (Option Text.Octets)) :
    (wordsOf config code name loaded : Action (Resource.Surroundings σ) _).Unwarned := by
  have hlog (level : Level) (message : String) :
      (Action.log level .wordLists message : Action (Resource.Surroundings σ) Unit).Unwarned :=
    unwarned_log (.inr (by decide)) message
  unfold wordsOf
  match loaded with
  | .error fault =>
    simp only
    split
    · exact (hlog _ _).bind fun _ => (silent_pure _).unwarned
    · exact fun _ => rfl
  | .ok none => exact (hlog _ _).bind fun _ => (silent_pure _).unwarned
  | .ok (some octets) =>
    refine (silent_ofExcept _).unwarned.bind fun encoding => ?_
    refine (silent_ofExcept _).unwarned.bind fun words => ?_
    split
    · exact (hlog _ _).bind fun _ => (silent_pure _).unwarned
    · exact (silent_pure _).unwarned

theorem unwarned_get (config : Config) (cache : Cache σ) (code : String) :
    (cache.get config code).Unwarned := by
  unfold get
  split
  · split
    · exact (silent_pure _).unwarned
    · refine Unwarned.bind ?_ fun words => (silent_pure _).unwarned
      refine (silent_ofExcept _).unwarned.bind fun template => ?_
      refine (silent_ofExcept _).unwarned.bind fun name => ?_
      exact Unwarned.bind (fun s => cache.loader.unwarned_load (.text name) s) fun loaded =>
        unwarned_wordsOf config code name loaded
  · exact (silent_pure _).unwarned

end Cache

namespace Workspace

/-! ## Actions that spare them -/

/-- The action touches neither the resolvers nor the root log, and warns about no language. -/
structure Spares (action : Action (Workspace σ) α) : Prop where
  resolvers : ∀ w, (action w).state.resolvers = w.resolvers
  rootLog : ∀ w, (action w).state.rootLog = w.rootLog
  unwarned : action.Unwarned

theorem spares_of_silent {action : Action (Workspace σ) α} (hsilent : action.Silent)
    (hresolvers : ∀ w, (action w).state.resolvers = w.resolvers)
    (hrootLog : ∀ w, (action w).state.rootLog = w.rootLog) : Spares action :=
  ⟨hresolvers, hrootLog, hsilent.unwarned⟩

theorem spares_pure (a : α) : Spares (Pure.pure a : Action (Workspace σ) α) :=
  spares_of_silent (silent_pure a) (fun _ => rfl) fun _ => rfl

theorem spares_ofExcept (result : Except Fault α) :
    Spares (ofExcept result : Action (Workspace σ) α) :=
  spares_of_silent (silent_ofExcept result) (fun _ => rfl) fun _ => rfl

theorem spares_read (view : Workspace σ → α) : Spares (read view) :=
  spares_of_silent (silent_read view) (fun _ => rfl) fun _ => rfl

theorem spares_modify {change : Workspace σ → Workspace σ}
    (hresolvers : ∀ w, (change w).resolvers = w.resolvers)
    (hrootLog : ∀ w, (change w).rootLog = w.rootLog) : Spares (modify change) :=
  spares_of_silent (silent_modify change) hresolvers hrootLog

theorem Spares.bind {first : Action (Workspace σ) α} {next : α → Action (Workspace σ) β}
    (hfirst : Spares first) (hnext : ∀ a, Spares (next a)) : Spares (first >>= next) := by
  refine ⟨fun w => ?_, fun w => ?_, hfirst.unwarned.bind fun a => (hnext a).unwarned⟩
  · rw [bind_apply]
    cases (first w).result with
    | error fault => exact hfirst.resolvers w
    | ok a => exact ((hnext a).resolvers _).trans (hfirst.resolvers w)
  · rw [bind_apply]
    cases (first w).result with
    | error fault => exact hfirst.rootLog w
    | ok a => exact ((hnext a).rootLog _).trans (hfirst.rootLog w)

theorem Spares.map {action : Action (Workspace σ) α} (h : Spares action) (make : α → β) :
    Spares (make <$> action) := by
  rw [map_eq_pure_bind]
  exact h.bind fun a => spares_pure (make a)

theorem spares_onSurroundings {action : Action (Resource.Surroundings σ) α}
    (h : action.Unwarned) : Spares (onSurroundings action) :=
  ⟨fun _ => rfl, fun _ => rfl, fun w => h w.surroundings⟩

theorem spares_onHost {action : Action σ α} (h : action.Unwarned) : Spares (onHost action) :=
  spares_onSurroundings fun s => h s.host

theorem spares_engineLog (message : String) :
    Spares (Action.log .debug .engine message : Action (Workspace σ) Unit) :=
  ⟨fun _ => rfl, fun _ => rfl, unwarned_log (.inl (by decide)) message⟩

/-! ## Stages of a request -/

theorem spares_fragmentize (doc : Document) : Spares (fragmentize doc : Action (Workspace σ) _) :=
  (spares_read _).bind fun w => spares_onHost (doc.unwarned_fragments w.config w.fragmentizers)

theorem spares_annotate (doc : Document) (draft : Draft) :
    Spares (annotate doc draft : Action (Workspace σ) _) :=
  (spares_read _).bind fun w =>
    (spares_onHost (draft.unwarned_plainText w.config w.builders)).bind fun _ => spares_pure _

theorem spares_wordsOf (cache : Nat) (language : Value) :
    Spares (wordsOf cache language : Action (Workspace σ) _) := by
  unfold wordsOf
  split
  · refine (spares_read _).bind fun w => ?_
    refine (spares_onSurroundings (Cache.unwarned_get _ _ _)).bind fun found => ?_
    exact Spares.bind (spares_modify (fun _ => rfl) fun _ => rfl) fun _ => spares_pure _
  · exact spares_ofExcept (.error _)

theorem spares_candidates (cache : Nat) (draft : Draft) (cursor language : Value) :
    Spares (candidates cache draft cursor language : Action (Workspace σ) _) := by
  refine (spares_ofExcept _).bind fun word => ?_
  split
  · exact spares_pure []
  · refine (spares_wordsOf cache language).bind fun listed => ?_
    split
    · exact spares_pure []
    · refine (spares_ofExcept _).bind fun own => (spares_ofExcept _).bind fun others => ?_
      exact (spares_engineLog _).bind fun _ => spares_pure _

/-- A request keeps what is kept by all that spares the resolvers and the root log, and by
the call of a resolver. -/
theorem keeps_complete_of {R : Workspace σ → Workspace σ → Prop} [IsPreorder (Workspace σ) R]
    (hspares : ∀ {α : Type} {action : Action (Workspace σ) α}, Spares action → action.Keeps R)
    (hresolve : ∀ resolver plainText settings,
      (resolve resolver plainText settings : Action (Workspace σ) _).Keeps R)
    (engine : Engine) (doc : Document) (position : Position) :
    (complete engine doc position : Action (Workspace σ) _).Keeps R := by
  refine (hspares (spares_ofExcept _)).bind fun offset => ?_
  refine (hspares (spares_fragmentize doc)).bind fun drafts => ?_
  refine (hspares (spares_ofExcept _)).bind fun found? => ?_
  cases found? with
  | none => exact hspares ((spares_engineLog _).bind fun _ => spares_pure [])
  | some found =>
    refine (hspares (spares_annotate doc found.1)).bind fun annotated => ?_
    refine (hresolve _ _ _).bind fun language? => ?_
    cases language? with
    | none => exact hspares ((spares_engineLog _).bind fun _ => spares_pure [])
    | some language => exact hspares (spares_candidates _ _ _ _)

theorem spares_install (engine : Engine) :
    Spares (do
      modify fun w => { w with sharedEngine := some engine }
      return engine : Action (Workspace σ) Engine) :=
  Spares.bind (spares_modify (fun _ => rfl) fun _ => rfl) fun _ => spares_pure engine

/-! ## Steps -/

theorem spares_newCache (loader : Resource.Loader σ) :
    Spares (newCache loader : Action (Workspace σ) Nat) :=
  (spares_read _).bind fun next =>
    Spares.bind (spares_modify (fun _ => rfl) fun _ => rfl) fun _ => spares_pure next

theorem spares_cacheOrDefault (cache? : Option Nat) :
    Spares (cacheOrDefault cache? : Action (Workspace σ) Nat) := by
  cases cache? with
  | some cache => exact spares_pure cache
  | none =>
    refine (spares_read _).bind fun w => ?_
    cases w.sharedCache with
    | some cache => exact spares_pure cache
    | none =>
      refine (spares_onSurroundings (silent_ofValue _).unwarned).bind fun loader => ?_
      refine (spares_newCache loader).bind fun cache => ?_
      exact Spares.bind (spares_modify (fun _ => rfl) fun _ => rfl) fun _ => spares_pure cache

theorem spares_setVariable (name : Variable) (value : Value) :
    Spares (setVariable name value : Action (Workspace σ) Unit) := by
  unfold setVariable
  split
  · exact spares_modify (fun _ => rfl) fun _ => rfl
  · split
    · exact spares_ofExcept (.error _)
    · exact spares_modify (fun _ => rfl) fun _ => rfl
  · exact spares_ofExcept (.error _)

/-- The step makes no engine and is no request. -/
def Step.IsAside : Step σ → Prop
  | .newEngine _ _ _ | .complete _ _ _ | .completeShared _ _ => False
  | _ => True

/-- **Steps that make no engine and are no requests** spare the resolvers and the root log. -/
theorem spares_run {step : Step σ} (h : step.IsAside) : Spares step.run := by
  cases step with
  | newCache loader => exact (spares_newCache loader).map _
  | defaultCache => exact (spares_cacheOrDefault none).map _
  | get cache code => exact (spares_wordsOf cache code).map _
  | contains cache code => exact spares_read _
  | size cache => exact spares_read _
  | clear cache =>
    refine Spares.map ?_ _
    exact spares_modify (fun _ => rfl) fun _ => rfl
  | registerFragmentizer languageId factory =>
    refine Spares.map ?_ _
    exact (spares_ofExcept _).bind fun key => spares_modify (fun _ => rfl) fun _ => rfl
  | registerBuilder languageId factory =>
    refine Spares.map ?_ _
    exact (spares_ofExcept _).bind fun key => spares_modify (fun _ => rfl) fun _ => rfl
  | override change =>
    refine Spares.map ?_ _
    exact spares_modify (fun _ => rfl) fun _ => rfl
  | setVariable name value => exact (spares_setVariable name value).map _
  | reconfigure =>
    refine Spares.map ?_ _
    exact spares_modify (fun _ => rfl) fun _ => rfl
  | disturb change => exact (spares_onSurroundings (silent_modify change).unwarned).map _
  | newEngine factory? cache? verbose? => exact h.elim
  | complete engine doc position => exact h.elim
  | completeShared doc position => exact h.elim

end Workspace

end Typeahead
