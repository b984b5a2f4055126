import Typeahead.Proofs.Language.Making
import Typeahead.Proofs.RootLog
import Typeahead.Proofs.Workspace.Moves

/-!
# The process-wide cache and the shared engine

How the cache of those who are given none is made, and the engine of those who have
none. Main statements: `defaultCache_of_none`, `does_newEngine` and `does_completeShared`.
Each is made once, at the first need, and a fault leaves it to be made.
-/

namespace Typeahead

namespace Workspace

open Typeahead.Resource

variable {σ : Type} {w : Workspace σ} {may : Move σ → Prop}

/-! ## The process-wide cache -/

theorem defaultCache_of_some {cache : Nat} (h : w.sharedCache = some cache) :
    defaultCache w = ⟨.ok cache, w, []⟩ := by
  rw [defaultCache, Action.read_id_bind, h]
  rfl

theorem silent_ofValue (address : Value) :
    (Loader.ofValue address : Action (Surroundings σ) _).Silent := by
  refine (Action.silent_ofExcept _).bind fun text => ?_
  refine (Action.silent_ofExcept _).bind fun origin => ?_
  cases origin with
  | package dotted => exact Action.silent_pure _
  | directory root => exact Action.silent_pure _
  | memory =>
      refine Action.Silent.bind ?_ fun _ => Action.silent_pure _
      exact (Action.silent_read _).bind fun _ =>
        (Action.silent_modify _).bind fun _ => Action.silent_pure _

/-- Of what lies around, the loader of an address goes by the stores alone. -/
theorem result_ofValue_congr {s t : Surroundings σ} (address : Value) (h : t.stores = s.stores) :
    (Loader.ofValue address t).result = (Loader.ofValue address s).result := by
  refine Action.result_bind_congr rfl fun text _ => ?_
  refine Action.result_bind_congr rfl fun origin _ => ?_
  cases origin with
  | package dotted => rfl
  | directory root => rfl
  | memory =>
      show Except.ok (Loader.memory t.stores.size) = Except.ok (Loader.memory s.stores.size)
      rw [h]

/-- Where there is no process-wide cache, it is made with the loader of the configured
address, or that has none and then nothing is made. -/
theorem defaultCache_of_none (h : w.sharedCache = none) :
    (∃ loader, (Loader.ofValue w.config.address w.surroundings).result = .ok loader ∧
      (defaultCache w).result = .ok w.caches.size ∧
      (defaultCache w).state.standing = w.standing.after (.share loader)) ∨
    (∃ fault, (Loader.ofValue w.config.address w.surroundings).result = .error fault ∧
      (defaultCache w).result = .error fault ∧
      (defaultCache w).state.standing = w.standing) := by
  rw [defaultCache, Action.read_id_bind, h]
  cases hloader : (Loader.ofValue w.config.address w.surroundings).result with
  | error fault =>
      refine .inr ⟨fault, rfl, ?_⟩
      have hfirst : (onSurroundings (Loader.ofValue w.config.address) w).result = .error fault :=
        hloader
      simp only
      rw [Action.bind_of_error hfirst]
      exact ⟨rfl, rfl⟩
  | ok loader =>
      refine .inl ⟨loader, rfl, ?_⟩
      have hfirst : (onSurroundings (Loader.ofValue w.config.address) w).result = .ok loader :=
        hloader
      simp only
      rw [Action.bind_of_ok hfirst]
      exact ⟨rfl, rfl⟩

theorem silent_defaultCache : (defaultCache : Action (Workspace σ) Nat).Silent := by
  refine (Action.silent_read _).bind fun w => ?_
  cases w.sharedCache with
  | some cache => exact Action.silent_pure cache
  | none =>
      refine Action.Silent.bind (fun w' => silent_ofValue w.config.address w'.surroundings) ?_
      intro loader
      refine Action.Silent.bind ?_ fun cache =>
        (Action.silent_modify _).bind fun _ => Action.silent_pure cache
      exact (Action.silent_read _).bind fun next =>
        (Action.silent_modify _).bind fun _ => Action.silent_pure next

theorem loads_defaultCache : Event.loads (defaultCache w).events = [] := by
  rw [silent_defaultCache w]
  rfl

/-- **The process-wide cache** is at most made. -/
theorem does_defaultCache : Does defaultCache w fun m => ∃ loader, m = .share loader := by
  cases h : w.sharedCache with
  | some cache =>
      apply Rests.does _ loads_defaultCache
      rw [defaultCache_of_some h]
      exact refl_of Rests w
  | none =>
      rcases defaultCache_of_none h with ⟨loader, -, -, hstanding⟩ | ⟨fault, -, -, hstanding⟩
      · exact .single (m := .share loader) h hstanding loads_defaultCache rfl ⟨loader, rfl⟩
      · exact .idle hstanding loads_defaultCache

theorem sharedCache_of_defaultCache {cache : Nat} (h : (defaultCache w).result = .ok cache) :
    (defaultCache w).state.sharedCache = some cache := by
  cases hshared : w.sharedCache with
  | some other =>
      rw [defaultCache_of_some hshared] at h ⊢
      obtain rfl := Except.ok.inj h
      exact hshared
  | none =>
      rcases defaultCache_of_none hshared with
        ⟨loader, -, hresult, hstanding⟩ | ⟨fault, -, hresult, -⟩
      · rw [hresult] at h
        obtain rfl := Except.ok.inj h
        exact congrArg Standing.sharedCache hstanding
      · rw [hresult] at h
        cases h

/-! ## Engines -/

/-- What a new engine does before it needs a cache: it may configure the root log, and
it gets its resolver. -/
def outfit (factory? : Option (Host σ (Detector σ))) (verbose? : Option Bool) :
    Action (Workspace σ) Nat := do
  let w ← Action.read id
  if verbose?.getD w.config.verbose then
    onRootLog (RootLog.setup (.int RootLog.info))
  newResolver factory?

def cacheOrDefault : Option Nat → Action (Workspace σ) Nat
  | some cache => pure cache
  | none => defaultCache

theorem newEngine_eq (factory? : Option (Host σ (Detector σ))) (cache? : Option Nat)
    (verbose? : Option Bool) :
    newEngine factory? cache? verbose? =
      outfit factory? verbose? >>= fun resolver =>
        (Engine.mk resolver ·) <$> cacheOrDefault cache? := by
  rw [outfit, bind_assoc]
  unfold newEngine
  congr 1
  -- Both branches end by making the resolver.
  funext w
  by_cases hverbose : verbose?.getD w.config.verbose = true
  · simp only [hverbose, if_true, bind_assoc]
    cases cache? <;> simp [cacheOrDefault]
  · simp only [hverbose]
    cases cache? <;> simp [cacheOrDefault]

theorem events_newResolver (factory? : Option (Host σ (Detector σ))) (w : Workspace σ) :
    (newResolver factory? w).events = (Resolver.make factory? w.surroundings.host).events := by
  refine Action.events_bind_of_silent (fun resolver => ?_) w
  exact (Action.silent_read _).bind fun next =>
    (Action.silent_modify _).bind fun _ => Action.silent_pure next

/-- Before its cache, a new engine gets its resolver; the root log may have been
configured by then. -/
theorem exists_outfit (factory? : Option (Host σ (Detector σ))) (verbose? : Option Bool)
    (w : Workspace σ) :
    ∃ rootLog, outfit factory? verbose? w = newResolver factory? { w with rootLog } := by
  rw [outfit, Action.read_id_bind]
  split
  · have hlog : (onRootLog (RootLog.setup (.int RootLog.info)) w).result = .ok () :=
      RootLog.result_setup_info w.rootLog
    have hsilent : (onRootLog (RootLog.setup (.int RootLog.info)) w).events = [] :=
      RootLog.silent_setup _ w.rootLog
    rw [Action.bind_of_ok hlog, hsilent]
    exact ⟨_, rfl⟩
  · exact ⟨w.rootLog, rfl⟩

theorem silent_cacheOrDefault (cache? : Option Nat) :
    (cacheOrDefault cache? : Action (Workspace σ) Nat).Silent := by
  cases cache? with
  | some cache => exact Action.silent_pure cache
  | none => exact silent_defaultCache

theorem events_newEngine (factory? : Option (Host σ (Detector σ))) (cache? : Option Nat)
    (verbose? : Option Bool) (w : Workspace σ) :
    (newEngine factory? cache? verbose? w).events =
      (Resolver.make factory? w.surroundings.host).events := by
  obtain ⟨rootLog, houtfit⟩ := exists_outfit factory? verbose? w
  have hsilent (resolver : Nat) :
      (Engine.mk resolver <$> cacheOrDefault cache? : Action (Workspace σ) Engine).Silent := by
    intro w'
    rw [Action.map_apply]
    exact silent_cacheOrDefault cache? w'
  rw [newEngine_eq, Action.events_bind_of_silent hsilent, houtfit, events_newResolver]

theorem rests_outfit (factory? : Option (Host σ (Detector σ))) (verbose? : Option Bool) :
    (outfit factory? verbose?).Keeps Rests := by
  have hresolver : (newResolver factory?).Keeps (Rests (σ := σ)) :=
    (rests_onHost _).bind fun _ => (Action.keeps_of_same fun _ => rfl).bind fun _ =>
      Action.Keeps.bind (fun _ => ⟨rfl, rfl⟩) fun _ => Action.keeps_of_same fun _ => rfl
  intro w
  obtain ⟨rootLog, houtfit⟩ := exists_outfit factory? verbose? w
  have hrests := hresolver { w with rootLog }
  rw [houtfit]
  exact ⟨hrests.standing, hrests.stores⟩

theorem loads_make (factory? : Option (Host σ (Detector σ))) (s : σ) :
    Event.loads (Resolver.make factory? s).events = [] := by
  cases factory? with
  | none => rfl
  | some factory =>
      rw [Resolver.make_some, Event.loads, Resolver.calls_startupEvents]
      rfl

theorem does_outfit (factory? : Option (Host σ (Detector σ))) (verbose? : Option Bool) :
    Does (outfit factory? verbose?) w may := by
  refine Rests.does (rests_outfit factory? verbose? w) ?_
  obtain ⟨rootLog, houtfit⟩ := exists_outfit factory? verbose? w
  rw [houtfit, events_newResolver, loads_make]

/-- **A new engine** makes no cache but the process-wide one, and that only if it is
given none. -/
theorem does_newEngine (factory? : Option (Host σ (Detector σ))) (cache? : Option Nat)
    (verbose? : Option Bool) :
    Does (newEngine factory? cache? verbose?) w fun m =>
      cache? = none ∧ ∃ loader, m = .share loader := by
  rw [newEngine_eq]
  refine (does_outfit factory? verbose?).bind fun resolver _ => ?_
  rw [map_eq_pure_bind]
  refine Does.bind ?_ fun _ _ => does_pure _
  cases cache? with
  | some cache => exact does_pure cache
  | none => exact does_defaultCache.mono fun _ h => ⟨rfl, h⟩

theorem cache_of_newEngine_some {factory? : Option (Host σ (Detector σ))} {cache : Nat}
    {verbose? : Option Bool} {engine : Engine}
    (h : (newEngine factory? (some cache) verbose? w).result = .ok engine) :
    engine.cache = cache := by
  rw [newEngine_eq] at h
  obtain ⟨resolver, -, hengine⟩ := Action.exists_of_bind_eq_ok h
  obtain rfl := Except.ok.inj hengine
  rfl

theorem sharedCache_of_newEngine_none {factory? : Option (Host σ (Detector σ))}
    {verbose? : Option Bool} {engine : Engine}
    (h : (newEngine factory? none verbose? w).result = .ok engine) :
    (newEngine factory? none verbose? w).state.sharedCache = some engine.cache := by
  rw [newEngine_eq] at h ⊢
  obtain ⟨resolver, hresolver, hengine⟩ := Action.exists_of_bind_eq_ok h
  obtain ⟨cache, hcache, rfl⟩ := Action.exists_of_map_eq_ok hengine
  rw [Action.bind_of_ok hresolver, Action.map_apply]
  exact sharedCache_of_defaultCache hcache

theorem standing_newEngine_some (factory? : Option (Host σ (Detector σ))) (cache : Nat)
    (verbose? : Option Bool) (w : Workspace σ) :
    (newEngine factory? (some cache) verbose? w).state.standing = w.standing := by
  have hkeeps : (newEngine factory? (some cache) verbose?).Keeps (Rests (σ := σ)) := by
    rw [newEngine_eq]
    refine (rests_outfit factory? verbose?).bind fun resolver => ?_
    exact Action.keeps_of_same fun _ => rfl
  exact (hkeeps w).standing

/-- Where there is no process-wide cache, an engine that is given none makes it with the
loader of the configured address, or there is a fault and nothing is made. -/
theorem newEngine_of_none (factory? : Option (Host σ (Detector σ))) (verbose? : Option Bool)
    (h : w.sharedCache = none) :
    (∃ loader engine, (Loader.ofValue w.config.address w.surroundings).result = .ok loader ∧
      (newEngine factory? none verbose? w).result = .ok engine ∧
      (newEngine factory? none verbose? w).state.standing = w.standing.after (.share loader)) ∨
    (∃ fault, (newEngine factory? none verbose? w).result = .error fault ∧
      (newEngine factory? none verbose? w).state.standing = w.standing) := by
  have hrests := rests_outfit factory? verbose? w
  rw [newEngine_eq]
  cases hresolver : (outfit factory? verbose? w).result with
  | error fault =>
      rw [Action.bind_of_error hresolver]
      exact .inr ⟨fault, rfl, hrests.standing⟩
  | ok resolver =>
      rw [Action.bind_of_ok hresolver, cacheOrDefault, Action.map_apply]
      have hnone : (outfit factory? verbose? w).state.sharedCache = none :=
        (congrArg Standing.sharedCache hrests.standing).trans h
      have haddress : (outfit factory? verbose? w).state.config = w.config :=
        congrArg Standing.config hrests.standing
      rcases defaultCache_of_none hnone with ⟨loader, hloader, hresult, hstanding⟩ |
        ⟨fault, -, hresult, hstanding⟩
      · rw [haddress, result_ofValue_congr _ hrests.stores] at hloader
        rw [hrests.standing] at hstanding
        refine .inl ⟨loader, ⟨resolver, (outfit factory? verbose? w).state.caches.size⟩, hloader,
          ?_, hstanding⟩
        simp only [hresult]
        rfl
      · rw [hrests.standing] at hstanding
        refine .inr ⟨fault, ?_, hstanding⟩
        simp only [hresult]
        rfl

/-! ## The shared engine -/

theorem theSharedEngine_of_some {engine : Engine} (h : w.sharedEngine = some engine) :
    theSharedEngine w = ⟨.ok engine, w, []⟩ := by
  rw [theSharedEngine, Action.read_bind, h]
  rfl

theorem theSharedEngine_of_none (h : w.sharedEngine = none) :
    theSharedEngine w = (newEngine none none none >>= fun engine => do
      Action.modify fun w => { w with sharedEngine := some engine }
      return engine) w := by
  rw [theSharedEngine, Action.read_bind, h]

theorem silent_theSharedEngine : (theSharedEngine : Action (Workspace σ) Engine).Silent := by
  intro w
  cases hshared : w.sharedEngine with
  | some engine => rw [theSharedEngine_of_some hshared]
  | none =>
    rw [theSharedEngine_of_none hshared, Action.events_bind_of_silent fun engine => ?_,
      events_newEngine]
    · rfl
    · exact (Action.silent_modify _).bind fun _ => Action.silent_pure engine

theorem sharedEngine_newEngine (factory? : Option (Host σ (Detector σ))) (cache? : Option Nat)
    (verbose? : Option Bool) (w : Workspace σ) :
    (newEngine factory? cache? verbose? w).state.sharedEngine = w.sharedEngine := by
  obtain ⟨moves, hmoves, hall⟩ := does_newEngine (w := w) factory? cache? verbose?
  refine hmoves.leads.invariant (P := fun s => s.sharedEngine = w.sharedEngine) rfl ?_
  intro m hm s _ hs
  obtain ⟨-, loader, rfl⟩ := hall m hm
  exact hs

/-- **The shared engine** is at most made, with the process-wide cache. -/
theorem does_theSharedEngine :
    Does theSharedEngine w fun m =>
      (∃ loader, m = .share loader) ∨ ∃ engine, m = .install engine := by
  cases h : w.sharedEngine with
  | some engine =>
      apply Rests.does <;> rw [theSharedEngine_of_some h]
      · exact refl_of Rests w
      · rfl
  | none =>
      unfold Does
      rw [theSharedEngine_of_none h]
      refine Does.bind ((does_newEngine none none none).mono fun m hm => .inl hm.2) ?_
      intro engine hengine
      have hnone : (newEngine none none none w).state.sharedEngine = none := by
        rw [sharedEngine_newEngine, h]
      exact .single (m := .install engine) ⟨hnone, sharedCache_of_newEngine_none hengine⟩ rfl rfl
        rfl (.inr ⟨engine, rfl⟩)

theorem sharedEngine_of_theSharedEngine {engine : Engine}
    (h : (theSharedEngine w).result = .ok engine) :
    (theSharedEngine w).state.sharedEngine = some engine := by
  cases hshared : w.sharedEngine with
  | some other =>
      rw [theSharedEngine_of_some hshared] at h ⊢
      obtain rfl := Except.ok.inj h
      exact hshared
  | none =>
      rw [theSharedEngine_of_none hshared] at h ⊢
      obtain ⟨made, hmade, hengine⟩ := Action.exists_of_bind_eq_ok h
      obtain rfl := Except.ok.inj hengine
      rw [Action.bind_of_ok hmade]
      rfl

theorem shared_complete (engine : Engine) (doc : Document) (position : Position)
    (w : Workspace σ) :
    (complete engine doc position w).state.sharedCache = w.sharedCache ∧
      (complete engine doc position w).state.sharedEngine = w.sharedEngine := by
  obtain ⟨moves, hmoves, hall⟩ := does_complete (w := w) engine doc position
  refine hmoves.leads.invariant
    (P := fun s => s.sharedCache = w.sharedCache ∧ s.sharedEngine = w.sharedEngine) ⟨rfl, rfl⟩ ?_
  intro m hm s _ hs
  have hreads := hall m hm
  cases m with
  | keep cache code name list => exact hs
  | miss cache code name => exact hs
  | _ => exact hreads.elim

theorem completeShared_eq (doc : Document) (position : Position) :
    (completeShared doc position : Action (Workspace σ) _) =
      theSharedEngine >>= fun engine => complete engine doc position := rfl

theorem sharedEngine_completeShared {engine : Engine} (h : (theSharedEngine w).result = .ok engine)
    (doc : Document) (position : Position) :
    (completeShared doc position w).state.sharedEngine = some engine := by
  rw [completeShared_eq, Action.bind_of_ok h]
  show (complete engine doc position (theSharedEngine w).state).state.sharedEngine = _
  rw [(shared_complete engine doc position _).2]
  exact sharedEngine_of_theSharedEngine h

/-- **A request of the shared engine** makes what is missing, and then at most reads a
list for the cache of that engine. -/
theorem does_completeShared (doc : Document) (position : Position) :
    Does (completeShared doc position) w fun m =>
      (∃ loader, m = .share loader) ∨ (∃ engine, m = .install engine) ∨
        ∃ engine, (completeShared doc position w).state.sharedEngine = some engine ∧
          m.Reads engine.cache := by
  refine Does.bind (does_theSharedEngine.mono fun m hm => ?_) fun engine hengine => ?_
  · rcases hm with hm | hm
    · exact .inl hm
    · exact .inr (.inl hm)
  · refine (does_complete engine doc position).mono fun m hm => .inr (.inr ⟨engine, ?_, hm⟩)
    exact sharedEngine_completeShared hengine doc position

/-- Where there is no shared engine, it is the new engine, or there is a fault and no
shared engine. -/
theorem theSharedEngine_of_newEngine (h : w.sharedEngine = none) :
    (∃ engine, (newEngine none none none w).result = .ok engine ∧
      (theSharedEngine w).result = .ok engine ∧
      (theSharedEngine w).state.standing =
        (newEngine none none none w).state.standing.after (.install engine)) ∨
    (∃ fault, (newEngine none none none w).result = .error fault ∧
      (theSharedEngine w).result = .error fault ∧
      (theSharedEngine w).state.standing = (newEngine none none none w).state.standing) := by
  rw [theSharedEngine_of_none h]
  cases hengine : (newEngine none none none w).result with
  | error fault =>
      rw [Action.bind_of_error hengine]
      exact .inr ⟨fault, rfl, rfl, rfl⟩
  | ok engine =>
      rw [Action.bind_of_ok hengine]
      exact .inl ⟨engine, rfl, rfl, rfl⟩

theorem loads_theSharedEngine : Event.loads (theSharedEngine w).events = [] := by
  rw [silent_theSharedEngine w]
  rfl

theorem kept_theSharedEngine {cache : Nat} (hsize : cache < w.caches.size) {code : String}
    {list : List String} (hfind : (w.caches.row cache).find? code = some list) :
    ((theSharedEngine w).state.caches.row cache).find? code = some list := by
  obtain ⟨moves, hmoves, hall⟩ := does_theSharedEngine (w := w)
  refine hmoves.leads.find?_eq hsize (fun hforget => ?_) hfind
  rcases hall _ hforget with ⟨loader, h⟩ | ⟨engine, h⟩ <;> cases h

theorem config_theSharedEngine : (theSharedEngine w).state.config = w.config := by
  obtain ⟨moves, hmoves, hall⟩ := does_theSharedEngine (w := w)
  refine hmoves.leads.invariant (P := fun s => s.config = w.config) rfl ?_
  intro m hm s _ hs
  rcases hall m hm with ⟨loader, rfl⟩ | ⟨engine, rfl⟩ <;> exact hs

theorem kept_of_load_completeShared {doc : Document} {position : Position} {name : Value}
    (hname : .load name ∈ Event.calls (completeShared doc position w).events) :
    ∃ engine code resource,
      (completeShared doc position w).state.sharedEngine = some engine ∧
      WordList.isCode code = true ∧ w.config.nameOf code = .ok resource ∧
      name = .text resource ∧
      (engine.cache < w.caches.size → (w.caches.row engine.cache).find? code = none) ∧
      ((∃ fault, (completeShared doc position w).result = .error fault) ∨
        ∃ list, ((completeShared doc position w).state.caches.row engine.cache).find? code =
          some list) := by
  rw [← Event.mem_loads] at hname
  cases hengine : (theSharedEngine w).result with
  | error fault =>
      rw [completeShared_eq, Action.bind_of_error hengine, loads_theSharedEngine] at hname
      cases hname
  | ok engine =>
      have hshared := sharedEngine_completeShared hengine doc position
      rw [completeShared_eq, Action.bind_of_ok hengine] at hname hshared ⊢
      rw [Event.loads_append, loads_theSharedEngine, List.nil_append, Event.mem_loads] at hname
      obtain ⟨code, resource, hcode, hresource, rfl, hmissing, hkept⟩ :=
        (does_complete engine doc position).kept_of_load hname
      rw [config_theSharedEngine] at hresource
      refine ⟨engine, code, resource, hshared, hcode, hresource, rfl, fun hsize => ?_, hkept⟩
      cases hfind : (w.caches.row engine.cache).find? code with
      | none => rfl
      | some list =>
          rw [kept_theSharedEngine hsize hfind] at hmissing
          cases hmissing

end Workspace

end Typeahead
