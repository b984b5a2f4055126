import Typeahead.Proofs.Workspace.Loads
import Typeahead.Proofs.Workspace.Overlooked
import Typeahead.Proofs.Workspace.Standing

/-!
# One cache for those who are given none

Over every run from a workspace without a process-wide cache and without a shared engine.
Main statement: `sharing_of_run`. Whoever is given no cache gets one and the same; the
first who needs it makes it, and it is never replaced. Whoever is given a cache stays with
it, and leaves the other one alone.
-/

namespace Typeahead.Workspace

open Typeahead.Resource

variable {σ α β : Type}

/-! ## Who has which cache -/

/-- Which cache those have who were given one, and those who were not, after some steps. -/
structure Users (now : Workspace σ) (entries : List (Step σ × Except Fault Answer)) : Prop where
  withoutCache : ∀ factory? verbose? engine,
    (.newEngine factory? none verbose?, .ok (.engine engine)) ∈ entries →
      now.sharedCache = some engine.cache
  defaultCache : ∀ cache, (.defaultCache, .ok (.cache cache)) ∈ entries →
    now.sharedCache = some cache
  requested : ∀ doc position answer, (.completeShared doc position, .ok answer) ∈ entries →
    ∃ engine, now.sharedEngine = some engine
  sharedEngine : ∀ engine, now.sharedEngine = some engine → now.sharedCache = some engine.cache
  withCache : ∀ factory? cache verbose? engine,
    (.newEngine factory? (some cache) verbose?, .ok (.engine engine)) ∈ entries →
      engine.cache = cache
  /-- A cache that was made by itself is not the process-wide one. -/
  newCache : ∀ loader cache, (.newCache loader, .ok (.cache cache)) ∈ entries →
    cache < now.caches.size ∧ now.sharedCache ≠ some cache

theorem mem_or_last {step last : Step σ} {result end? : Except Fault Answer}
    {entries : List (Step σ × Except Fault Answer)}
    (h : (step, result) ∈ entries ++ [(last, end?)]) :
    (step, result) ∈ entries ∨ step = last ∧ end? = result := by
  rcases List.mem_append.mp h with h | h
  · exact .inl h
  · obtain ⟨hstep, hresult⟩ := Prod.mk.inj (List.mem_singleton.mp h)
    exact .inr ⟨hstep, hresult.symm⟩

theorem sharedCache_of_run_newEngine {w : Workspace σ}
    {factory? : Option (Host σ (Detector σ))} {verbose? : Option Bool} {engine : Engine}
    (h : ((Step.newEngine factory? none verbose?).run w).result = .ok (.engine engine)) :
    ((Step.newEngine factory? none verbose?).run w).state.sharedCache = some engine.cache := by
  obtain ⟨made, hresult, hmade⟩ := Action.exists_of_map_eq_ok h
  obtain rfl := Answer.engine.inj hmade
  rw [Step.run, Action.map_apply]
  exact sharedCache_of_newEngine_none hresult

theorem cache_of_run_newEngine {w : Workspace σ} {factory? : Option (Host σ (Detector σ))}
    {cache : Nat} {verbose? : Option Bool} {engine : Engine}
    (h : ((Step.newEngine factory? (some cache) verbose?).run w).result = .ok (.engine engine)) :
    engine.cache = cache := by
  obtain ⟨made, hresult, hmade⟩ := Action.exists_of_map_eq_ok h
  obtain rfl := Answer.engine.inj hmade
  exact cache_of_newEngine_some hresult

theorem sharedCache_of_run_defaultCache {w : Workspace σ} {cache : Nat}
    (h : (Step.defaultCache.run w).result = .ok (.cache cache)) :
    (Step.defaultCache.run w).state.sharedCache = some cache := by
  obtain ⟨made, hresult, hmade⟩ := Action.exists_of_map_eq_ok h
  obtain rfl := Answer.cache.inj hmade
  rw [Step.run, Action.map_apply]
  exact sharedCache_of_defaultCache hresult

theorem exists_sharedEngine_of_run {w : Workspace σ} {doc : Document} {position : Position}
    {answer : Answer} (h : ((Step.completeShared doc position).run w).result = .ok answer) :
    ∃ engine, ((Step.completeShared doc position).run w).state.sharedEngine = some engine := by
  obtain ⟨words, hwords, -⟩ := Action.exists_of_map_eq_ok h
  obtain ⟨engine, hengine, -⟩ := Action.exists_of_bind_eq_ok hwords
  refine ⟨engine, ?_⟩
  rw [Step.run, Action.map_apply]
  exact sharedEngine_completeShared hengine doc position

/-- One step leaves everyone with the cache that they have. -/
theorem Users.run {now : Workspace σ} {entries : List (Step σ × Except Fault Answer)}
    (h : Users now entries) (hsound : now.standing.Sound) (step : Step σ) :
    Users (step.run now).state (entries ++ [(step, (step.run now).result)]) := by
  obtain ⟨moves, hmoves, -⟩ := leads_run step now
  have hsound' := hmoves.sound hsound
  have hcache {cache : Nat} (hshared : now.sharedCache = some cache) :
      (step.run now).state.sharedCache = some cache := hmoves.sharedCache_eq hshared
  constructor
  · intro factory? verbose? engine hmem
    rcases mem_or_last hmem with hmem | ⟨rfl, hresult⟩
    · exact hcache (h.withoutCache factory? verbose? engine hmem)
    · exact sharedCache_of_run_newEngine hresult
  · intro cache hmem
    rcases mem_or_last hmem with hmem | ⟨rfl, hresult⟩
    · exact hcache (h.defaultCache cache hmem)
    · exact sharedCache_of_run_defaultCache hresult
  · intro doc position answer hmem
    rcases mem_or_last hmem with hmem | ⟨rfl, hresult⟩
    · obtain ⟨engine, hengine⟩ := h.requested doc position answer hmem
      exact ⟨engine, hmoves.sharedEngine_eq hengine⟩
    · exact exists_sharedEngine_of_run hresult
  · exact hsound'.engine
  · intro factory? cache verbose? engine hmem
    rcases mem_or_last hmem with hmem | ⟨rfl, hresult⟩
    · exact h.withCache factory? cache verbose? engine hmem
    · exact cache_of_run_newEngine hresult
  · intro loader cache hmem
    rcases mem_or_last hmem with hmem | ⟨rfl, hresult⟩
    · obtain ⟨hsize, hother⟩ := h.newCache loader cache hmem
      refine ⟨Nat.lt_of_lt_of_le hsize hmoves.size_le, fun hshared => ?_⟩
      -- A process-wide cache from before the step is still the one, and a later one has a
      -- number of its own.
      cases hbefore : now.sharedCache with
      | some id =>
          rw [hcache hbefore] at hshared
          exact hother (hbefore.trans hshared)
      | none =>
          have hle : now.caches.size ≤ cache := hmoves.size_le_shared hbefore hshared
          omega
    · obtain rfl := Answer.cache.inj (Except.ok.inj hresult)
      refine ⟨Nat.lt_succ_self _, fun hshared => ?_⟩
      have hlt : now.caches.size < now.caches.size := hsound.made _ hshared
      omega

theorem sound_after {w : Workspace σ} (h : w.standing.Sound) (steps : List (Step σ)) :
    (Step.after w steps).standing.Sound := by
  obtain ⟨moves, hmoves, -⟩ := leads_after w steps
  exact hmoves.sound h

theorem users_after {w : Workspace σ} (hcache : w.sharedCache = none)
    (hengine : w.sharedEngine = none) (steps : List (Step σ)) :
    Users (Step.after w steps) (Step.history w steps) := by
  have hsound : w.standing.Sound := Standing.sound_of_none hcache hengine
  induction steps using List.reverseRecOn with
  | nil =>
      constructor
      case sharedEngine => exact hsound.engine
      all_goals
        intros
        rename_i hmem
        cases hmem
  | append_singleton steps step ih =>
      rw [Step.after_concat, Step.history_concat]
      exact ih.run (sound_after hsound steps) step

/-! ## Who makes the process-wide cache -/

/-- The action makes the process-wide cache with the loader of the configured address, or
it ends in a fault, and that cache and the shared engine are left to be made. -/
def MakesShared (action : Action (Workspace σ) α) (w : Workspace σ) : Prop :=
  ((action w).state.sharedCache = some w.caches.size ∧
      ∃ loader, (Loader.ofValue w.config.address w.surroundings).result = .ok loader ∧
        ((action w).state.caches.row w.caches.size).loader = loader) ∨
    ((action w).state.sharedCache = none ∧ (action w).state.sharedEngine = none ∧
      ∃ fault, (action w).result = .error fault)

/-- How the process-wide cache and the shared engine come about. -/
structure Creates (now : Workspace σ) : Prop where
  /-- Whether the process-wide cache can be made depends on the address of that moment. -/
  address : now.sharedCache = none → (defaultCache now).result =
    (Loader.ofValue now.config.address now.surroundings).result.map fun _ => now.caches.size
  /-- The first who needs it makes it. -/
  needed : now.sharedCache = none → ∀ step : Step σ, step.NeedsShared →
    MakesShared step.run now
  /-- Nobody else does. -/
  unneeded : now.sharedCache = none → ∀ step : Step σ, ¬ step.NeedsShared →
    (step.run now).state.sharedCache = none ∧ (step.run now).state.sharedEngine = none
  /-- The first request without an engine makes the shared one. -/
  engine : now.sharedEngine = none → ∀ doc position,
    (∃ engine, (newEngine none none none now).result = .ok engine ∧
        (completeShared doc position now).state.sharedEngine = some engine) ∨
      ∃ fault, (newEngine none none none now).result = .error fault ∧
        (completeShared doc position now).result = .error fault ∧
        (completeShared doc position now).state.sharedEngine = none

theorem result_defaultCache_of_none {w : Workspace σ} (h : w.sharedCache = none) :
    (defaultCache w).result =
      (Loader.ofValue w.config.address w.surroundings).result.map fun _ => w.caches.size := by
  rcases defaultCache_of_none h with ⟨loader, hloader, hresult, -⟩ | ⟨fault, hloader, hresult, -⟩
  · rw [hloader, hresult]
    rfl
  · rw [hloader, hresult]
    rfl

theorem completeShared_of_none {w : Workspace σ} (h : w.sharedEngine = none) (doc : Document)
    (position : Position) :
    (∃ engine, (newEngine none none none w).result = .ok engine ∧
        (completeShared doc position w).state.sharedEngine = some engine ∧
        ∃ moves, ((newEngine none none none w).state.standing.after (.install engine)).Leads moves
          (completeShared doc position w).state.standing) ∨
      ∃ fault, (newEngine none none none w).result = .error fault ∧
        (completeShared doc position w).result = .error fault ∧
        (completeShared doc position w).state.standing =
          (newEngine none none none w).state.standing := by
  rcases theSharedEngine_of_newEngine h with ⟨engine, hengine, hresult, hstanding⟩ |
    ⟨fault, hfault, hresult, hstanding⟩
  · refine .inl ⟨engine, hengine, sharedEngine_completeShared hresult doc position, ?_⟩
    have hdoes : Does (complete engine doc position) (theSharedEngine w).state _ :=
      does_complete engine doc position
    obtain ⟨moves, hmoves, -⟩ := hdoes
    rw [completeShared_eq, Action.bind_of_ok hresult, ← hstanding]
    exact ⟨moves, hmoves.leads⟩
  · rw [completeShared_eq, Action.bind_of_error hresult]
    exact .inr ⟨fault, hfault, rfl, hstanding⟩

section Needed

variable {w : Workspace σ} {action : Action (Workspace σ) α}

theorem makesShared_of_leads {loader : Loader σ} {moves : List (Move σ)}
    (hloader : (Loader.ofValue w.config.address w.surroundings).result = .ok loader)
    (h : (w.standing.after (.share loader)).Leads moves (action w).state.standing) :
    MakesShared action w := by
  obtain ⟨hcache, hrow⟩ := h.of_share
  exact .inl ⟨hcache, loader, hloader, hrow⟩

theorem makesShared_of_standing {loader : Loader σ}
    (hloader : (Loader.ofValue w.config.address w.surroundings).result = .ok loader)
    (h : (action w).state.standing = w.standing.after (.share loader)) :
    MakesShared action w := by
  have hleads : (w.standing.after (.share loader)).Leads [] (action w).state.standing := by
    rw [h]
    exact .nil _
  exact makesShared_of_leads hloader hleads

theorem makesShared_of_fault {fault : Fault} (hcache : w.sharedCache = none)
    (hengine : w.sharedEngine = none) (hfault : (action w).result = .error fault)
    (h : (action w).state.standing = w.standing) : MakesShared action w :=
  .inr ⟨(congrArg Standing.sharedCache h).trans hcache,
    (congrArg Standing.sharedEngine h).trans hengine, fault, hfault⟩

theorem MakesShared.map (h : MakesShared action w) (make : α → β) :
    MakesShared (make <$> action) w := by
  unfold MakesShared
  rw [Action.map_apply]
  exact h.imp_right fun ⟨hcache, hengine, hfault⟩ =>
    ⟨hcache, hengine, exists_error_map make hfault⟩

theorem makesShared_newEngine (factory? : Option (Host σ (Detector σ)))
    (verbose? : Option Bool) (hcache : w.sharedCache = none) (hengine : w.sharedEngine = none) :
    MakesShared (newEngine factory? none verbose?) w := by
  rcases newEngine_of_none factory? verbose? hcache with
    ⟨loader, engine, hloader, -, hstanding⟩ | ⟨fault, hfault, hstanding⟩
  · exact makesShared_of_standing hloader hstanding
  · exact makesShared_of_fault hcache hengine hfault hstanding

theorem makesShared_defaultCache (hcache : w.sharedCache = none)
    (hengine : w.sharedEngine = none) : MakesShared defaultCache w := by
  rcases defaultCache_of_none hcache with
    ⟨loader, hloader, -, hstanding⟩ | ⟨fault, -, hfault, hstanding⟩
  · exact makesShared_of_standing hloader hstanding
  · exact makesShared_of_fault hcache hengine hfault hstanding

theorem makesShared_completeShared (doc : Document) (position : Position)
    (hcache : w.sharedCache = none) (hengine : w.sharedEngine = none) :
    MakesShared (completeShared doc position) w := by
  rcases newEngine_of_none none none hcache with
    ⟨loader, engine, hloader, hmade, hstanding⟩ | ⟨fault, hfault, hstanding⟩
  · rcases completeShared_of_none hengine doc position with
      ⟨engine', hmade', -, moves, hleads⟩ | ⟨fault, hfault, -⟩
    · -- The engine is installed over the cache that came with it.
      rw [hstanding] at hleads
      have hshared : (w.standing.after (.share loader)).sharedCache = some engine'.cache := by
        rw [← hstanding]
        exact sharedCache_of_newEngine_none hmade'
      have hfits : (Move.install engine').Fits (w.standing.after (.share loader)) :=
        ⟨hengine, hshared⟩
      exact makesShared_of_leads hloader (.cons hfits hleads)
    · rw [hmade] at hfault
      cases hfault
  · rcases completeShared_of_none hengine doc position with
      ⟨engine', hmade', -⟩ | ⟨fault', -, hresult, hstanding'⟩
    · rw [hfault] at hmade'
      cases hmade'
    · exact makesShared_of_fault hcache hengine hresult (hstanding'.trans hstanding)

/-- **Whoever needs the process-wide cache** makes it, if nobody has. -/
theorem makesShared_run (hcache : w.sharedCache = none) (hengine : w.sharedEngine = none)
    {step : Step σ} (h : step.NeedsShared) : MakesShared step.run w := by
  cases step with
  | newEngine factory? cache? verbose? =>
      cases cache? with
      | some cache => exact h.elim
      | none => exact (makesShared_newEngine factory? verbose? hcache hengine).map _
  | defaultCache => exact (makesShared_defaultCache hcache hengine).map _
  | completeShared doc position =>
      exact (makesShared_completeShared doc position hcache hengine).map _
  | _ => exact h.elim

theorem unshared_run (hcache : w.sharedCache = none) (hengine : w.sharedEngine = none)
    {step : Step σ} (h : ¬ step.NeedsShared) :
    (step.run w).state.sharedCache = none ∧ (step.run w).state.sharedEngine = none := by
  obtain ⟨moves, hmoves, hall⟩ := does_run step w
  refine hmoves.leads.invariant
    (P := fun s => s.sharedCache = none ∧ s.sharedEngine = none) ⟨hcache, hengine⟩ ?_
  intro m hm s _ hs
  have hmay := hall m hm
  cases m with
  | share loader => exact absurd hmay h
  | install engine =>
      obtain ⟨doc, position, rfl⟩ := hmay
      exact absurd trivial h
  | _ => exact hs

end Needed

theorem Standing.Sound.creates {now : Workspace σ} (h : now.standing.Sound) : Creates now := by
  have hengine (hcache : now.sharedCache = none) : now.sharedEngine = none := by
    cases hshared : now.sharedEngine with
    | none => rfl
    | some engine =>
        have hsome := h.engine engine hshared
        rw [show now.standing.sharedCache = none from hcache] at hsome
        cases hsome
  constructor
  · exact result_defaultCache_of_none
  · intro hcache step hneeds
    exact makesShared_run hcache (hengine hcache) hneeds
  · intro hcache step hneeds
    exact unshared_run hcache (hengine hcache) hneeds
  · intro hnone doc position
    rcases completeShared_of_none hnone doc position with
      ⟨engine, hmade, hshared, -⟩ | ⟨fault, hfault, hresult, hstanding⟩
    · exact .inl ⟨engine, hmade, hshared⟩
    · refine .inr ⟨fault, hfault, hresult, ?_⟩
      have hkept := sharedEngine_newEngine none none none now
      exact (congrArg Standing.sharedEngine hstanding).trans (hkept.trans hnone)

/-! ## What becomes of the process-wide cache -/

/-- What becomes of the process-wide cache, whatever else is done. -/
structure Stays (id : Nat) (now : Workspace σ) (more : List (Step σ)) : Prop where
  cache : (Step.after now more).sharedCache = some id
  loader : ((Step.after now more).caches.row id).loader = (now.caches.row id).loader
  engine : ∀ engine, now.sharedEngine = some engine →
    (Step.after now more).sharedEngine = some engine
  /-- Until it is cleared, a list that it keeps is the answer. -/
  words : .clear id ∉ more → ∀ code list, WordList.isCode code = true →
    (now.caches.row id).find? code = some list →
      Workspace.words id code (Step.after now more) = ⟨.ok list, Step.after now more, []⟩
  /-- Until then, nobody who asks it has the list loaded again. -/
  loads : .clear id ∉ more → ∀ code list, (now.caches.row id).find? code = some list →
    (Step.after now more).config.resourceTemplate = WordList.stockTemplate →
    ∀ step : Step σ, step.cache? (Step.after now more) = some id →
      .load (.text (WordList.resourceOf code)) ∉
        Event.calls (step.run (Step.after now more)).events

theorem kept_after {now : Workspace σ} {id : Nat} (hsize : id < now.caches.size)
    {more : List (Step σ)} (hclear : .clear id ∉ more) {code : String} {list : List String}
    (hfind : (now.caches.row id).find? code = some list) :
    ((Step.after now more).caches.row id).find? code = some list := by
  obtain ⟨moves, hmoves, hforget⟩ := leads_after now more
  exact hmoves.find?_eq hsize (fun hmem => hclear (hforget id hmem)) hfind

theorem Standing.Sound.stays {now : Workspace σ} (h : now.standing.Sound) {id : Nat}
    (hid : now.sharedCache = some id) (more : List (Step σ)) : Stays id now more := by
  have hsize : id < now.caches.size := h.made id hid
  obtain ⟨moves, hmoves, -⟩ := leads_after now more
  constructor
  · exact hmoves.sharedCache_eq hid
  · exact hmoves.loader_eq hsize
  · intro engine hengine
    exact hmoves.sharedEngine_eq hengine
  · intro hclear code list hcode hfind
    exact words_of_kept hcode (kept_after hsize hclear hfind)
  · intro hclear code list hfind htemplate step hasks hload
    have hkept := kept_after hsize hclear hfind
    obtain ⟨cache, code', resource, hname, hfetches⟩ := exists_of_load hload
    obtain rfl : id = cache := Option.some.inj (hasks.symm.trans hfetches.cache?)
    -- The list that is loaded is that of the code, and it is not kept.
    have hnamed := hfetches.named
    rw [Config.nameOf_stock htemplate] at hnamed
    have hresource : WordList.resourceOf code = WordList.resourceOf code' :=
      (Value.text.inj hname).trans (Except.ok.inj hnamed).symm
    obtain rfl := WordList.resourceOf_injective hresource
    have hmissing := hfetches.missing (Nat.lt_of_lt_of_le hsize hmoves.size_le)
    rw [hkept] at hmissing
    cases hmissing

/-! ## Who is given a cache -/

/-- An engine over a cache goes by that cache and by no other. -/
structure Apart (cache : Nat) (now : Workspace σ) : Prop where
  /-- Making it makes no cache, be the one that it is given empty or not. -/
  newEngine : ∀ factory? verbose?,
    (Workspace.newEngine factory? (some cache) verbose? now).state.standing = now.standing
  shared : ∀ resolver doc position,
    let request := complete ⟨resolver, cache⟩ doc position now
    request.state.sharedCache = now.sharedCache ∧ request.state.sharedEngine = now.sharedEngine
  fills : ∀ resolver doc position other, other ≠ cache →
    (complete ⟨resolver, cache⟩ doc position now).state.caches.row other = now.caches.row other
  /-- Another cache in place of one of the others changes nothing else. -/
  overlooks : ∀ resolver doc position other kept shared?, other ≠ cache →
    let put (w : Workspace σ) : Workspace σ :=
      { w with caches := w.caches.set other kept, sharedCache := shared? }
    (complete ⟨resolver, cache⟩ doc position).Overlooks put now

theorem row_complete_of_ne {engine : Engine} {doc : Document} {position : Position}
    {w : Workspace σ} {other : Nat} (h : other ≠ engine.cache) :
    (complete engine doc position w).state.caches.row other = w.caches.row other := by
  obtain ⟨moves, hmoves, hall⟩ := does_complete (w := w) engine doc position
  refine hmoves.leads.invariant
    (P := fun s => s.caches.row other = w.caches.row other) rfl ?_
  intro m hm s _ hs
  have hreads := hall m hm
  cases m with
  | keep cache code name list =>
      obtain rfl : cache = engine.cache := hreads
      show (s.caches.set _ _).row other = _
      rw [Table.row_set_of_ne _ _ h, hs]
  | miss cache code name => exact hs
  | _ => exact hreads.elim

theorem apart (cache : Nat) (now : Workspace σ) : Apart cache now := by
  constructor
  · intro factory? verbose?
    exact standing_newEngine_some factory? cache verbose? now
  · intro resolver doc position
    exact shared_complete _ doc position now
  · intro resolver doc position other hother
    exact row_complete_of_ne hother
  · intro resolver doc position other kept shared? hother
    let c : Change σ :=
      { caches := fun caches => caches.set other kept, sharedCache := fun _ => shared? }
    have hspares : c.Spares cache := by
      refine ⟨rfl, fun caches => ?_, fun caches list => ?_⟩
      · exact Table.row_set_of_ne _ _ hother.symm
      · exact Table.set_comm _ _ _ hother.symm
    have hoverlooks : (complete ⟨resolver, cache⟩ doc position).Overlooks c.apply now :=
      overlooks_complete rfl (fun _ _ _ => rfl) hspares
    exact hoverlooks

/-! ## The whole run -/

/-- **One cache for those who are given none.** From a workspace without a process-wide
cache and without a shared engine, after any steps: the engines that were given no cache,
the shared engine and those who looked the process-wide cache up have the same one, and
nobody else has it who made a cache or was given another. The first who needs it makes it,
with the address of that moment; a fault leaves it to be made. It is never replaced, and a
list that was loaded for one of its users is not loaded again for another until it is
cleared. An engine that was given a cache goes by that one alone. -/
theorem sharing_of_run (w : Workspace σ) (hcache : w.sharedCache = none)
    (hengine : w.sharedEngine = none) (steps : List (Step σ)) :
    let now := Step.after w steps
    Users now (Step.history w steps) ∧ Creates now ∧
      (∀ (step : Step σ) name, .load name ∈ Event.calls (step.run now).events →
        ∃ cache code resource, name = .text resource ∧ step.Fetches now cache code resource) ∧
      (∀ id, now.sharedCache = some id → ∀ more, Stays id now more) ∧
      ∀ cache, Apart cache now := by
  intro now
  have hsound : now.standing.Sound := sound_after (Standing.sound_of_none hcache hengine) steps
  refine ⟨users_after hcache hengine steps, hsound.creates, fun step name hload => ?_,
    fun id hid more => hsound.stays hid more, fun cache => apart cache now⟩
  exact exists_of_load hload

/-- The first address is none, so that nothing is made; with the second one an engine makes
the process-wide cache. A list that was asked for there stays its answer, and an engine over
another cache does not come near it. -/
theorem sharing_of_run_second_address :
    let store : Store :=
      .ofList [("completionList.en.txt", Text.Utf8.encode "tea\ntree".toList)]
    let w : Workspace Unit := { bundled := "lists", surroundings := { host := () } }
    let steps : List (Step Unit) :=
      [.override fun config => { config with address := .text "nowhere" }, .defaultCache,
        .override fun config => { config with address := .text "memory://" },
        .newEngine none none none,
        .disturb fun s => { s with stores := s.stores.set 0 store }, .get 0 (.text "en")]
    let now := Step.after w steps
    (Step.after w (steps.take 2)).sharedCache = none ∧ now.sharedCache = some 0 ∧
      (∀ more : List (Step Unit), .clear 0 ∉ more →
        words 0 "en" (Step.after now more) = ⟨.ok ["tea", "tree"], Step.after now more, []⟩) ∧
      ∀ resolver doc position,
        (complete ⟨resolver, 1⟩ doc position now).state.caches.row 0 = now.caches.row 0 := by
  intro store w steps now
  obtain ⟨-, -, -, hstays, hapart⟩ := sharing_of_run w rfl rfl steps
  have hshared : now.sharedCache = some 0 := by decide +kernel
  have hkept : (now.caches.row 0).find? "en" = some ["tea", "tree"] := by decide +kernel
  refine ⟨by decide +kernel, hshared, fun more hclear => ?_, fun resolver doc position => ?_⟩
  · exact (hstays 0 hshared more).words hclear "en" _ (by decide) hkept
  · exact (hapart 1).fills resolver doc position 0 (by decide)

end Typeahead.Workspace
