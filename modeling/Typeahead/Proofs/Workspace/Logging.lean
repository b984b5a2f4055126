import Typeahead.Proofs.Workspace.Detectors

/-!
# The root log of a workspace

Who configures the root log in all that is done with a workspace: a host that does so
itself, and an engine that is made to be verbose. Main statements: `rootLog_run` for one
caller, `rootLog_after` for any number of them, and `logging_configured_once`.
-/

namespace Typeahead.Workspace

open Typeahead.Action

variable {σ α : Type}

/-! ## What leaves the root log alone -/

def SameRootLog (w w' : Workspace σ) : Prop :=
  w'.rootLog = w.rootLog

instance : IsPreorder (Workspace σ) SameRootLog where
  refl _ := rfl
  trans _ _ _ h h' := Eq.trans h' h

theorem Spares.sameRootLog {action : Action (Workspace σ) α} (h : Spares action) :
    action.Keeps SameRootLog :=
  h.rootLog

theorem sameRootLog_newResolver (factory? : Option (Host σ (Detector σ))) :
    (newResolver factory? : Action (Workspace σ) Nat).Keeps SameRootLog := by
  refine Action.Keeps.bind (fun _ => rfl) fun resolver => ?_
  refine (spares_read _).sameRootLog.bind fun next => ?_
  exact Action.Keeps.bind (fun _ => rfl) fun _ => (spares_pure next).sameRootLog

theorem sameRootLog_resolve (resolver : Nat) (plainText : Value) (settings : Settings) :
    (resolve resolver plainText settings : Action (Workspace σ) _).Keeps SameRootLog := by
  refine (spares_read _).sameRootLog.bind fun w => ?_
  refine Action.Keeps.bind (fun _ => rfl) fun found => ?_
  exact Action.Keeps.bind (fun _ => rfl) fun _ => (spares_pure found.1).sameRootLog

theorem sameRootLog_complete (engine : Engine) (doc : Document) (position : Position) :
    (complete engine doc position : Action (Workspace σ) _).Keeps SameRootLog :=
  keeps_complete_of Spares.sameRootLog sameRootLog_resolve engine doc position

/-! ## Engines -/

/-- The level for which a new engine configures the root log, if it is verbose. -/
def levelOfEngine (w : Workspace σ) (verbose? : Option Bool) : Option Value :=
  if verbose?.getD w.config.verbose then some (.int RootLog.info) else none

theorem rootLog_newEngine (factory? : Option (Host σ (Detector σ))) (cache? : Option Nat)
    (verbose? : Option Bool) (w : Workspace σ) :
    (newEngine factory? cache? verbose? w).state.rootLog =
      w.rootLog.setups (w.levelOfEngine verbose?).toList := by
  have hrest : ((newResolver factory? >>= fun resolver =>
      (Engine.mk resolver ·) <$> cacheOrDefault cache?) : Action (Workspace σ) Engine).Keeps
        SameRootLog :=
    (sameRootLog_newResolver factory?).bind fun resolver =>
      ((spares_cacheOrDefault cache?).map _).sameRootLog
  rw [newEngine_eq, outfit, bind_assoc, read_id_bind, levelOfEngine]
  split
  · rw [bind_assoc]
    have hlog : (onRootLog (RootLog.setup (.int RootLog.info)) w).result = .ok () :=
      RootLog.result_setup_info w.rootLog
    rw [bind_of_ok hlog]
    exact hrest _
  · exact hrest w

theorem fault_of_ofValue {address : Value} {s : Resource.Surroundings σ} {fault : Fault}
    (h : (Resource.Loader.ofValue address s).result = .error fault) :
    (∃ trouble, fault = .origin trouble) ∨ fault = .notAnAddress := by
  rcases or_exists_of_bind_eq_error h with h | ⟨text, -, h⟩
  · cases address with
    | text text => cases h
    | _ => exact .inr (Except.error.inj h).symm
  · rcases or_exists_of_bind_eq_error h with h | ⟨origin, -, h⟩
    · rw [ofExcept_apply] at h
      cases hparse : Resource.Origin.parse text with
      | error trouble =>
        rw [hparse] at h
        exact .inl ⟨trouble, (Except.error.inj h).symm⟩
      | ok origin =>
        rw [hparse] at h
        cases h
    · cases origin <;> cases h

theorem fault_of_newResolver {factory? : Option (Host σ (Detector σ))} {w : Workspace σ}
    {fault : Fault} (h : (newResolver factory? w).result = .error fault) :
    ∃ trouble, fault = .collaborator trouble := by
  rcases or_exists_of_bind_eq_error h with h | ⟨resolver, -, h⟩
  · cases factory? with
    | none => cases h
    | some factory =>
      rw [result_onHost_make_some] at h
      cases hmade : (factory w.surroundings.host).answer with
      | error trouble =>
        rw [hmade] at h
        exact ⟨trouble, (Except.error.inj h).symm⟩
      | ok detector =>
        rw [hmade] at h
        cases h
  · cases h

/-- Why no engine is made: its detector is not, or there is no process-wide cache. -/
theorem fault_of_newEngine {factory? : Option (Host σ (Detector σ))} {cache? : Option Nat}
    {verbose? : Option Bool} {w : Workspace σ} {fault : Fault}
    (h : (newEngine factory? cache? verbose? w).result = .error fault) :
    (∃ trouble, fault = .collaborator trouble) ∨ (∃ trouble, fault = .origin trouble) ∨
      fault = .notAnAddress := by
  obtain ⟨rootLog, houtfit⟩ := exists_outfit factory? verbose? w
  rw [newEngine_eq] at h
  rcases or_exists_of_bind_eq_error h with h | ⟨resolver, -, h⟩
  · rw [houtfit] at h
    exact .inl (fault_of_newResolver h)
  · rw [map_eq_pure_bind] at h
    rcases or_exists_of_bind_eq_error h with h | ⟨cache, -, h⟩
    · cases cache? with
      | some cache => cases h
      | none =>
        cases hshared : (outfit factory? verbose? w).state.sharedCache with
        | some cache =>
          rw [cacheOrDefault, defaultCache_of_some hshared] at h
          cases h
        | none =>
          rw [cacheOrDefault] at h
          rcases defaultCache_of_none hshared with ⟨loader, -, hcache, -⟩ |
            ⟨other, hloader, hcache, -⟩
          · rw [hcache] at h
            cases h
          · rw [hcache] at h
            obtain rfl := Except.error.inj h
            exact .inr (fault_of_ofValue hloader)
    · cases h

/-! ## Callers -/

/-- Something that may configure the root log: a host does so itself, or takes a turn. -/
inductive Caller (σ : Type) where
  | setup (level : Value)
  | turn (turn : Turn σ)

namespace Caller

def run : Caller σ → Action (Workspace σ) Unit
  | .setup level => onRootLog (RootLog.setup level)
  | .turn next => next.run

def after (w : Workspace σ) (callers : List (Caller σ)) : Workspace σ :=
  callers.foldl (fun w caller => (caller.run w).state) w

/-- The level for which a caller configures the root log, if it does. Besides the host it
is who makes a verbose engine; the shared engine is made for who needs it first. -/
def level? (w : Workspace σ) : Caller σ → Option Value
  | .setup level => some level
  | .turn (.other (.newEngine _ _ verbose?)) => w.levelOfEngine verbose?
  | .turn (.other (.completeShared _ _)) =>
    if w.sharedEngine.isNone then w.levelOfEngine none else none
  | .turn _ => none

def levels (w : Workspace σ) : List (Caller σ) → List Value
  | [] => []
  | caller :: rest => (caller.level? w).toList ++ levels (caller.run w).state rest

end Caller

theorem rootLog_theSharedEngine (w : Workspace σ) :
    (theSharedEngine w).state.rootLog = w.rootLog.setups
      (if w.sharedEngine.isNone then w.levelOfEngine none else none).toList := by
  cases hshared : w.sharedEngine with
  | some engine =>
    rw [theSharedEngine_of_some hshared]
    rfl
  | none =>
    rw [theSharedEngine_of_none hshared]
    show _ = w.rootLog.setups (w.levelOfEngine none).toList
    rw [← rootLog_newEngine none none none w, bind_apply]
    cases (newEngine none none none w).result with
    | error fault => rfl
    | ok engine => exact (spares_install engine).rootLog _

/-- **One caller** configures the root log for its level, if it has one, and leaves it
alone if not. -/
theorem rootLog_run (caller : Caller σ) (w : Workspace σ) :
    (caller.run w).state.rootLog = w.rootLog.setups (caller.level? w).toList := by
  cases caller with
  | setup level => rfl
  | turn turn =>
    cases turn with
    | newResolver factory? => exact ((sameRootLog_newResolver factory?).map _) w
    | resolve resolver plainText settings =>
      exact ((sameRootLog_resolve resolver plainText settings).map _) w
    | other step =>
      rw [Caller.run, Turn.run, map_apply]
      cases step with
      | newEngine factory? cache? verbose? =>
        rw [Step.run, map_apply]
        exact rootLog_newEngine factory? cache? verbose? w
      | complete engine doc position =>
        exact ((sameRootLog_complete engine doc position).map _) w
      | completeShared doc position =>
        rw [Step.run, map_apply, Caller.level?, ← rootLog_theSharedEngine w]
        show ((theSharedEngine >>= fun engine => complete engine doc position) w).state.rootLog = _
        rw [bind_apply]
        cases (theSharedEngine w).result with
        | error fault => rfl
        | ok engine => exact sameRootLog_complete engine doc position _
      | _ =>
        refine (spares_run ?_).rootLog w
        exact trivial

/-- **Any number of callers** configure it for their levels, in their order. -/
theorem rootLog_after (w : Workspace σ) (callers : List (Caller σ)) :
    (Caller.after w callers).rootLog = w.rootLog.setups (Caller.levels w callers) := by
  induction callers generalizing w with
  | nil => rfl
  | cons caller rest ih =>
    show (Caller.after (caller.run w).state rest).rootLog = _
    rw [ih, rootLog_run, Caller.levels, RootLog.setups_append]

/-! ## Who fails -/

/-- A host that configures the root log itself fails if and only if the log has no
handler and the level is invalid. -/
theorem result_setup_run (now : Workspace σ) (level : Value) :
    (now.rootLog.handlers = [] → RootLog.IsInvalid level →
      ∃ fault : Fault, fault.IsOfLevel ∧
        ((Caller.setup level).run now).result = .error fault) ∧
    (now.rootLog.handlers ≠ [] ∨ ¬ RootLog.IsInvalid level →
      ((Caller.setup level).run now).result = .ok ()) := by
  show (_ → _ → ∃ fault : Fault, _ ∧ (RootLog.setup level now.rootLog).result = .error fault) ∧
    (_ → (RootLog.setup level now.rootLog).result = .ok ())
  by_cases hbare : now.rootLog.handlers = []
  · obtain ⟨hfails, hanswers⟩ := RootLog.fails_setup hbare level
    exact ⟨fun _ => hfails, fun h => hanswers (h.resolve_left fun hne => hne hbare)⟩
  · rw [RootLog.setup_of_handlers hbare]
    exact ⟨fun h => (hbare h).elim, fun _ => rfl⟩

theorem not_isOfLevel_of_newEngine {factory? : Option (Host σ (Detector σ))}
    {cache? : Option Nat} {verbose? : Option Bool} {w : Workspace σ} {fault : Fault}
    (h : (newEngine factory? cache? verbose? w).result = .error fault) : ¬ fault.IsOfLevel := by
  rcases fault_of_newEngine h with ⟨trouble, rfl⟩ | ⟨trouble, rfl⟩ | rfl
  · exact id
  · exact id
  · exact id

/-- A verbose engine whose factory fails configures the root log all the same, for
informative records if nobody has configured it yet. -/
theorem newEngine_of_trouble {factory : Host σ (Detector σ)} {trouble : Trouble}
    {verbose? : Option Bool} {w : Workspace σ} (cache? : Option Nat)
    (hlog : w.rootLog.handlers = [] ∨ w.rootLog.handlers = [.error])
    (hverbose : verbose?.getD w.config.verbose = true)
    (htrouble : (factory w.surroundings.host).answer = .error trouble) :
    let made := newEngine (some factory) cache? verbose? w
    made.result = .error (.collaborator trouble) ∧ made.state.rootLog.handlers = [.error] ∧
      (w.rootLog.handlers = [] → made.state.rootLog.level = .int RootLog.info) := by
  intro made
  have hmade : made.state.rootLog = w.rootLog.setups [.int RootLog.info] := by
    rw [rootLog_newEngine, levelOfEngine, if_pos hverbose]
    rfl
  refine ⟨((madeQuietly_newEngine factory cache? verbose? w).failed trouble htrouble).1, ?_⟩
  rcases hlog with hbare | hhandlers
  · have hconfigured := RootLog.configured_setups hbare (.int RootLog.info) []
    rw [hmade]
    exact ⟨hconfigured.handlers, fun _ => hconfigured.level_of_means _ (.int RootLog.info)⟩
  · have hne : w.rootLog.handlers ≠ [] := by
      rw [hhandlers]
      exact List.cons_ne_nil _ _
    rw [hmade, RootLog.setups_of_handlers hne]
    exact ⟨hhandlers, fun hbare => (hne hbare).elim⟩

/-- **The root log is configured by the first caller only.** From a root log without
handlers, whatever is done with the workspace: the log is untouched until a host
configures it or a verbose engine is made. From then on it has one handler, on the
standard error stream, and the level for which it was configured first, or the level that
it had if that value is empty or invalid. The host that is first fails with a fault of
the level if that is invalid. Other hosts do not fail, and making an engine never fails
with such a fault. When the factory of a verbose engine fails, the log is configured all
the same. -/
theorem logging_configured_once (w : Workspace σ) (hbare : w.rootLog.handlers = [])
    (callers : List (Caller σ)) :
    let now := Caller.after w callers
    let levels := Caller.levels w callers
    (levels = [] → now.rootLog = w.rootLog) ∧
    (∀ first rest, levels = first :: rest → w.rootLog.Configured first now.rootLog) ∧
    (∀ level : Value,
      (levels = [] → RootLog.IsInvalid level → ∃ fault : Fault, fault.IsOfLevel ∧
        ((Caller.setup level).run now).result = .error fault) ∧
      (levels ≠ [] ∨ ¬ RootLog.IsInvalid level →
        ((Caller.setup level).run now).result = .ok ())) ∧
    ∀ (factory? : Option (Host σ (Detector σ))) (cache? : Option Nat) (verbose? : Option Bool),
      (∀ fault, (newEngine factory? cache? verbose? now).result = .error fault →
        ¬ fault.IsOfLevel) ∧
      ∀ factory trouble, factory? = some factory → verbose?.getD now.config.verbose = true →
        (factory now.surroundings.host).answer = .error trouble →
        let made := newEngine factory? cache? verbose? now
        made.result = .error (.collaborator trouble) ∧
        made.state.rootLog.handlers = [.error] ∧
        (levels = [] → made.state.rootLog.level = .int RootLog.info) := by
  intro now levels
  have hnow : now.rootLog = w.rootLog.setups levels := rootLog_after w callers
  have huntouched : levels = [] → now.rootLog = w.rootLog := by
    intro hlevels
    rw [hnow, hlevels]
    rfl
  have hconfigured (first : Value) (rest : List Value) (hlevels : levels = first :: rest) :
      w.rootLog.Configured first now.rootLog := by
    rw [hnow, hlevels]
    exact RootLog.configured_setups hbare first rest
  -- So the log has a handler just if someone has configured it.
  have hhandlers : now.rootLog.handlers = [] ↔ levels = [] := by
    constructor
    · intro hnone
      by_contra hne
      obtain ⟨first, rest, hlevels⟩ := List.exists_cons_of_ne_nil hne
      exact (hconfigured first rest hlevels).handlers_ne_nil hnone
    · intro hlevels
      rw [huntouched hlevels, hbare]
  refine ⟨huntouched, hconfigured, ?_, ?_⟩
  · intro level
    simp only [ne_eq, ← hhandlers]
    exact result_setup_run now level
  · intro factory? cache? verbose?
    refine ⟨fun fault => not_isOfLevel_of_newEngine, ?_⟩
    rintro factory trouble rfl hverbose htrouble
    have hlog : now.rootLog.handlers = [] ∨ now.rootLog.handlers = [.error] := by
      cases hlevels : levels with
      | nil => exact .inl (hhandlers.mpr hlevels)
      | cons first rest => exact .inr (hconfigured first rest hlevels).handlers
    obtain ⟨hresult, hmade, hinfo⟩ := newEngine_of_trouble cache? hlog hverbose htrouble
    exact ⟨hresult, hmade, fun hlevels => hinfo (hhandlers.mpr hlevels)⟩

/-- A host is first with a level that does not exist: it fails, the level stays what it
was, and who comes later changes nothing. Where a verbose engine is first and its factory
fails, the level is that of informative records. -/
theorem logging_configured_once_loud :
    let w : Workspace Unit := { bundled := "lists", surroundings := { host := () } }
    let broken : Host Unit (Detector Unit) :=
      fun s => ⟨.error ⟨.other "no profiles", "no profiles"⟩, s, ""⟩
    let loud : List (Caller Unit) := [.setup (.text "LOUD")]
    let later : List (Caller Unit) := [.setup (.text "LOUD"), .setup (.int 10),
      .turn (.other (.newEngine none none (some true)))]
    w.rootLog.handlers = [] ∧
    (∃ fault : Fault, fault.IsOfLevel ∧
      ((Caller.setup (.text "LOUD")).run w).result = .error fault) ∧
    ((Caller.setup (.int 10)).run (Caller.after w loud)).result = .ok () ∧
    (Caller.after w later).rootLog.handlers = [.error] ∧
    (Caller.after w later).rootLog.level = .int 30 ∧
    (newEngine (some broken) none (some true) w).result =
      .error (.collaborator ⟨.other "no profiles", "no profiles"⟩) ∧
    (newEngine (some broken) none (some true) w).state.rootLog.handlers = [.error] ∧
    (newEngine (some broken) none (some true) w).state.rootLog.level = .int 20 := by
  intro w broken loud later
  have hinvalid : RootLog.IsInvalid (.text "LOUD") := by
    have hlevel : RootLog.levelOf? (.text "LOUD") = .error (.unknownLevel "LOUD") := rfl
    refine ⟨Value.noConfusion, fun value hmeans => ?_⟩
    rw [RootLog.levelOf?_of_means hmeans] at hlevel
    cases hlevel
  obtain ⟨-, -, hlevel, hengine⟩ := logging_configured_once w rfl []
  obtain ⟨-, -, hloud, -⟩ := logging_configured_once w rfl loud
  obtain ⟨-, hconfigured, -, -⟩ := logging_configured_once w rfl later
  have hlater := hconfigured (.text "LOUD") [.int 10, .int 20] rfl
  obtain ⟨hresult, hhandlers, hinfo⟩ := (hengine (some broken) none (some true)).2 broken
    ⟨.other "no profiles", "no profiles"⟩ rfl rfl rfl
  exact ⟨rfl, (hlevel _).1 rfl hinvalid, (hloud _).2 (.inl (List.cons_ne_nil _ _)),
    hlater.handlers, hlater.level_of_not_means hinvalid.2, hresult, hhandlers, hinfo rfl⟩

end Typeahead.Workspace
