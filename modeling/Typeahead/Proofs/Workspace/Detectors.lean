import Typeahead.Proofs.Workspace.Sparing

/-!
# Detectors of a workspace

A detector is made when its resolver or its engine is, and at no other time. What it
prints then is kept back, and what it prints later is printed. Main statements:
`madeQuietly_newEngine` for one construction, `makings_events` and `retains_after` for
all that is done with a workspace, and `detector_made_once`.
-/

namespace Typeahead

/-! ## Making calls -/

def Call.isMaking : Call → Bool
  | .makeDetector => true
  | _ => false

/-- How many detectors are made among some events, or are tried to be made. -/
def Event.makings (events : List Event) : Nat :=
  (calls events).countP Call.isMaking

theorem Event.makings_append (events more : List Event) :
    makings (events ++ more) = makings events + makings more := by
  rw [makings, calls, List.filterMap_append, List.countP_append]
  rfl

theorem Event.makings_startupEvents (printed : String) :
    makings (Resolver.startupEvents printed) = 1 := by
  rw [makings, Resolver.calls_startupEvents]
  rfl

theorem Outcome.Tells.makings_eq_zero {σ α : Type} {o : Outcome σ α} {ranks : List Nat}
    {asked : List Asked} (h : o.Tells ranks asked) (hrank : 6 ∉ ranks) :
    Event.makings o.events = 0 := by
  rw [Event.makings, List.countP_eq_zero]
  intro c hc hmaking
  rw [h.calls] at hc
  have hmem := h.rank_mem hc
  cases c with
  | makeDetector => exact hrank hmem
  | _ => cases hmaking

namespace Workspace

variable {σ α β : Type}

/-! ## One construction -/

/-- What is left behind where something is made with a detector from a factory: nothing
is printed, the factory is called once, and what it printed is recorded. If it fails,
its trouble is passed on, and neither a resolver nor a cache is made. If not, there is
one more resolver, which has the detector. -/
structure MadeQuietly (factory : Host σ (Detector σ)) (w : Workspace σ)
    (o : Outcome (Workspace σ) α) : Prop where
  printed : Event.printedText o.events = ""
  calls : Event.calls o.events = [.makeDetector]
  records : Event.records o.events = Resolver.startupRecords (factory w.surroundings.host).printed
  failed : ∀ trouble, (factory w.surroundings.host).answer = .error trouble →
    o.result = .error (.collaborator trouble) ∧ o.state.resolvers = w.resolvers ∧
      o.state.standing = w.standing
  made : ∀ detector, (factory w.surroundings.host).answer = .ok detector →
    o.state.resolvers = w.resolvers.push { detector := some detector }

theorem MadeQuietly.of_events {factory : Host σ (Detector σ)} {w : Workspace σ}
    {o : Outcome (Workspace σ) α}
    (hevents : o.events = Resolver.startupEvents (factory w.surroundings.host).printed)
    (hfailed : ∀ trouble, (factory w.surroundings.host).answer = .error trouble →
      o.result = .error (.collaborator trouble) ∧ o.state.resolvers = w.resolvers ∧
        o.state.standing = w.standing)
    (hmade : ∀ detector, (factory w.surroundings.host).answer = .ok detector →
      o.state.resolvers = w.resolvers.push { detector := some detector }) :
    MadeQuietly factory w o := by
  refine ⟨?_, ?_, ?_, hfailed, hmade⟩
  · rw [hevents, Resolver.printedText_startupEvents]
  · rw [hevents, Resolver.calls_startupEvents]
  · rw [hevents, Resolver.records_startupEvents]

theorem result_onHost_make_some (factory : Host σ (Detector σ)) (w : Workspace σ) :
    (onHost (Resolver.make (some factory)) w).result =
      ((factory w.surroundings.host).answer.mapError .collaborator).map fun detector =>
        { detector := some detector } := by
  show (Resolver.make (some factory) w.surroundings.host).result = _
  rw [Resolver.make_some]

/-- **A new resolver** is made quietly. -/
theorem madeQuietly_newResolver (factory : Host σ (Detector σ)) (w : Workspace σ) :
    MadeQuietly factory w (newResolver (some factory) w) := by
  have hmake := result_onHost_make_some factory w
  refine .of_events ?_ ?_ ?_
  · rw [events_newResolver, Resolver.make_some]
  · intro trouble htrouble
    rw [htrouble] at hmake
    rw [newResolver, Action.bind_of_error hmake]
    exact ⟨rfl, rfl, rfl⟩
  · intro detector hdetector
    rw [hdetector] at hmake
    rw [newResolver, Action.bind_of_ok hmake]
    rfl

theorem result_newResolver_of_ok {factory : Host σ (Detector σ)} {w : Workspace σ}
    {detector : Detector σ} (h : (factory w.surroundings.host).answer = .ok detector) :
    (newResolver (some factory) w).result = .ok w.resolvers.size := by
  have hmake := result_onHost_make_some factory w
  rw [h] at hmake
  rw [newResolver, Action.bind_of_ok hmake]
  rfl

/-- **A new engine** is made quietly, with whatever cache. -/
theorem madeQuietly_newEngine (factory : Host σ (Detector σ)) (cache? : Option Nat)
    (verbose? : Option Bool) (w : Workspace σ) :
    MadeQuietly factory w (newEngine (some factory) cache? verbose? w) := by
  obtain ⟨rootLog, houtfit⟩ := exists_outfit (some factory) verbose? w
  have hquiet := madeQuietly_newResolver factory { w with rootLog }
  refine .of_events ?_ ?_ ?_
  · rw [events_newEngine, Resolver.make_some]
  · intro trouble htrouble
    obtain ⟨hresult, hresolvers, hstanding⟩ := hquiet.failed trouble htrouble
    rw [newEngine_eq, Action.bind_of_error (by rw [houtfit, hresult]), houtfit]
    exact ⟨rfl, hresolvers, hstanding⟩
  · intro detector hdetector
    have hresult : (outfit (some factory) verbose? w).result = .ok w.resolvers.size := by
      rw [houtfit]
      exact result_newResolver_of_ok hdetector
    rw [newEngine_eq, Action.bind_of_ok hresult, Action.map_apply, houtfit]
    exact ((spares_cacheOrDefault cache?).resolvers _).trans (hquiet.made detector hdetector)

theorem resolver_of_newEngine {factory : Host σ (Detector σ)} {cache? : Option Nat}
    {verbose? : Option Bool} {w : Workspace σ} {engine : Engine}
    (h : (newEngine (some factory) cache? verbose? w).result = .ok engine) :
    engine.resolver = w.resolvers.size := by
  obtain ⟨rootLog, houtfit⟩ := exists_outfit (some factory) verbose? w
  rw [newEngine_eq] at h
  obtain ⟨resolver, hresolver, hengine⟩ := Action.exists_of_bind_eq_ok h
  obtain ⟨cache, -, rfl⟩ := Action.exists_of_map_eq_ok hengine
  rw [houtfit] at hresolver
  obtain ⟨made, -, hmade⟩ := Action.exists_of_bind_eq_ok hresolver
  exact (Except.ok.inj hmade).symm

/-! ## Resolvers that stay -/

/-- Resolvers are added at most, and those that were there have the detectors they had. -/
structure Retains (w w' : Workspace σ) : Prop where
  size : w.resolvers.size ≤ w'.resolvers.size
  detector : ∀ id, id < w.resolvers.size →
    (w'.resolvers.row id).detector = (w.resolvers.row id).detector

instance : IsPreorder (Workspace σ) Retains where
  refl _ := ⟨Nat.le_refl _, fun _ _ => rfl⟩
  trans _ _ _ h h' := ⟨Nat.le_trans h.size h'.size, fun id hid =>
    (h'.detector id (Nat.lt_of_lt_of_le hid h.size)).trans (h.detector id hid)⟩

/-- An action that leaves the resolvers as they were. -/
theorem Spares.retains {action : Action (Workspace σ) α} (h : Spares action) :
    action.Keeps Retains := by
  intro w
  refine ⟨?_, fun id _ => ?_⟩
  · rw [h.resolvers]
  · rw [h.resolvers]

/-- A resolver that is asked for a language is put back with its detector. -/
theorem retains_resolve (resolver : Nat) (plainText : Value) (settings : Settings) :
    (resolve resolver plainText settings : Action (Workspace σ) _).Keeps Retains := by
  intro w
  refine ⟨?_, fun id _ => (keeps_resolve resolver plainText settings w).detector id⟩
  rw [resolve, Action.read_id_bind, Action.bind_apply]
  split
  · exact Nat.le_refl _
  · exact Nat.le_refl _

theorem retains_complete (engine : Engine) (doc : Document) (position : Position) :
    (complete engine doc position : Action (Workspace σ) _).Keeps Retains :=
  keeps_complete_of Spares.retains retains_resolve engine doc position

theorem retains_newResolver (factory? : Option (Host σ (Detector σ))) :
    (newResolver factory?).Keeps (Retains (σ := σ)) := by
  refine (spares_onHost (Resolver.unwarned_make factory?)).retains.bind fun resolver w => ?_
  refine ⟨Nat.le_succ _, fun id hid => ?_⟩
  show ((w.resolvers.push resolver).row id).detector = _
  rw [Table.row_push_of_ne _ _ (Nat.ne_of_lt hid)]

theorem retains_newEngine (factory? : Option (Host σ (Detector σ))) (cache? : Option Nat)
    (verbose? : Option Bool) : (newEngine factory? cache? verbose?).Keeps (Retains (σ := σ)) := by
  rw [newEngine_eq]
  refine Action.Keeps.bind (fun w => ?_) fun resolver =>
    ((spares_cacheOrDefault cache?).map _).retains
  obtain ⟨rootLog, houtfit⟩ := exists_outfit factory? verbose? w
  have hretains := retains_newResolver factory? { w with rootLog }
  rw [houtfit]
  exact ⟨hretains.size, hretains.detector⟩

theorem retains_theSharedEngine : (theSharedEngine : Action (Workspace σ) _).Keeps Retains := by
  intro w
  cases hshared : w.sharedEngine with
  | some engine =>
    rw [theSharedEngine_of_some hshared]
    exact refl_of Retains w
  | none =>
    rw [theSharedEngine_of_none hshared]
    exact (retains_newEngine none none none).bind (fun engine => (spares_install engine).retains) w

/-- **One step** retains the resolvers. -/
theorem retains_run (step : Step σ) : step.run.Keeps Retains := by
  cases step with
  | newEngine factory? cache? verbose? => exact (retains_newEngine factory? cache? verbose?).map _
  | complete engine doc position => exact (retains_complete engine doc position).map _
  | completeShared doc position =>
    exact (retains_theSharedEngine.bind fun engine => retains_complete engine doc position).map _
  | _ =>
    refine (spares_run ?_).retains
    exact trivial

/-! ## Turns -/

/-- Something that is done with a workspace: a resolver is made, it is asked for a
language, or any other step is taken. -/
inductive Turn (σ : Type) where
  | newResolver (factory? : Option (Host σ (Detector σ)))
  | resolve (resolver : Nat) (plainText : Value) (settings : Settings)
  | other (step : Step σ)

namespace Turn

def run : Turn σ → Action (Workspace σ) Unit
  | .newResolver factory? => (fun _ => ()) <$> Workspace.newResolver factory?
  | .resolve resolver plainText settings =>
    (fun _ => ()) <$> Workspace.resolve resolver plainText settings
  | .other step => (fun _ => ()) <$> step.run

def factory? : Turn σ → Option (Host σ (Detector σ))
  | .newResolver factory? => factory?
  | .other (.newEngine factory? _ _) => factory?
  | _ => none

def after (w : Workspace σ) (turns : List (Turn σ)) : Workspace σ :=
  turns.foldl (fun w turn => (turn.run w).state) w

def events (w : Workspace σ) : List (Turn σ) → List Event
  | [] => []
  | turn :: rest => (turn.run w).events ++ events (turn.run w).state rest

end Turn

theorem makings_map (make : α → β) (action : Action (Workspace σ) α) (w : Workspace σ) :
    Event.makings ((make <$> action) w).events = Event.makings (action w).events := by
  rw [Action.map_apply]

theorem makings_make (factory? : Option (Host σ (Detector σ))) (s : σ) :
    Event.makings (Resolver.make factory? s).events = if factory?.isSome then 1 else 0 := by
  cases factory? with
  | none => rfl
  | some factory =>
    rw [Resolver.make_some, Event.makings_startupEvents]
    rfl

theorem makings_newEngine (factory? : Option (Host σ (Detector σ))) (cache? : Option Nat)
    (verbose? : Option Bool) (w : Workspace σ) :
    Event.makings (newEngine factory? cache? verbose? w).events =
      if factory?.isSome then 1 else 0 := by
  rw [events_newEngine, makings_make]

theorem makings_complete (engine : Engine) (doc : Document) (position : Position)
    (w : Workspace σ) : Event.makings (complete engine doc position w).events = 0 := by
  cases hoffset : doc.offsetAt position with
  | error trouble =>
    rw [complete, hoffset]
    rfl
  | ok o => exact (tells_complete engine hoffset w).makings_eq_zero (by decide)

theorem makings_completeShared (doc : Document) (position : Position) (w : Workspace σ) :
    Event.makings (completeShared doc position w).events = 0 := by
  rw [completeShared_eq]
  cases hengine : (theSharedEngine w).result with
  | error fault =>
    rw [Action.bind_of_error hengine, silent_theSharedEngine w]
    rfl
  | ok engine =>
    rw [silent_theSharedEngine.events_bind hengine]
    exact makings_complete engine doc position _

theorem silent_setVariable (name : Variable) (value : Value) :
    (setVariable name value : Action (Workspace σ) Unit).Silent := by
  unfold setVariable
  split
  · exact Action.silent_modify _
  · split
    · exact fun _ => rfl
    · exact Action.silent_modify _
  · exact fun _ => rfl

/-- **One turn** makes a detector if it has a factory, and else none. -/
theorem makings_run (turn : Turn σ) (w : Workspace σ) :
    Event.makings (turn.run w).events = if turn.factory?.isSome then 1 else 0 := by
  cases turn with
  | newResolver factory? =>
    rw [Turn.run, makings_map, events_newResolver, makings_make]
    rfl
  | resolve resolver plainText settings =>
    rw [Turn.run, makings_map]
    exact (tells_resolve resolver plainText settings w).makings_eq_zero (by decide)
  | other step =>
    rw [Turn.run, makings_map]
    cases step with
    | newEngine factory? cache? verbose? =>
      rw [Step.run, makings_map, makings_newEngine]
      rfl
    | defaultCache =>
      rw [Step.run, makings_map, silent_defaultCache w]
      rfl
    | complete engine doc position =>
      rw [Step.run, makings_map]
      exact makings_complete engine doc position w
    | completeShared doc position =>
      rw [Step.run, makings_map]
      exact makings_completeShared doc position w
    | get cache code =>
      rw [Step.run, makings_map]
      exact (tells_wordsOf cache code w).makings_eq_zero (by decide)
    | registerFragmentizer languageId factory =>
      rw [Step.run, makings_map]
      exact congrArg Event.makings <| (Action.silent_ofExcept _).bind
        (fun _ => Action.silent_modify _) w
    | registerBuilder languageId factory =>
      rw [Step.run, makings_map]
      exact congrArg Event.makings <| (Action.silent_ofExcept _).bind
        (fun _ => Action.silent_modify _) w
    | setVariable name value =>
      rw [Step.run, makings_map]
      exact congrArg Event.makings (silent_setVariable name value w)
    | _ => rfl

/-- **Any number of turns** make as many detectors as they have factories. -/
theorem makings_events (w : Workspace σ) (turns : List (Turn σ)) :
    Event.makings (Turn.events w turns) = turns.countP fun turn => turn.factory?.isSome := by
  induction turns generalizing w with
  | nil => rfl
  | cons turn rest ih =>
    rw [Turn.events, Event.makings_append, makings_run, ih, List.countP_cons, Nat.add_comm]

theorem retains_turn (turn : Turn σ) : turn.run.Keeps Retains := by
  cases turn with
  | newResolver factory? => exact (retains_newResolver factory?).map _
  | resolve resolver plainText settings => exact (retains_resolve resolver plainText settings).map _
  | other step => exact (retains_run step).map _

/-- **Any number of turns** retain the resolvers. -/
theorem retains_after (w : Workspace σ) (turns : List (Turn σ)) :
    w.Retains (Turn.after w turns) := by
  induction turns generalizing w with
  | nil => exact refl_of Retains w
  | cons turn rest ih => exact trans_of Retains (retains_turn turn w) (ih (turn.run w).state)

/-! ## What is heard -/

theorem printedText_resolve {w : Workspace σ} {id : Nat} {detector : Detector σ}
    (hdetector : (w.resolvers.row id).detector = some detector) {settings : Settings}
    (hasks : w.config.asksForDetection settings.language = true) (plainText : Value) :
    Event.printedText (resolve id plainText settings w).events =
      detector.heard plainText w.surroundings.host := by
  rw [resolve, Action.read_id_bind, Action.events_bind_of_silent fun _ => ?_]
  · exact Resolver.printedText_resolve hasks hdetector plainText w.surroundings.host
  · exact (Action.silent_modify _).bind fun _ => Action.silent_pure _

/-- A request comes to ask a detector about a plain text, when the host has some state. -/
structure AsksDetector (w : Workspace σ) (engine : Engine) (doc : Document) (position : Position)
    (plainText : Value) (host : σ) : Prop where
  reached : ∃ o draft cursor annotated, doc.offsetAt position = .ok o ∧
    w.found? doc o = some (draft, cursor) ∧
    (annotate doc draft (fragmentize doc w).state).result = .ok annotated ∧
    w.config.asksForDetection draft.settings.language = true ∧
    plainText = annotated.plainText ∧
    host = (annotate doc draft (fragmentize doc w).state).state.surroundings.host

/-- A sequence prints at least what its first action prints. -/
theorem exists_printedText_bind (first : Action (Workspace σ) α)
    (next : α → Action (Workspace σ) β) (w : Workspace σ) :
    ∃ behind, Event.printedText ((first >>= next) w).events =
      Event.printedText (first w).events ++ behind := by
  cases hfirst : (first w).result with
  | error fault =>
    rw [Action.bind_of_error hfirst]
    exact ⟨"", String.append_empty.symm⟩
  | ok a => exact ⟨_, Action.printedText_bind_of_ok hfirst⟩

theorem exists_printedText_complete {w : Workspace σ} {engine : Engine} {doc : Document}
    {position : Position} {plainText : Value} {host : σ} {detector : Detector σ}
    (hreaches : w.AsksDetector engine doc position plainText host)
    (hdetector : (w.resolvers.row engine.resolver).detector = some detector) :
    ∃ before behind, Event.printedText (complete engine doc position w).events =
      before ++ detector.heard plainText host ++ behind := by
  obtain ⟨o, draft, cursor, annotated, hoffset, hfound, hannotated, hasks, rfl, rfl⟩ :=
    hreaches.reached
  -- The stages before leave the configuration and the detectors as they are.
  have hkept := (keeps_fragmentize doc w).trans (keeps_annotate doc draft _)
  rw [← hkept.config] at hasks
  rw [← hkept.detector] at hdetector
  have hrecognize : Event.printedText
      (recognize engine doc draft (fragmentize doc w).state).events =
        Event.printedText (annotate doc draft (fragmentize doc w).state).events ++
          detector.heard annotated.plainText
            (annotate doc draft (fragmentize doc w).state).state.surroundings.host := by
    rw [recognize, Action.printedText_bind_of_ok hannotated,
      printedText_resolve hdetector hasks]
  obtain ⟨behind, hbehind⟩ := exists_printedText_bind (recognize engine doc draft) _ _
  rw [complete_of_found hoffset hfound, Event.printedText_append, completeIn_eq, hbehind,
    hrecognize]
  refine ⟨Event.printedText (fragmentize doc w).events ++
    Event.printedText (annotate doc draft (fragmentize doc w).state).events, behind, ?_⟩
  simp only [String.append_assoc]

/-- **A detector is made once, and quietly.** Whatever a factory prints and whether or not
it fails, making a resolver or an engine prints nothing, calls the factory once, and has
one record of what it printed, if it printed anything. Its trouble is passed on as it is,
and then no resolver, no engine and no process-wide cache is made. In all that is done
with a workspace, detectors are made in no other turns. A resolver keeps its detector, and
what this prints later, for whoever asks for a language, is printed. -/
theorem detector_made_once (σ : Type) :
    (∀ (factory : Host σ (Detector σ)) (w : Workspace σ),
      MadeQuietly factory w (newResolver (some factory) w) ∧
      (∀ detector, (factory w.surroundings.host).answer = .ok detector →
        (newResolver (some factory) w).result = .ok w.resolvers.size) ∧
      ∀ (cache? : Option Nat) (verbose? : Option Bool),
        MadeQuietly factory w (newEngine (some factory) cache? verbose? w) ∧
        ∀ engine, (newEngine (some factory) cache? verbose? w).result = .ok engine →
          engine.resolver = w.resolvers.size) ∧
    (∀ (w : Workspace σ) (turns : List (Turn σ)),
      Event.makings (Turn.events w turns) = turns.countP fun turn => turn.factory?.isSome) ∧
    ∀ (w : Workspace σ) (id : Nat) (detector : Detector σ), id < w.resolvers.size →
      (w.resolvers.row id).detector = some detector → ∀ turns : List (Turn σ),
        ((Turn.after w turns).resolvers.row id).detector = some detector ∧
        (∀ plainText settings,
          (Turn.after w turns).config.asksForDetection settings.language = true →
          Event.printedText (resolve id plainText settings (Turn.after w turns)).events =
            detector.heard plainText (Turn.after w turns).surroundings.host) ∧
        ∀ cache doc position plainText host,
          (Turn.after w turns).AsksDetector ⟨id, cache⟩ doc position plainText host →
          ∃ before behind,
            Event.printedText (complete ⟨id, cache⟩ doc position (Turn.after w turns)).events =
              before ++ detector.heard plainText host ++ behind := by
  refine ⟨?_, makings_events, ?_⟩
  · intro factory w
    refine ⟨madeQuietly_newResolver factory w, fun _ => result_newResolver_of_ok, ?_⟩
    intro cache? verbose?
    exact ⟨madeQuietly_newEngine factory cache? verbose? w, fun _ => resolver_of_newEngine⟩
  · intro w id detector hid hdetector turns
    have hkept : ((Turn.after w turns).resolvers.row id).detector = some detector := by
      rw [(retains_after w turns).detector id hid, hdetector]
    refine ⟨hkept, fun plainText settings hasks => printedText_resolve hkept hasks plainText, ?_⟩
    intro cache doc position plainText host hreaches
    exact exists_printedText_complete hreaches hkept

/-- One factory fails after it has printed, and the other makes a detector that prints,
too; its resolver has the first number, and is asked twice. -/
theorem detector_made_once_noisy :
    let detector : Detector Nat := {
      clean := fun text => Host.pure text
      detect := fun _ _ _ calls => ⟨.ok none, calls + 1, "unsure\n"⟩ }
    let noisy : Host Nat (Detector Nat) := fun calls => ⟨.ok detector, calls + 1, "loading\n"⟩
    let broken : Host Nat (Detector Nat) := fun calls =>
      ⟨.error ⟨.other "no profiles", "no profiles"⟩, calls + 1, "half started\n"⟩
    let w : Workspace Nat := { bundled := "lists", surroundings := { host := 0 } }
    let asked : Settings := Settings.of "auto" []
    let made := (newResolver (some noisy) w).state
    let once := Turn.after made [.resolve 0 (.text "hi") asked]
    (newEngine (some broken) none none w).result =
      .error (.collaborator ⟨.other "no profiles", "no profiles"⟩) ∧
    Event.printedText (newEngine (some broken) none none w).events = "" ∧
    (newEngine (some broken) none none w).state.sharedCache = none ∧
    Event.records (newEngine (some broken) none none w).events =
      [⟨.debug, .language,
        "Language detector wrote to stdout during startup: 'half started\\n'"⟩] ∧
    (newResolver (some noisy) w).result = .ok 0 ∧
    Event.printedText (newResolver (some noisy) w).events = "" ∧
    Event.printedText (resolve 0 (.text "hi") asked once).events = "unsure\n" ∧
    Event.makings (Turn.events w
      [.newResolver (some noisy), .resolve 0 (.text "hi") asked,
        .resolve 0 (.text "hi") asked]) = 1 := by
  intro detector noisy broken w asked made once
  obtain ⟨hmaking, hcount, hlater⟩ := detector_made_once Nat
  have hbroken := ((hmaking broken w).2.2 none none).1
  obtain ⟨hresult, -, hstanding⟩ := hbroken.failed ⟨.other "no profiles", "no profiles"⟩ rfl
  obtain ⟨hnoisy, hnumber, -⟩ := hmaking noisy w
  have hmade := hnoisy.made detector rfl
  have hrow : (made.resolvers.row 0).detector = some detector := by
    rw [show made.resolvers = _ from hmade]
    rfl
  have hsize : 0 < made.resolvers.size := by
    rw [show made.resolvers = _ from hmade]
    decide
  have hheard := (hlater made 0 detector hsize hrow [.resolve 0 (.text "hi") asked]).2.1
    (.text "hi") asked rfl
  refine ⟨hresult, hbroken.printed, congrArg Standing.sharedCache hstanding, ?_,
    hnumber detector rfl, hnoisy.printed, hheard, hcount w _⟩
  rw [hbroken.records]
  decide +kernel

end Workspace

end Typeahead
