import Typeahead.Proofs.Language.Missing
import Typeahead.Proofs.Workspace.Detectors

/-!
# Inquiries

An inquiry is one call of a resolver, in a workspace as it is just then: a host asks for
a language itself, or a request does so on its way. Nothing else touches the mark of a
resolver that it has warned, or warns about a language. Main statements: `inquires_run`
for one turn, `inquires_runs` for any number of them, and `missing_detector_warned_once`.
-/

namespace Typeahead.Workspace

open Typeahead.Action

variable {σ α β : Type}

/-! ## One inquiry -/

/-- A resolver is asked for the language of a text, in a workspace as it is just then. -/
structure Inquiry (σ : Type) where
  now : Workspace σ
  resolver : Nat
  plainText : Value
  settings : Settings

namespace Inquiry

def outcome (q : Inquiry σ) : Outcome (Workspace σ) (Option Value) :=
  resolve q.resolver q.plainText q.settings q.now

/-- The language is the one that asks for detection, as the constants are just then. -/
def asks (q : Inquiry σ) : Bool :=
  q.now.config.asksForDetection q.settings.language

def warnings (q : Inquiry σ) : List Record :=
  Event.languageWarnings q.outcome.events

/-- The inquiries of a request: one if a fragment is found and its plain text is built,
and else none. -/
def ofRequest (engine : Engine) (doc : Document) (position : Position) (w : Workspace σ) :
    List (Inquiry σ) :=
  match doc.offsetAt position with
  | .error _ => []
  | .ok o =>
    match w.found? doc o with
    | none => []
    | some (draft, _) =>
      let annotating := annotate doc draft (fragmentize doc w).state
      match annotating.result with
      | .error _ => []
      | .ok annotated =>
        [⟨annotating.state, engine.resolver, annotated.plainText, draft.settings⟩]

/-- What an inquiry warns of, by the resolver that it asks. -/
theorem warnings_eq (q : Inquiry σ) :
    q.warnings = (q.now.resolvers.row q.resolver).warningsOf q.asks q.settings.language :=
  languageWarnings_resolve q.resolver q.plainText q.settings q.now

theorem row_outcome (q : Inquiry σ) :
    q.outcome.state.resolvers.row q.resolver =
      (q.now.resolvers.row q.resolver).afterAsked q.asks := by
  rw [outcome, resolvers_resolve, Table.row_set_self]
  rfl

theorem row_outcome_of_ne (q : Inquiry σ) {id : Nat} (h : id ≠ q.resolver) :
    q.outcome.state.resolvers.row id = q.now.resolvers.row id := by
  rw [outcome, resolvers_resolve, Table.row_set_of_ne _ _ h]

end Inquiry

namespace Turn

def inquiries (w : Workspace σ) : Turn σ → List (Inquiry σ)
  | .resolve resolver plainText settings => [⟨w, resolver, plainText, settings⟩]
  | .other (.complete engine doc position) => Inquiry.ofRequest engine doc position w
  | .other (.completeShared doc position) =>
    match (theSharedEngine w).result with
    | .error _ => []
    | .ok engine => Inquiry.ofRequest engine doc position (theSharedEngine w).state
  | _ => []

def allInquiries (w : Workspace σ) : List (Turn σ) → List (Inquiry σ)
  | [] => []
  | turn :: rest => turn.inquiries w ++ allInquiries (turn.run w).state rest

end Turn

/-! ## What happens between inquiries -/

/-- Some inquiries lead from some resolvers to others: before, between and behind them
none of the first `n` is touched. -/
def Passes (n : Nat) (resolvers : Table (Resolver σ)) :
    List (Inquiry σ) → Table (Resolver σ) → Prop
  | [], last => ∀ id < n, last.row id = resolvers.row id
  | q :: rest, last =>
    (∀ id < n, q.now.resolvers.row id = resolvers.row id) ∧
      Passes n q.outcome.state.resolvers rest last

theorem Passes.of_rows {n : Nat} {resolvers resolvers' last : Table (Resolver σ)}
    {qs : List (Inquiry σ)} (hrows : ∀ id < n, resolvers'.row id = resolvers.row id)
    (h : Passes n resolvers' qs last) : Passes n resolvers qs last := by
  cases qs with
  | nil => exact fun id hid => (h id hid).trans (hrows id hid)
  | cons q rest => exact ⟨fun id hid => (h.1 id hid).trans (hrows id hid), h.2⟩

theorem Passes.append {n : Nat} {resolvers middle last : Table (Resolver σ)}
    {qs more : List (Inquiry σ)} (h : Passes n resolvers qs middle)
    (hmore : Passes n middle more last) : Passes n resolvers (qs ++ more) last := by
  induction qs generalizing resolvers with
  | nil => exact hmore.of_rows h
  | cons q rest ih => exact ⟨h.1, ih h.2⟩

theorem Passes.mono {n m : Nat} (hle : m ≤ n) {resolvers last : Table (Resolver σ)}
    {qs : List (Inquiry σ)} (h : Passes n resolvers qs last) : Passes m resolvers qs last := by
  induction qs generalizing resolvers with
  | nil => exact fun id hid => h id (Nat.lt_of_lt_of_le hid hle)
  | cons q rest ih => exact ⟨fun id hid => h.1 id (Nat.lt_of_lt_of_le hid hle), ih h.2⟩

/-- What was done up to an outcome came to some inquiries, as far as resolvers and
warnings about languages go. -/
structure Inquires (w : Workspace σ) (qs : List (Inquiry σ)) (o : Outcome (Workspace σ) α) :
    Prop where
  size : w.resolvers.size ≤ o.state.resolvers.size
  passes : Passes w.resolvers.size w.resolvers qs o.state.resolvers
  warnings : Event.languageWarnings o.events = qs.flatMap Inquiry.warnings

theorem Inquires.append {w : Workspace σ} {qs more : List (Inquiry σ)}
    {first : Outcome (Workspace σ) α} {second : Outcome (Workspace σ) β}
    (h : Inquires w qs first) (hmore : Inquires first.state more second) :
    Inquires w (qs ++ more)
      ⟨second.result, second.state, first.events ++ second.events⟩ := by
  refine ⟨Nat.le_trans h.size hmore.size, h.passes.append (hmore.passes.mono h.size), ?_⟩
  rw [Event.languageWarnings_append, h.warnings, hmore.warnings, List.flatMap_append]

theorem inquires_bind_of_ok {first : Action (Workspace σ) α}
    {next : α → Action (Workspace σ) β} {w : Workspace σ} {a : α} {qs more : List (Inquiry σ)}
    (hfirst : (first w).result = .ok a) (h : Inquires w qs (first w))
    (hmore : Inquires (first w).state more (next a (first w).state)) :
    Inquires w (qs ++ more) ((first >>= next) w) := by
  rw [bind_of_ok hfirst]
  exact h.append hmore

theorem inquires_bind_of_error {first : Action (Workspace σ) α}
    {next : α → Action (Workspace σ) β} {w : Workspace σ} {fault : Fault} {qs : List (Inquiry σ)}
    (hfirst : (first w).result = .error fault) (h : Inquires w qs (first w)) :
    Inquires w qs ((first >>= next) w) := by
  rw [bind_of_error hfirst]
  exact ⟨h.size, h.passes, h.warnings⟩

/-- What makes no inquiries may follow, or be left out after a fault. -/
theorem inquires_bind {first : Action (Workspace σ) α} {next : α → Action (Workspace σ) β}
    {w : Workspace σ} {qs : List (Inquiry σ)} (h : Inquires w qs (first w))
    (hnext : ∀ a, (first w).result = .ok a →
      Inquires (first w).state [] (next a (first w).state)) :
    Inquires w qs ((first >>= next) w) := by
  cases hfirst : (first w).result with
  | error fault => exact inquires_bind_of_error hfirst h
  | ok a =>
    rw [← List.append_nil qs]
    exact inquires_bind_of_ok hfirst h (hnext a hfirst)

theorem inquires_map {action : Action (Workspace σ) α} {w : Workspace σ}
    {qs : List (Inquiry σ)} (h : Inquires w qs (action w)) (make : α → β) :
    Inquires w qs ((make <$> action) w) := by
  rw [map_apply]
  exact ⟨h.size, h.passes, h.warnings⟩

theorem Spares.inquires {action : Action (Workspace σ) α} (h : Spares action)
    (w : Workspace σ) : Inquires w [] (action w) := by
  refine ⟨?_, fun id _ => ?_, h.unwarned w⟩
  · rw [h.resolvers]
  · rw [h.resolvers]

/-! ## New resolvers -/

theorem inquires_newResolver (factory? : Option (Host σ (Detector σ))) (w : Workspace σ) :
    Inquires w [] (newResolver factory? w) := by
  refine inquires_bind ((spares_onHost (Resolver.unwarned_make factory?)).inquires w) ?_
  intro resolver _
  -- The new row is behind all that were there.
  refine ⟨Nat.le_succ _, fun id hid => ?_, rfl⟩
  exact Table.row_push_of_ne _ resolver (Nat.ne_of_lt hid)

theorem inquires_newEngine (factory? : Option (Host σ (Detector σ))) (cache? : Option Nat)
    (verbose? : Option Bool) (w : Workspace σ) :
    Inquires w [] (newEngine factory? cache? verbose? w) := by
  obtain ⟨rootLog, houtfit⟩ := exists_outfit factory? verbose? w
  rw [newEngine_eq]
  refine inquires_bind ?_ fun resolver _ => ((spares_cacheOrDefault cache?).map _).inquires _
  rw [houtfit]
  have hnew := inquires_newResolver factory? { w with rootLog }
  exact ⟨hnew.size, hnew.passes, hnew.warnings⟩

theorem inquires_theSharedEngine (w : Workspace σ) : Inquires w [] (theSharedEngine w) := by
  cases hshared : w.sharedEngine with
  | some engine =>
    rw [theSharedEngine_of_some hshared]
    exact (spares_pure engine).inquires w
  | none =>
    rw [theSharedEngine_of_none hshared]
    exact inquires_bind (inquires_newEngine none none none w) fun engine _ =>
      (spares_install engine).inquires _

/-! ## Turns -/

theorem inquires_resolve (resolver : Nat) (plainText : Value) (settings : Settings)
    (w : Workspace σ) :
    Inquires w [⟨w, resolver, plainText, settings⟩] (resolve resolver plainText settings w) := by
  refine ⟨?_, ⟨fun _ _ => rfl, fun _ _ => rfl⟩, (List.append_nil _).symm⟩
  rw [resolvers_resolve, Table.size_set]

theorem inquires_complete_of_not_found {engine : Engine} {doc : Document} {position : Position}
    {w : Workspace σ} {o : Nat} (hoffset : doc.offsetAt position = .ok o)
    (hfound : w.found? doc o = none) : Inquires w [] (complete engine doc position w) := by
  rw [complete, hoffset]
  show Inquires w [] ((fragmentize doc >>= _) w)
  refine inquires_bind ((spares_fragmentize doc).inquires w) fun drafts hsplit => ?_
  rw [found?, hsplit] at hfound
  cases hlocate : Draft.locate drafts (.int o) with
  | error misfit => exact (spares_ofExcept (.error (.misfit misfit))).inquires _
  | ok found? =>
    simp only [hlocate] at hfound
    subst hfound
    exact ((spares_engineLog _).bind fun _ => spares_pure []).inquires _

/-- A request that finds a fragment builds its plain text, and then asks. -/
theorem inquires_complete_of_found {engine : Engine} {doc : Document} {position : Position}
    {w : Workspace σ} {o : Nat} {draft : Draft} {cursor : Value}
    (hoffset : doc.offsetAt position = .ok o) (hfound : w.found? doc o = some (draft, cursor)) :
    Inquires w (Inquiry.ofRequest engine doc position w) (complete engine doc position w) := by
  have hsplit := (spares_fragmentize doc).inquires w
  have hannotate := (spares_annotate doc draft).inquires (fragmentize doc w).state
  rw [complete_of_found hoffset hfound, ← List.nil_append (Inquiry.ofRequest engine doc position w)]
  refine hsplit.append ?_
  rw [Inquiry.ofRequest, hoffset]
  simp only [hfound]
  cases hannotated : (annotate doc draft (fragmentize doc w).state).result with
  | error fault => exact inquires_bind_of_error hannotated hannotate
  | ok annotated =>
    refine inquires_bind_of_ok hannotated hannotate ?_
    refine inquires_bind (inquires_resolve _ _ _ _) fun language? _ => ?_
    cases language? with
    | none => exact ((spares_engineLog _).bind fun _ => spares_pure []).inquires _
    | some language => exact (spares_candidates _ _ _ _).inquires _

/-- **A request** makes its inquiries, and touches resolvers in no other way. -/
theorem inquires_complete (engine : Engine) (doc : Document) (position : Position)
    (w : Workspace σ) :
    Inquires w (Inquiry.ofRequest engine doc position w) (complete engine doc position w) := by
  cases hoffset : doc.offsetAt position with
  | error trouble =>
    rw [complete, hoffset, Inquiry.ofRequest, hoffset]
    exact inquires_bind_of_error rfl ((spares_ofExcept _).inquires w)
  | ok o =>
    cases hfound : w.found? doc o with
    | none =>
      rw [Inquiry.ofRequest, hoffset]
      simp only [hfound]
      exact inquires_complete_of_not_found hoffset hfound
    | some found => exact inquires_complete_of_found hoffset hfound

/-- **One turn** makes its inquiries, and touches resolvers in no other way. -/
theorem inquires_run (turn : Turn σ) (w : Workspace σ) :
    Inquires w (turn.inquiries w) (turn.run w) := by
  cases turn with
  | newResolver factory? => exact inquires_map (inquires_newResolver factory? w) _
  | resolve resolver plainText settings =>
    exact inquires_map (inquires_resolve resolver plainText settings w) _
  | other step =>
    refine inquires_map ?_ _
    cases step with
    | newEngine factory? cache? verbose? =>
      exact inquires_map (inquires_newEngine factory? cache? verbose? w) _
    | complete engine doc position =>
      exact inquires_map (inquires_complete engine doc position w) _
    | completeShared doc position =>
      refine inquires_map ?_ _
      have hshared := inquires_theSharedEngine w
      show Inquires w _ ((theSharedEngine >>= fun engine => complete engine doc position) w)
      cases hengine : (theSharedEngine w).result with
      | error fault =>
        rw [Turn.inquiries, hengine]
        exact inquires_bind_of_error hengine hshared
      | ok engine =>
        rw [Turn.inquiries, hengine]
        exact inquires_bind_of_ok hengine hshared (inquires_complete engine doc position _)
    | _ =>
      refine (spares_run ?_).inquires w
      exact trivial

/-- **Any number of turns** make their inquiries, and touch resolvers in no other way. -/
theorem inquires_runs (w : Workspace σ) (turns : List (Turn σ)) :
    Inquires w (Turn.allInquiries w turns)
      ⟨.ok (), Turn.after w turns, Turn.events w turns⟩ := by
  induction turns generalizing w with
  | nil => exact (spares_pure ()).inquires w
  | cons turn rest ih => exact (inquires_run turn w).append (ih (turn.run w).state)

/-! ## The inquiries of one resolver -/

/-- One resolver is asked again and again, each time as it was left the time before. -/
def Sees (id : Nat) (resolver : Resolver σ) : List (Inquiry σ) → Resolver σ → Prop
  | [], last => last = resolver
  | q :: rest, last =>
    (q.resolver = id ∧ q.now.resolvers.row id = resolver) ∧
      Sees id (resolver.afterAsked q.asks) rest last

/-- Of some inquiries, each resolver sees its own. -/
theorem Passes.sees {n id : Nat} (hid : id < n) {resolvers last : Table (Resolver σ)}
    {qs : List (Inquiry σ)} (h : Passes n resolvers qs last) :
    Sees id (resolvers.row id) (qs.filter (·.resolver = id)) (last.row id) := by
  induction qs generalizing resolvers with
  | nil => exact h id hid
  | cons q rest ih =>
    obtain ⟨hnow, hrest⟩ := h
    rw [← hnow id hid]
    by_cases hq : q.resolver = id
    · rw [List.filter_cons, if_pos (decide_eq_true hq)]
      refine ⟨⟨hq, rfl⟩, ?_⟩
      subst hq
      rw [← q.row_outcome]
      exact ih hrest
    · rw [List.filter_cons, if_neg (by simpa using hq), ← q.row_outcome_of_ne (Ne.symm hq)]
      exact ih hrest

/-- Each time it is as all the inquiries before have left it. -/
theorem Sees.now {id : Nat} {resolver last : Resolver σ} {before behind : List (Inquiry σ)}
    {q : Inquiry σ} (h : Sees id resolver (before ++ q :: behind) last) :
    q.now.resolvers.row q.resolver = resolver.afterAsked (before.any Inquiry.asks) := by
  induction before generalizing resolver with
  | nil =>
    obtain ⟨⟨rfl, hnow⟩, -⟩ := h
    rw [hnow, List.any_nil, Resolver.afterAsked_of_not _ rfl]
  | cons first rest ih =>
    rw [ih h.2, Resolver.afterAsked_afterAsked, List.any_cons]

/-- **A resolver warns at most once**, and does if it has no detector, has not warned
yet and is asked to detect a language. -/
theorem Sees.length_warnings {id : Nat} {resolver last : Resolver σ} {qs : List (Inquiry σ)}
    (h : Sees id resolver qs last) :
    (qs.flatMap Inquiry.warnings).length =
      if resolver.detector.isNone ∧ resolver.warned = false ∧ qs.any Inquiry.asks then 1
      else 0 := by
  induction qs generalizing resolver with
  | nil => simp
  | cons q rest ih =>
    obtain ⟨⟨hresolver, hnow⟩, hrest⟩ := h
    rw [List.flatMap_cons, List.length_append, ih hrest, Inquiry.warnings_eq, hresolver, hnow,
      List.any_cons]
    cases hmarks : q.asks && resolver.detector.isNone with
    | false =>
      rw [Resolver.warningsOf_of_not _ _ hmarks, Resolver.afterAsked_of_not _ hmarks]
      cases hmissing : resolver.detector.isNone with
      | false => simp
      | true =>
        rw [hmissing, Bool.and_true] at hmarks
        simp [hmarks]
    | true =>
      -- From now on the mark is there, so the rest warns of nothing.
      obtain ⟨hasks, hmissing⟩ := Bool.and_eq_true_iff.mp hmarks
      cases hwarned : resolver.warned <;>
        simp [Resolver.warningsOf, Resolver.afterAsked, hasks, hmissing, hwarned]

/-- What an inquiry comes to after some others of one resolver, which was new before
them and has a detector, or has none. -/
structure Inquiry.Follows (missing : Bool) (before : List (Inquiry σ)) (q : Inquiry σ) :
    Prop where
  named : q.asks = false → q.outcome.result = .ok q.settings.named? ∧ q.warnings = []
  unknown : missing = true → q.asks = true → q.outcome.result = .ok none ∧
    q.warnings = if before.any Inquiry.asks then []
      else [Resolver.missingDetector q.settings.language]
  detected : missing = false → q.warnings = []

theorem Sees.follows {id : Nat} {resolver last : Resolver σ} (hwarned : resolver.warned = false)
    {before behind : List (Inquiry σ)} {q : Inquiry σ}
    (h : Sees id resolver (before ++ q :: behind) last) :
    q.Follows resolver.detector.isNone before := by
  have hnow := h.now
  have hwarnings := q.warnings_eq
  rw [hnow] at hwarnings
  refine ⟨fun hasks => ⟨result_resolve_of_explicit hasks _, ?_⟩, fun hmissing hasks => ⟨?_, ?_⟩,
    fun hdetector => ?_⟩
  · rw [hwarnings, Resolver.warningsOf_of_not]
    rw [hasks, Bool.false_and]
  · refine result_resolve_of_missing hasks ?_ _
    rw [hnow]
    exact Option.isNone_iff_eq_none.mp hmissing
  · rw [hwarnings, hasks, Resolver.warningsOf, Resolver.afterAsked]
    cases before.any Inquiry.asks <;> simp [hmissing, hwarned]
  · rw [hwarnings, Resolver.warningsOf_of_not]
    rw [Resolver.afterAsked, hdetector, Bool.and_false]

/-! ## All that is done with a workspace -/

structure HasFresh (w : Workspace σ) (factory? : Option (Host σ (Detector σ))) (id : Nat) :
    Prop where
  lt_size : id < w.resolvers.size
  fresh : (w.resolvers.row id).Fresh factory?

theorem hasFresh_newResolver {factory? : Option (Host σ (Detector σ))} {w : Workspace σ}
    {id : Nat} (h : (newResolver factory? w).result = .ok id) :
    (newResolver factory? w).state.HasFresh factory? id := by
  obtain ⟨resolver, hmade, hid⟩ := exists_of_bind_eq_ok h
  obtain rfl := Except.ok.inj hid
  rw [newResolver, bind_of_ok hmade]
  refine ⟨Nat.lt_succ_self _, ?_⟩
  show ((w.resolvers.push resolver).row w.resolvers.size).Fresh factory?
  rw [Table.row_push_self]
  exact Resolver.fresh_of_make hmade

theorem hasFresh_newEngine {factory? : Option (Host σ (Detector σ))} {cache? : Option Nat}
    {verbose? : Option Bool} {w : Workspace σ} {engine : Engine}
    (h : (newEngine factory? cache? verbose? w).result = .ok engine) :
    (newEngine factory? cache? verbose? w).state.HasFresh factory? engine.resolver := by
  obtain ⟨rootLog, houtfit⟩ := exists_outfit factory? verbose? w
  rw [newEngine_eq] at h ⊢
  obtain ⟨resolver, hresolver, hengine⟩ := exists_of_bind_eq_ok h
  obtain ⟨cache, -, rfl⟩ := exists_of_map_eq_ok hengine
  have hspares := ((spares_cacheOrDefault cache?).map (Engine.mk resolver)).resolvers
    (outfit factory? verbose? w).state
  rw [bind_of_ok hresolver]
  rw [houtfit] at hresolver
  have hfresh := hasFresh_newResolver hresolver
  rw [← houtfit] at hfresh
  refine ⟨?_, ?_⟩
  · rw [hspares]
    exact hfresh.lt_size
  · rw [hspares]
    exact hfresh.fresh

/-- **A missing detector is warned of once by each resolver.** In all that is done with a
workspace, whatever is made, registered or overridden in between, only the calls of
resolvers warn about languages. A resolver that has not warned yet warns once in all its
calls if it has no detector and some call asks to detect a language, and else never.
Without a detector the first such call warns, and each such call knows no language. A
call that names a language gets this language and does not warn. A resolver that was just
made has not warned yet, and has a detector if and only if there is a factory. -/
theorem missing_detector_warned_once (σ : Type) :
    (∀ (w : Workspace σ) (turns : List (Turn σ)),
      Event.languageWarnings (Turn.events w turns) =
        (Turn.allInquiries w turns).flatMap Inquiry.warnings) ∧
    (∀ (w : Workspace σ) (id : Nat), id < w.resolvers.size →
      (w.resolvers.row id).warned = false → ∀ turns : List (Turn σ),
        let missing := (w.resolvers.row id).detector.isNone
        let calls := (Turn.allInquiries w turns).filter (·.resolver = id)
        ((calls.flatMap Inquiry.warnings).length =
          if missing ∧ ∃ q ∈ calls, q.asks then 1 else 0) ∧
        ∀ before q behind, calls = before ++ q :: behind → q.Follows missing before) ∧
    ∀ (factory? : Option (Host σ (Detector σ))) (w : Workspace σ),
      (∀ id, (newResolver factory? w).result = .ok id →
        (newResolver factory? w).state.HasFresh factory? id) ∧
      ∀ (cache? : Option Nat) (verbose? : Option Bool) (engine : Engine),
        (newEngine factory? cache? verbose? w).result = .ok engine →
        (newEngine factory? cache? verbose? w).state.HasFresh factory? engine.resolver := by
  refine ⟨fun w turns => (inquires_runs w turns).warnings, ?_, fun factory? w => ⟨?_, ?_⟩⟩
  · intro w id hid hwarned turns missing calls
    have hsees := (inquires_runs w turns).passes.sees hid
    refine ⟨?_, fun before q behind hcalls => ?_⟩
    · rw [hsees.length_warnings]
      simp only [hwarned, true_and, List.any_eq_true]
      rfl
    · rw [show List.filter _ _ = _ from hcalls] at hsees
      exact hsees.follows hwarned
  · exact fun id => hasFresh_newResolver
  · exact fun cache? verbose? engine => hasFresh_newEngine

/-- Two resolvers without detectors. The first warns when it is asked for `auto`. Then the
code that asks for detection is overridden, so `auto` is a language like others; being
asked for `detect` the first warns no more, and the second warns once. -/
theorem missing_detector_warned_once_overridden :
    let w : Workspace Unit := { bundled := "lists", surroundings := { host := () } }
    let made := (newResolver none (newResolver none w).state).state
    let before : Inquiry Unit := ⟨made, 0, .text "hi", .of "auto" []⟩
    let overridden : Workspace Unit :=
      { (before.outcome.state : Workspace Unit) with
        config := { before.outcome.state.config with autoLanguage := .text "detect" } }
    let named : Inquiry Unit := ⟨overridden, 0, .text "hi", .of "auto" []⟩
    let turns : List (Turn Unit) := [.resolve 0 (.text "hi") (.of "auto" []),
      .other (.override fun c => { c with autoLanguage := .text "detect" }),
      .resolve 0 (.text "hi") (.of "auto" []), .resolve 0 (.text "hi") (.of "detect" []),
      .resolve 1 (.text "hi") (.of "detect" [])]
    let calls := fun id => (Turn.allInquiries made turns).filter (·.resolver = id)
    (calls 0).length = 3 ∧ ((calls 0).flatMap Inquiry.warnings).length = 1 ∧
    ((calls 1).flatMap Inquiry.warnings).length = 1 ∧
    before.outcome.result = .ok none ∧
    before.warnings = [Resolver.missingDetector (.text "auto")] ∧
    named.outcome.result = .ok (some (.text "auto")) ∧
    (Event.languageWarnings (Turn.events made turns)).length = 2 := by
  intro w made before overridden named turns calls
  obtain ⟨hall, hone, hnew⟩ := missing_detector_warned_once Unit
  have hfirst := (hnew none w).1 0 rfl
  have hsecond := (hnew none (newResolver none w).state).1 1 rfl
  have hsize : 0 < made.resolvers.size := by decide
  obtain ⟨hcount, heach⟩ := hone made 0 hsize hfirst.fresh.warned turns
  obtain ⟨hcount', heach'⟩ := hone made 1 hsecond.lt_size hsecond.fresh.warned turns
  have hbefore := heach [] before _ rfl
  obtain ⟨hunknown, hwarns⟩ := hbefore.unknown rfl rfl
  have hnamed := (heach [before] named _ rfl).named rfl
  refine ⟨rfl, hcount.trans (if_pos ⟨rfl, before, List.mem_cons_self, rfl⟩),
    hcount'.trans (if_pos ⟨rfl, _, List.mem_cons_self, rfl⟩), hunknown, hwarns, hnamed.1, ?_⟩
  rw [hall]
  decide +kernel

end Typeahead.Workspace
