import Mathlib.Data.List.Basic
import Typeahead.Proofs.Collaborators

/-!
# What collaborators are asked

The calls of an action, and what each of them ended in, said by the replies of the
collaborators. An action tells its calls when they are made in a given order, none
of them twice, and when a call that ends in a fault is the last and its fault is
that of the action. Main statements: `Action.Tells.bind` and, for the collaborators,
`Document.tells_fragments`, `Draft.tells_plainText` and `Resolver.tells_resolve`.
-/

namespace Typeahead

variable {σ α β : Type}

/-! ## Calls and their faults -/

/-- The place of a call among those of one request. -/
def Call.rank : Call → Nat
  | .makeFragmentizer _ => 0
  | .fragmentize _ _ => 1
  | .makeBuilder _ => 2
  | .configure _ => 3
  | .feed _ => 4
  | .build => 5
  | .makeDetector => 6
  | .clean _ => 7
  | .detect _ _ _ => 8
  | .load _ => 9

/-- A call that was made, and the fault that it ended in, if it did. -/
structure Asked where
  call : Call
  fault? : Option Fault

def faultOf : Except Fault α → Option Fault
  | .ok _ => none
  | .error fault => some fault

theorem faultOf_eq_some_iff {result : Except Fault α} {fault : Fault} :
    faultOf result = some fault ↔ result = .error fault := by
  cases result <;> simp [faultOf]

/-- A list could not be read, which stops no request. -/
def Asked.isForgiven (a : Asked) : Bool :=
  match a.call, a.fault? with
  | .load _, some fault => fault.isReadFailure
  | _, _ => false

theorem Asked.exists_of_isForgiven {a : Asked} (h : a.isForgiven = true) :
    ∃ name fault, a.call = .load name ∧ a.fault? = some fault ∧ fault.isReadFailure = true := by
  unfold isForgiven at h
  split at h
  · next name fault hcall hfault => exact ⟨name, fault, hcall, hfault, h⟩
  · cases h

/-- A call that ended in a fault is the last one, and its fault is the one that all
ended in, unless it is forgiven. -/
def Heeded (ended : Option Fault) : List Asked → Prop
  | [] => True
  | a :: rest =>
    match a.fault? with
    | none => Heeded ended rest
    | some fault => rest = [] ∧ (a.isForgiven = false → ended = some fault)

theorem Heeded.of_split {ended : Option Fault} {asked before behind : List Asked} {a : Asked}
    {fault : Fault} (h : Heeded ended asked) (hsplit : asked = before ++ a :: behind)
    (hfault : a.fault? = some fault) :
    behind = [] ∧ (a.isForgiven = false → ended = some fault) := by
  subst hsplit
  induction before with
  | nil =>
      rw [List.nil_append, Heeded, hfault] at h
      exact h
  | cons b before ih =>
      rw [List.cons_append, Heeded] at h
      split at h
      · exact ih h
      · exact absurd h.1 (by simp)

theorem Heeded.of_answered {asked : List Asked} (h : Heeded none asked) (ended : Option Fault) :
    Heeded ended asked := by
  induction asked with
  | nil => trivial
  | cons a rest ih =>
      rw [Heeded] at h ⊢
      split
      · next hnone =>
          rw [hnone] at h
          exact ih h
      · next fault hsome =>
          rw [hsome] at h
          refine ⟨h.1, fun hforgiven => ?_⟩
          cases h.2 hforgiven

/-- More calls may follow when all went well and none was a load. -/
theorem Heeded.append {asked more : List Asked} {ended : Option Fault} (h : Heeded none asked)
    (hload : ∀ a ∈ asked, a.call.rank ≠ 9) (hmore : Heeded ended more) :
    Heeded ended (asked ++ more) := by
  induction asked with
  | nil => exact hmore
  | cons a rest ih =>
      rw [List.cons_append, Heeded]
      rw [Heeded] at h
      split
      · next hnone =>
          rw [hnone] at h
          exact ih h fun b hb => hload b (List.mem_cons_of_mem a hb)
      · next fault hsome =>
          rw [hsome] at h
          cases hforgiven : a.isForgiven with
          | false => cases h.2 hforgiven
          | true =>
              obtain ⟨name, _, hcall, -, -⟩ := Asked.exists_of_isForgiven hforgiven
              have hrank := hload a List.mem_cons_self
              rw [hcall] at hrank
              exact absurd rfl hrank

/-! ## Actions that tell their calls -/

def following (o : Outcome σ α) (asked : α → σ → List Asked) : List Asked :=
  match o.result with
  | .ok a => asked a o.state
  | .error _ => []

theorem mem_map_following {γ : Type} {f : Asked → γ} {o : Outcome σ α}
    {asked : α → σ → List Asked} {c : γ} :
    c ∈ (following o asked).map f ↔ ∃ a, o.result = .ok a ∧ c ∈ (asked a o.state).map f := by
  rw [following]
  cases o.result with
  | error fault => simp
  | ok a => simp

/-- The calls of a run are `asked`. Their ranks are among `ranks`, in this order. -/
structure Outcome.Tells (o : Outcome σ α) (ranks : List Nat) (asked : List Asked) : Prop where
  calls : Event.calls o.events = asked.map Asked.call
  order : (asked.map fun a => a.call.rank).Sublist ranks
  heeded : Heeded (faultOf o.result) asked

theorem Outcome.Tells.rank_mem {o : Outcome σ α} {ranks : List Nat} {asked : List Asked}
    (h : o.Tells ranks asked) {c : Call} (hc : c ∈ asked.map Asked.call) : c.rank ∈ ranks := by
  obtain ⟨a, ha, rfl⟩ := List.mem_map.mp hc
  exact h.order.subset (List.mem_map_of_mem ha)

def Action.Tells (action : Action σ α) (ranks : List Nat) (asked : σ → List Asked) : Prop :=
  ∀ s, (action s).Tells ranks (asked s)

namespace Action

theorem Tells.mono {action : Action σ α} {ranks more : List Nat} {asked : σ → List Asked}
    (h : action.Tells ranks asked) (hranks : ranks.Sublist more) : action.Tells more asked :=
  fun s => ⟨(h s).calls, (h s).order.trans hranks, (h s).heeded⟩

def AsksNobody (action : Action σ α) : Prop :=
  ∀ s, Event.calls (action s).events = []

theorem AsksNobody.tells {action : Action σ α} (h : action.AsksNobody) :
    action.Tells [] fun _ => [] :=
  fun s => ⟨h s, .slnil, trivial⟩

theorem calls_bind_of_ok {first : Action σ α} {next : α → Action σ β} {s : σ} {a : α}
    (h : (first s).result = .ok a) :
    Event.calls ((first >>= next) s).events =
      Event.calls (first s).events ++ Event.calls (next a (first s).state).events := by
  rw [bind_of_ok h]
  exact List.filterMap_append

theorem AsksNobody.bind {first : Action σ α} {next : α → Action σ β} (hfirst : first.AsksNobody)
    (hnext : ∀ a, (next a).AsksNobody) : (first >>= next).AsksNobody := by
  intro s
  cases hresult : (first s).result with
  | error fault =>
      rw [bind_of_error hresult]
      exact hfirst s
  | ok a => rw [calls_bind_of_ok hresult, hfirst s, hnext a, List.nil_append]

/-- **In a sequence**, what the second action asks follows what the first asks. -/
theorem Tells.bind {first : Action σ α} {next : α → Action σ β} {ranks ranks' : List Nat}
    {asked : σ → List Asked} {asked' : α → σ → List Asked} (hfirst : first.Tells ranks asked)
    (hload : 9 ∉ ranks) (hnext : ∀ a, (next a).Tells ranks' (asked' a)) :
    (first >>= next).Tells (ranks ++ ranks') fun s => asked s ++ following (first s) asked' := by
  intro s
  obtain ⟨hcalls, horder, hheeded⟩ := hfirst s
  show Outcome.Tells _ _ (asked s ++ following (first s) asked')
  rw [following]
  cases hresult : (first s).result with
  | error fault =>
      rw [hresult] at hheeded
      rw [bind_of_error hresult, List.append_nil]
      exact ⟨hcalls, horder.trans (List.sublist_append_left _ _), hheeded⟩
  | ok a =>
      obtain ⟨hcalls', horder', hheeded'⟩ := hnext a (first s).state
      rw [hresult] at hheeded
      refine ⟨?_, ?_, ?_⟩
      · rw [calls_bind_of_ok hresult, hcalls, hcalls', List.map_append]
      · rw [List.map_append]
        exact horder.append horder'
      · rw [bind_of_ok hresult]
        refine hheeded.append (fun b hb hrank => hload ?_) hheeded'
        rw [← hrank]
        exact horder.subset (List.mem_map_of_mem hb)

theorem Tells.bind_nobody {first : Action σ α} {next : α → Action σ β} {ranks : List Nat}
    {asked : σ → List Asked} (hfirst : first.Tells ranks asked)
    (hnext : ∀ a, (next a).AsksNobody) : (first >>= next).Tells ranks asked := by
  intro s
  obtain ⟨hcalls, horder, hheeded⟩ := hfirst s
  cases hresult : (first s).result with
  | error fault =>
      rw [hresult] at hheeded
      rw [bind_of_error hresult]
      exact ⟨hcalls, horder, hheeded⟩
  | ok a =>
      rw [hresult] at hheeded
      refine ⟨?_, horder, hheeded.of_answered _⟩
      rw [calls_bind_of_ok hresult, hnext a, List.append_nil, hcalls]

/-- Where the first action asks nobody, the sequence asks what the second asks. -/
theorem AsksNobody.bind_tells {first : Action σ α} {next : α → Action σ β} {ranks : List Nat}
    {asked : α → σ → List Asked} (hfirst : first.AsksNobody)
    (hnext : ∀ a, (next a).Tells ranks (asked a)) :
    (first >>= next).Tells ranks fun s => following (first s) asked :=
  hfirst.tells.bind List.not_mem_nil hnext

def once (call : Call) (o : Outcome σ α) : List Asked :=
  [⟨call, faultOf o.result⟩]

theorem mem_once {call c : Call} {o : Outcome σ α} :
    c ∈ (once call o).map Asked.call ↔ c = call := List.mem_singleton

theorem tells_once {call : Call} {action : Action σ α}
    (h : ∀ s, Event.calls (action s).events = [call]) :
    action.Tells [call.rank] fun s => once call (action s) := by
  intro s
  refine ⟨h s, .refl _, ?_⟩
  show Heeded _ [⟨call, faultOf (action s).result⟩]
  cases (action s).result with
  | ok a => trivial
  | error fault => exact ⟨rfl, fun _ => rfl⟩

theorem calls_ask (call : Call) (host : Host σ α) (s : σ) :
    Event.calls (ask call host s).events = [call] := by
  rw [ask_apply]
  split <;> rfl

theorem tells_ask (call : Call) (host : Host σ α) :
    (ask call host).Tells [call.rank] fun s => once call (ask call host s) :=
  tells_once (calls_ask call host)

end Action

open Typeahead.Action (once)

/-! ## Registries -/

/-- What is asked to make something for a dialect: the factory that is registered for
it, and nobody where there is none. -/
def Registry.asked (registry : Registry (Host σ α)) (languageId : Value) (making : Call)
    (s : σ) : List Asked :=
  match registry.lookUp languageId with
  | .ok (some factory) => once making (Action.ask making factory s)
  | _ => []

theorem Registry.mem_asked {registry : Registry (Host σ α)} {languageId : Value}
    {making c : Call} {s : σ} :
    c ∈ (registry.asked languageId making s).map Asked.call ↔
      (∃ factory, registry.lookUp languageId = .ok (some factory)) ∧ c = making := by
  unfold Registry.asked
  split
  · next factory h => simp [Action.mem_once, h]
  · next hnone =>
      constructor
      · rintro ⟨⟩
      · rintro ⟨⟨factory, h⟩, -⟩
        exact absurd h (hnone factory)

theorem Registry.tells (registry : Registry (Host σ α)) (languageId : Value) (making : Call)
    {next : Option (Host σ α) → Action σ α}
    (hsome : ∀ factory, next (some factory) = Action.ask making factory)
    (hnone : (next none).AsksNobody) :
    (Action.ofExcept ((registry.lookUp languageId).mapError .misfit) >>= next).Tells
      [making.rank] (registry.asked languageId making) := by
  unfold Registry.asked
  cases registry.lookUp languageId with
  | error misfit => exact (Action.AsksNobody.tells fun _ => rfl).mono (List.nil_sublist _)
  | ok found? =>
      have hpure : (Action.ofExcept (Except.mapError Fault.misfit (.ok found?)) : Action σ _) =
          pure found? := rfl
      rw [hpure, pure_bind]
      cases found? with
      | none => exact hnone.tells.mono (List.nil_sublist _)
      | some factory =>
          rw [hsome]
          exact Action.tells_ask making factory

/-! ## Fragmentizers -/

theorem Fragmentizer.tells_make (config : Config) (registry : Registry (Factory σ))
    (languageId : Value) :
    (make config registry languageId).Tells [0]
      (registry.asked languageId (.makeFragmentizer languageId)) :=
  registry.tells languageId (.makeFragmentizer languageId) (fun _ => rfl) fun _ => rfl

theorem Fragmentizer.calls_fragmentize (text : String) (settings : Settings)
    (fragmentizer : Fragmentizer σ) (s : σ) :
    Event.calls (fragmentizer.fragmentize text settings s).events =
      [.fragmentize text settings] := by
  cases fragmentizer with
  | plain languageId => exact Action.calls_ask _ _ s
  | custom f => exact Action.calls_ask _ _ s

def Document.asked (doc : Document) (config : Config)
    (registry : Registry (Fragmentizer.Factory σ)) (s : σ) : List Asked :=
  registry.asked doc.languageId (.makeFragmentizer doc.languageId) s ++
    following (Fragmentizer.make config registry doc.languageId s) fun fragmentizer s =>
      once (.fragmentize doc.text doc.settings)
        (fragmentizer.fragmentize doc.text doc.settings s)

theorem Document.tells_fragments (doc : Document) (config : Config)
    (registry : Registry (Fragmentizer.Factory σ)) :
    (doc.fragments config registry).Tells [0, 1] (doc.asked config registry) :=
  (Fragmentizer.tells_make config registry doc.languageId).bind (by decide) fun fragmentizer =>
    Action.tells_once (fragmentizer.calls_fragmentize doc.text doc.settings)

/-! ## Builders -/

theorem Builder.tells_make (config : Config) (registry : Registry (Factory σ))
    (languageId : Value) :
    (make config registry languageId).Tells [2]
      (registry.asked languageId (.makeBuilder languageId)) :=
  registry.tells languageId (.makeBuilder languageId) (fun _ => rfl) fun _ => rfl

theorem Builder.calls_tell (settings : Settings) (builder : Builder σ) (s : σ) :
    Event.calls (builder.tell settings s).events = [.configure settings] := by
  cases builder with
  | plain => exact Action.calls_ask _ _ s
  | custom configure feed build => exact Action.calls_ask _ _ s

theorem Builder.calls_give (code : Value) (builder : Builder σ) (s : σ) :
    Event.calls (builder.give code s).events = [.feed code] := by
  cases builder with
  | plain => exact Action.calls_ask _ _ s
  | custom configure feed build => exact Action.calls_ask _ _ s

theorem Builder.calls_finish (code : Value) (builder : Builder σ) (s : σ) :
    Event.calls (builder.finish code s).events = [.build] := by
  cases builder with
  | plain =>
      have hnobody : (Action.ofExcept (code.textOr (.misfit .notText)) >>=
          fun text => pure (.text text) : Action σ Value).AsksNobody :=
        Action.AsksNobody.bind (fun _ => rfl) fun _ _ => rfl
      rw [finish, Action.calls_bind_of_ok (a := ()) rfl, hnobody, List.append_nil]
      exact Action.calls_ask _ _ s
  | custom configure feed build => exact Action.calls_ask _ _ s

def Builder.asked (builder : Builder σ) (settings : Settings) (code : Value) (s : σ) :
    List Asked :=
  once (.configure settings) (builder.tell settings s) ++
    following (builder.tell settings s) fun _ s =>
      once (.feed code) (builder.give code s) ++
        following (builder.give code s) fun _ s => once .build (builder.finish code s)

/-- A builder is fed when it was configured, and builds when it was fed. -/
theorem Builder.mem_asked {builder : Builder σ} {settings : Settings} {code : Value} {s : σ}
    {c : Call} :
    c ∈ (builder.asked settings code s).map Asked.call ↔
      c = .configure settings ∨ (builder.tell settings s).result = .ok () ∧
        (c = .feed code ∨ (builder.give code (builder.tell settings s).state).result = .ok () ∧
          c = .build) := by
  simp only [asked, List.map_append, List.mem_append, mem_map_following, Action.mem_once]
  constructor
  · rintro (rfl | ⟨_, htell, rfl | ⟨_, hgive, rfl⟩⟩)
    · exact .inl rfl
    · exact .inr ⟨htell, .inl rfl⟩
    · exact .inr ⟨htell, .inr ⟨hgive, rfl⟩⟩
  · rintro (rfl | ⟨htell, rfl | ⟨hgive, rfl⟩⟩)
    · exact .inl rfl
    · exact .inr ⟨(), htell, .inl rfl⟩
    · exact .inr ⟨(), htell, .inr ⟨(), hgive, rfl⟩⟩

theorem Builder.tells_plainTextOf (builder : Builder σ) (settings : Settings) (code : Value) :
    (builder.plainTextOf settings code).Tells [3, 4, 5] (builder.asked settings code) :=
  (Action.tells_once (builder.calls_tell settings)).bind (by simp [Call.rank]) fun _ =>
    (Action.tells_once (builder.calls_give code)).bind (by simp [Call.rank]) fun _ =>
      Action.tells_once (builder.calls_finish code)

def Draft.asked (draft : Draft) (config : Config) (registry : Registry (Builder.Factory σ))
    (s : σ) : List Asked :=
  registry.asked draft.languageId (.makeBuilder draft.languageId) s ++
    following (Builder.make config registry draft.languageId s) fun builder s =>
      builder.asked draft.settings draft.code s

theorem Draft.tells_plainText (draft : Draft) (config : Config)
    (registry : Registry (Builder.Factory σ)) :
    (draft.plainText config registry).Tells [2, 3, 4, 5] (draft.asked config registry) :=
  (Builder.tells_make config registry draft.languageId).bind (by decide) fun builder =>
    builder.tells_plainTextOf draft.settings draft.code

/-! ## Detectors -/

def Detector.asked (detector : Detector σ) (plainText : Value) (s : σ) : List Asked :=
  let cleaned := Action.ask (.clean plainText) (detector.clean plainText) s
  once (.clean plainText) cleaned ++ following cleaned fun text s =>
    once (.detect text [] []) (Action.ask (.detect text [] []) (detector.detect text [] []) s)

theorem Detector.mem_asked {detector : Detector σ} {plainText : Value} {s : σ} {c : Call} :
    c ∈ (detector.asked plainText s).map Asked.call ↔ c = .clean plainText ∨
      ∃ text, (detector.clean plainText s).answer = .ok text ∧ c = .detect text [] [] := by
  have hcleaned (text : Value) :
      (Action.ask (.clean plainText) (detector.clean plainText) s).result = .ok text ↔
        (detector.clean plainText s).answer = .ok text := by
    rw [Action.result_ask]
    cases (detector.clean plainText s).answer <;> simp [Except.mapError]
  simp only [asked, List.map_append, List.mem_append, mem_map_following, Action.mem_once, hcleaned]

theorem Detector.tells_find (detector : Detector σ) (plainText : Value) :
    (detector.find plainText).Tells [7, 8] (detector.asked plainText) := by
  refine (Action.tells_ask _ _).bind (by simp [Call.rank]) fun cleaned => ?_
  refine (Action.tells_ask _ _).bind_nobody fun detected? => ?_
  cases detected? with
  | none => exact fun _ => rfl
  | some detected => exact Action.AsksNobody.bind (fun _ => rfl) fun _ _ => rfl

/-- What is asked to resolve a language: the detector, if there is one and the settings
ask for detection, and else nobody. -/
def Resolver.asked (resolver : Resolver σ) (config : Config) (plainText : Value)
    (settings : Settings) (s : σ) : List Asked :=
  if config.asksForDetection settings.language then
    match resolver.detector with
    | some detector => detector.asked plainText s
    | none => []
  else []

theorem Resolver.tells_resolve (resolver : Resolver σ) (config : Config) (plainText : Value)
    (settings : Settings) :
    (resolver.resolve config plainText settings).Tells [7, 8]
      (resolver.asked config plainText settings) := by
  unfold Resolver.asked
  cases hasks : config.asksForDetection settings.language with
  | false =>
      rw [resolve_of_explicit hasks]
      exact (Action.AsksNobody.tells fun _ => rfl).mono (List.nil_sublist _)
  | true =>
      cases hdetector : resolver.detector with
      | none =>
          refine (Action.AsksNobody.tells fun s => ?_).mono (List.nil_sublist _)
          obtain ⟨next, events, hresolve, hcalls⟩ :=
            resolve_of_no_detector hasks hdetector plainText s
          rw [hresolve]
          exact hcalls
      | some detector =>
          rw [resolve_of_detector hasks hdetector]
          exact (detector.tells_find plainText).bind_nobody fun _ _ => rfl

end Typeahead
