import Mathlib.Data.List.Induction
import Typeahead.Proofs.Workspace.Overlooked

/-!
# Registrations

Fragmentizers and builders are registered for dialects, one after the other. Main
statement: `complete_registering`. A request does not notice what is registered for
dialects that it does not come to; for those that it comes to, the latest registration
counts, and without one they are plain text. Where a fragment names its language, its
builder and the detector do not count either.
-/

namespace Typeahead

open Typeahead.Resource

variable {σ α β : Type}

/-! ## Outcomes that are alike -/

/-- Two outcomes differ in log records at most. -/
structure Outcome.Alike (o o' : Outcome σ α) : Prop where
  result : o.result = o'.result
  state : o.state = o'.state
  calls : Event.calls o.events = Event.calls o'.events

theorem Outcome.Alike.bind {first first' : Action σ α} {s : σ}
    (h : (first s).Alike (first' s)) (next : α → Action σ β) :
    ((first >>= next) s).Alike ((first' >>= next) s) := by
  obtain ⟨hresult, hstate, hcalls⟩ := h
  cases hfirst : (first s).result with
  | error fault =>
      have hfirst' : (first' s).result = .error fault := by rw [← hresult, hfirst]
      rw [Action.bind_of_error hfirst, Action.bind_of_error hfirst']
      exact ⟨rfl, hstate, hcalls⟩
  | ok a =>
      have hfirst' : (first' s).result = .ok a := by rw [← hresult, hfirst]
      refine ⟨?_, ?_, ?_⟩
      · rw [Action.bind_of_ok hfirst, Action.bind_of_ok hfirst', hstate]
      · rw [Action.bind_of_ok hfirst, Action.bind_of_ok hfirst', hstate]
      · rw [Action.calls_bind_of_ok hfirst, Action.calls_bind_of_ok hfirst', hcalls, hstate]

theorem Action.alike_log_bind (level : Level) (topic : Topic) (message : String)
    (next : Unit → Action σ α) (s : σ) :
    ((log level topic message >>= next) s).Alike (next () s) := by
  rw [bind_of_ok (a := ()) rfl]
  exact ⟨rfl, rfl, rfl⟩

theorem Outcome.Alike.onHost {action action' : Action σ α} {w : Workspace σ}
    (h : (action w.surroundings.host).Alike (action' w.surroundings.host)) :
    (Workspace.onHost action w).Alike (Workspace.onHost action' w) := by
  refine ⟨h.result, ?_, h.calls⟩
  show ({ w with surroundings := { w.surroundings with host := _ } } : Workspace σ) = _
  rw [h.state]
  rfl

/-! ## Loaders that agree -/

/-- In both surroundings the loader ends in the same, whatever the name. -/
def Resource.Loader.Agrees (loader : Loader σ) (s t : Surroundings σ) : Prop :=
  ∀ name : String, (loader.load (.text name) s).result = (loader.load (.text name) t).result

/-- Where the same lies on the shelves, all loaders agree but for the host's own. -/
theorem Resource.Loader.agrees_of_sameShelves {loader : Loader σ} {s t : Surroundings σ}
    (hshelves : s.SameShelves t) (hcustom : ∀ load, loader = .custom load → loader.Agrees s t) :
    loader.Agrees s t := by
  by_cases h : ∃ load, loader = .custom load
  · obtain ⟨load, hload⟩ := h
    exact hcustom load hload
  · intro name
    have hsteady := Loader.steady_load loader s fun load hload => h ⟨load, hload⟩
    exact (hsteady t hshelves name).symm

theorem Cache.listNow_of_agrees {config : Config} {cache : Cache σ} {s t : Surroundings σ}
    (h : cache.loader.Agrees s t) (code : String) :
    cache.listNow config code s = cache.listNow config code t := by
  have hread : listRead config cache.loader code s = listRead config cache.loader code t := by
    unfold listRead
    cases config.nameOf code with
    | error fault => rfl
    | ok name => exact congrArg config.wordsIn (h name)
  rw [listNow, listNow, hread]

/-! ## Sequences of registrations -/

namespace Registry

/-- Registers under a value. Without a key it cannot be registered. -/
def registerFor (registry : Registry α) (reg : Value × α) : Registry α :=
  match reg.1.key with
  | .ok key => registry.register key reg.2
  | .error _ => registry

def after (registry : Registry α) (regs : List (Value × α)) : Registry α :=
  regs.foldl registerFor registry

def latest? (key : Key) (regs : List (Value × α)) : Option α :=
  (regs.reverse.find? fun reg => reg.1.key.toOption == some key).map Prod.snd

theorem find?_registerFor (registry : Registry α) (reg : Value × α) (key : Key) :
    (registry.registerFor reg).find? key =
      if reg.1.key.toOption = some key then some reg.2 else registry.find? key := by
  unfold registerFor
  cases hkey : reg.1.key with
  | error misfit => simp [Except.toOption]
  | ok own =>
      by_cases h : own = key
      · subst h
        simp [Except.toOption]
      · rw [if_neg (by simpa [Except.toOption] using h)]
        exact find?_register_of_ne registry reg.2 (Ne.symm h)

theorem latest?_snoc (key : Key) (regs : List (Value × α)) (reg : Value × α) :
    latest? key (regs ++ [reg]) =
      if reg.1.key.toOption = some key then some reg.2 else latest? key regs := by
  unfold latest?
  rw [List.reverse_append]
  by_cases h : reg.1.key.toOption = some key <;> simp [h]

/-- **The latest registration counts**, and else what was there before. -/
theorem find?_after (registry : Registry α) (regs : List (Value × α)) (key : Key) :
    (registry.after regs).find? key = (latest? key regs).or (registry.find? key) := by
  induction regs using List.reverseRecOn with
  | nil => rfl
  | append_singleton regs reg ih =>
      have hlast : registry.after (regs ++ [reg]) = (registry.after regs).registerFor reg := by
        simp [after]
      rw [hlast, find?_registerFor, latest?_snoc, ih]
      split <;> rfl

theorem lookUp_of_key {registry : Registry α} {v : Value} {key : Key} (h : v.key = .ok key) :
    registry.lookUp v = .ok (registry.find? key) := by
  rw [lookUp, h]
  rfl

theorem latest?_eq_none {key : Key} {regs : List (Value × α)}
    (h : ∀ reg ∈ regs, reg.1.key ≠ .ok key) : latest? key regs = none := by
  have hnone : (regs.reverse.find? fun reg => reg.1.key.toOption == some key) = none := by
    refine List.find?_eq_none.mpr fun reg hreg hfound => ?_
    have hne := h reg (List.mem_reverse.mp hreg)
    cases hkey : reg.1.key with
    | error misfit => simp [hkey, Except.toOption] at hfound
    | ok own =>
        rw [hkey] at hne hfound
        simp [Except.toOption] at hfound hne
        exact hne hfound
  rw [latest?, hnone]
  rfl

theorem lookUp_after_of_ne {registry : Registry α} {regs : List (Value × α)} {v : Value}
    (h : ∀ reg ∈ regs, ∀ key, reg.1.key = .ok key → v.key ≠ .ok key) :
    (registry.after regs).lookUp v = registry.lookUp v := by
  unfold lookUp
  cases hkey : v.key with
  | error misfit => rfl
  | ok key =>
      have hnone : latest? key regs = none :=
        latest?_eq_none fun reg hreg hown => h reg hreg key hown hkey
      show Except.ok ((registry.after regs).find? key) = Except.ok (registry.find? key)
      rw [find?_after, hnone]
      rfl

end Registry

/-- A collaborator that is registered for a dialect. -/
inductive Registration (σ : Type) where
  | fragmentizer (languageId : Value) (factory : Fragmentizer.Factory σ)
  | builder (languageId : Value) (factory : Builder.Factory σ)

namespace Registration

def run : Registration σ → Action (Workspace σ) Unit
  | .fragmentizer languageId factory => Workspace.registerFragmentizer languageId factory
  | .builder languageId factory => Workspace.registerBuilder languageId factory

def fragmentizer? : Registration σ → Option (Value × Fragmentizer.Factory σ)
  | .fragmentizer languageId factory => some (languageId, factory)
  | .builder _ _ => none

def builder? : Registration σ → Option (Value × Builder.Factory σ)
  | .fragmentizer _ _ => none
  | .builder languageId factory => some (languageId, factory)

/-- It is for a dialect other than that of the document, or other than that of the
fragment that a request finds in it, as it is for fragmentizers or builders. -/
def Spares (w : Workspace σ) (doc : Document) (position : Position) : Registration σ → Prop
  | .fragmentizer languageId _ => ∀ key, languageId.key = .ok key → doc.languageId.key ≠ .ok key
  | .builder languageId _ => ∀ draft cursor, w.located? doc position = some (draft, cursor) →
      ∀ key, languageId.key = .ok key → draft.languageId.key ≠ .ok key

end Registration

namespace Workspace

def registering (w : Workspace σ) (regs : List (Registration σ)) : Workspace σ :=
  regs.foldl (fun w reg => (reg.run w).state) w

def registered (regs : List (Registration σ)) : Change σ where
  fragmentizers registry := registry.after (regs.filterMap Registration.fragmentizer?)
  builders registry := registry.after (regs.filterMap Registration.builder?)

theorem state_run_fragmentizer (languageId : Value) (factory : Fragmentizer.Factory σ)
    (w : Workspace σ) :
    ((Registration.fragmentizer languageId factory).run w).state =
      { w with fragmentizers := w.fragmentizers.registerFor (languageId, factory) } := by
  show (registerFragmentizer languageId factory w).state = _
  unfold registerFragmentizer Registry.registerFor
  cases languageId.key <;> rfl

theorem state_run_builder (languageId : Value) (factory : Builder.Factory σ)
    (w : Workspace σ) :
    ((Registration.builder languageId factory).run w).state =
      { w with builders := w.builders.registerFor (languageId, factory) } := by
  show (registerBuilder languageId factory w).state = _
  unfold registerBuilder Registry.registerFor
  cases languageId.key <;> rfl

theorem registering_eq (w : Workspace σ) (regs : List (Registration σ)) :
    w.registering regs = (registered regs).apply w := by
  induction regs using List.reverseRecOn with
  | nil => rfl
  | append_singleton regs reg ih =>
      have hlast : w.registering (regs ++ [reg]) = (reg.run (w.registering regs)).state := by
        simp [registering]
      rw [hlast, ih]
      cases reg with
      | fragmentizer languageId factory =>
          rw [state_run_fragmentizer]
          simp [registered, Change.apply, Registry.after, List.filterMap_cons,
            Registration.fragmentizer?, Registration.builder?]
      | builder languageId factory =>
          rw [state_run_builder]
          simp [registered, Change.apply, Registry.after, List.filterMap_cons,
            Registration.fragmentizer?, Registration.builder?]

theorem overlooks_registered (engine : Engine) {doc : Document} {position : Position}
    {w : Workspace σ} {regs : List (Registration σ)}
    (h : ∀ reg ∈ regs, reg.Spares w doc position) :
    (complete engine doc position).Overlooks (registered regs).apply w := by
  refine overlooks_complete ?_ ?_ ⟨rfl, fun _ => rfl, fun _ _ => rfl⟩
  · refine Registry.lookUp_after_of_ne fun reg hreg key hkey => ?_
    obtain ⟨registration, hmem, hreg⟩ := List.mem_filterMap.mp hreg
    have hspares := h registration hmem
    cases registration with
    | fragmentizer languageId factory =>
        obtain rfl := Option.some.inj hreg
        exact hspares key hkey
    | builder languageId factory => cases hreg
  · intro draft cursor hlocated
    refine Registry.lookUp_after_of_ne fun reg hreg key hkey => ?_
    obtain ⟨registration, hmem, hreg⟩ := List.mem_filterMap.mp hreg
    have hspares := h registration hmem
    cases registration with
    | fragmentizer languageId factory => cases hreg
    | builder languageId factory =>
        obtain rfl := Option.some.inj hreg
        exact hspares draft cursor hlocated key hkey

/-! ## Dialects that a request comes to -/

/-- What the factory makes that was found, and without one, what stands in for it. -/
def made (found? : Option (Host σ α)) (making : Call) (plain : α) : Action σ α :=
  match found? with
  | some factory => Action.ask making factory
  | none => pure plain

def splitBy (found? : Option (Fragmentizer.Factory σ)) (doc : Document) :
    Action (Workspace σ) (List Draft) :=
  onHost do
    let fragmentizer ← made found? (.makeFragmentizer doc.languageId) (.plain (.text plaintext))
    fragmentizer.fragmentize doc.text doc.settings

def annotateBy (found? : Option (Builder.Factory σ)) (doc : Document) (draft : Draft) :
    Action (Workspace σ) Annotated := do
  let plainText ← onHost do
    let builder ← made found? (.makeBuilder draft.languageId) .plain
    builder.plainTextOf draft.settings draft.code
  return ⟨plainText, draft, doc⟩

theorem fragmentize_alike {doc : Document} {key : Key} (hkey : doc.languageId.key = .ok key)
    (w : Workspace σ) :
    (fragmentize doc w).Alike (splitBy (w.fragmentizers.find? key) doc w) := by
  rw [fragmentize, Action.read_id_bind, Document.fragments, Fragmentizer.make,
    Registry.lookUp_of_key hkey]
  cases w.fragmentizers.find? key with
  | some factory => exact ⟨rfl, rfl, rfl⟩
  | none =>
      -- The record that there is no fragmentizer comes first.
      refine Outcome.Alike.onHost ?_
      exact Action.alike_log_bind _ _ _ (fun _ =>
        (Fragmentizer.plain (.text plaintext)).fragmentize doc.text doc.settings) _

theorem annotate_alike (doc : Document) {draft : Draft} {key : Key}
    (hkey : draft.languageId.key = .ok key) (w : Workspace σ) :
    (annotate doc draft w).Alike (annotateBy (w.builders.find? key) doc draft w) := by
  rw [annotate, Action.read_id_bind, Draft.plainText, Builder.make, Registry.lookUp_of_key hkey]
  cases w.builders.find? key with
  | some factory => exact ⟨rfl, rfl, rfl⟩
  | none =>
      refine Outcome.Alike.bind (Outcome.Alike.onHost ?_) _
      exact Action.alike_log_bind _ _ _
        (fun _ => Builder.plain.plainTextOf draft.settings draft.code) _

theorem result_splitBy_none (doc : Document) (w : Workspace σ) :
    (splitBy none doc w).result =
      .ok [⟨.text plaintext, .text doc.text, .int 0, doc.settings⟩] := rfl

theorem result_annotateBy_none (doc : Document) (draft : Draft) (w : Workspace σ) :
    (annotateBy none doc draft w).result =
      (draft.code.textOr (.misfit .notText)).map fun text => ⟨.text text, draft, doc⟩ := by
  rw [annotateBy, Action.result_bind_map fun _ _ => rfl]
  show Except.map _ (Builder.plain.plainTextOf _ _ w.surroundings.host).result = _
  rw [Builder.plainTextOf, Action.result_bind_of_ok (a := ()) rfl,
    Action.result_bind_of_ok (a := ()) rfl, Builder.finish,
    Action.result_bind_of_ok (a := ()) rfl, Action.result_bind_map fun _ _ => rfl]
  cases draft.code.textOr (Fault.misfit .notText) <;> rfl

/-! ## Languages that are named -/

/-- The workspace with other builders, and with another resolver under a number. -/
def replacing (w : Workspace σ) (builders : Registry (Builder.Factory σ)) (id : Nat)
    (resolver : Resolver σ) : Workspace σ :=
  { w with builders, resolvers := w.resolvers.set id resolver }

theorem resolve_of_explicit (resolver : Nat) {settings : Settings} {w : Workspace σ}
    (hasks : w.config.asksForDetection settings.language = false) (plainText : Value) :
    resolve resolver plainText settings w = ⟨.ok settings.named?, w, []⟩ := by
  rw [resolve, Action.read_id_bind, Resolver.resolve_of_explicit hasks]
  show Outcome.mk _ { w with resolvers := w.resolvers.set _ (w.resolvers.row resolver) } _ = _
  rw [Table.set_row]
  rfl

/-- Where the language is named, all that counts of annotating is that it ends well, and
what it leaves to be listed. -/
theorem result_completeIn_of_explicit {engine : Engine} {doc : Document} {draft : Draft}
    {annotated : Annotated} {w : Workspace σ}
    (hannotated : (annotate doc draft w).result = .ok annotated)
    (hasks : w.config.asksForDetection draft.settings.language = false) (cursor : Value) :
    (completeIn engine doc draft cursor w).result =
      match draft.settings.named? with
      | none => .ok []
      | some language => (wordIn draft.code cursor).bind fun word =>
          candidatesOf word draft.settings.dictionary
            ((annotate doc draft w).state.listedNow engine.cache language) := by
  have hasks' : (annotate doc draft w).state.config.asksForDetection draft.settings.language =
      false := by
    rw [(keeps_annotate doc draft w).config]
    exact hasks
  have hresolve := resolve_of_explicit engine.resolver hasks' annotated.plainText
  rw [completeIn, Action.result_bind_of_ok hannotated,
    Action.result_bind_of_ok (congrArg Outcome.result hresolve), hresolve]
  cases draft.settings.named? with
  | none => rfl
  | some language => exact result_candidates_eq engine.cache draft cursor language _

theorem listedNow_of_agrees {w w' : Workspace σ} {cache : Nat} (hconfig : w'.config = w.config)
    (hcache : w'.caches.row cache = w.caches.row cache)
    (hloader : (w.caches.row cache).loader.Agrees w.surroundings w'.surroundings)
    (language : Value) : w'.listedNow cache language = w.listedNow cache language := by
  unfold listedNow
  cases language.text? with
  | none => rfl
  | some code =>
      rw [hconfig, hcache]
      exact (Cache.listNow_of_agrees hloader code).symm

theorem result_complete_replacing {engine : Engine} {doc : Document} {position : Position}
    {w : Workspace σ} {draft : Draft} {cursor : Value} {builders : Registry (Builder.Factory σ)}
    {resolver : Resolver σ} {annotated annotated' : Annotated}
    (hlocated : w.located? doc position = some (draft, cursor))
    (hasks : w.config.asksForDetection draft.settings.language = false)
    (htold : (annotate doc draft (fragmentize doc w).state).result = .ok annotated)
    (htold' : (annotate doc draft
      (fragmentize doc (w.replacing builders engine.resolver resolver)).state).result =
        .ok annotated')
    (hloader : ∀ load, (w.caches.row engine.cache).loader = .custom load →
      (w.caches.row engine.cache).loader.Agrees
        (annotate doc draft (fragmentize doc w).state).state.surroundings
        (annotate doc draft (fragmentize doc
          (w.replacing builders engine.resolver resolver)).state).state.surroundings) :
    (complete engine doc position (w.replacing builders engine.resolver resolver)).result =
      (complete engine doc position w).result := by
  obtain ⟨o, hoffset, hfound⟩ := exists_offset_of_located hlocated
  have hfound' : (w.replacing builders engine.resolver resolver).found? doc o =
      some (draft, cursor) := hfound
  have hsplit := keeps_fragmentize doc w
  have hsplit' := keeps_fragmentize doc (w.replacing builders engine.resolver resolver)
  have hkept := hsplit.trans (keeps_annotate doc draft _)
  have hkept' := hsplit'.trans (keeps_annotate doc draft _)
  have hagrees := Loader.agrees_of_sameShelves (hkept.shelves.symm.trans hkept'.shelves) hloader
  rw [result_complete_of_found hoffset hfound, result_complete_of_found hoffset hfound',
    result_completeIn_of_explicit htold (by rw [hsplit.config]; exact hasks),
    result_completeIn_of_explicit htold' (by rw [hsplit'.config]; exact hasks)]
  cases draft.settings.named? with
  | none => rfl
  | some language =>
      have hcache : (annotate doc draft (fragmentize doc
          (w.replacing builders engine.resolver resolver)).state).state.caches.row engine.cache =
            (annotate doc draft (fragmentize doc w).state).state.caches.row engine.cache := by
        rw [hkept'.caches, hkept.caches]
        rfl
      have hlisted := listedNow_of_agrees (hkept'.config.trans hkept.config.symm) hcache
        (by rw [hkept.caches]; exact hagrees) language
      simp only [hlisted]

/-- **Registrations act on their own dialects.** Whatever is registered: a request does
not notice what is registered for other dialects than those that it comes to. What splits
the document, and what makes plain text of a fragment, is the latest of what was
registered for its dialect; without that, the whole text is one fragment of plain text,
and its code is the plain text of a fragment. Where the fragment that is found names its
language, other builders and another detector give the same answer, as long as no builder
ends in a fault or makes a difference to a loader of the host's own. -/
theorem complete_registering (engine : Engine) (doc : Document) (position : Position)
    (w : Workspace σ) (regs : List (Registration σ)) :
    let now := w.registering regs
    let fragmentizerOf key := (Registry.latest? key
      (regs.filterMap Registration.fragmentizer?)).or (w.fragmentizers.find? key)
    let builderOf key := (Registry.latest? key
      (regs.filterMap Registration.builder?)).or (w.builders.find? key)
    ((∀ reg ∈ regs, reg.Spares w doc position) →
      (complete engine doc position now).result = (complete engine doc position w).result ∧
      (complete engine doc position now).events = (complete engine doc position w).events) ∧
    (∀ key, doc.languageId.key = .ok key →
      (fragmentize doc now).Alike (splitBy (fragmentizerOf key) doc now) ∧
      (fragmentizerOf key = none → (fragmentize doc now).result =
        .ok [⟨.text plaintext, .text doc.text, .int 0, doc.settings⟩])) ∧
    (∀ draft key, draft.languageId.key = .ok key →
      (annotate doc draft now).Alike (annotateBy (builderOf key) doc draft now) ∧
      (builderOf key = none → (annotate doc draft now).result =
        (draft.code.textOr (.misfit .notText)).map fun text => ⟨.text text, draft, doc⟩)) ∧
    ∀ draft cursor builders resolver, w.located? doc position = some (draft, cursor) →
      w.config.asksForDetection draft.settings.language = false →
      let other := w.replacing builders engine.resolver resolver
      let told := annotate doc draft (fragmentize doc w).state
      let told' := annotate doc draft (fragmentize doc other).state
      (∃ annotated, told.result = .ok annotated) → (∃ annotated, told'.result = .ok annotated) →
      let loader := (w.caches.row engine.cache).loader
      (∀ load, loader = .custom load →
        loader.Agrees told.state.surroundings told'.state.surroundings) →
      (complete engine doc position other).result = (complete engine doc position w).result := by
  intro now fragmentizerOf builderOf
  have hnow : now = (registered regs).apply w := registering_eq w regs
  have hfragmentizers (key : Key) : now.fragmentizers.find? key = fragmentizerOf key := by
    rw [hnow]
    exact Registry.find?_after _ _ key
  have hbuilders (key : Key) : now.builders.find? key = builderOf key := by
    rw [hnow]
    exact Registry.find?_after _ _ key
  refine ⟨fun hspares => ?_, fun key hkey => ?_, fun draft key hkey => ?_, ?_⟩
  · have hoverlooks := overlooks_registered engine hspares
    rw [hnow, hoverlooks]
    exact ⟨rfl, rfl⟩
  · have halike := fragmentize_alike hkey now
    rw [hfragmentizers] at halike
    refine ⟨halike, fun hnone => ?_⟩
    rw [halike.result, hnone, result_splitBy_none]
  · have halike := annotate_alike doc hkey now
    rw [hbuilders] at halike
    refine ⟨halike, fun hnone => ?_⟩
    rw [halike.result, hnone, result_annotateBy_none]
  · rintro draft cursor builders resolver hlocated hasks other told told' ⟨annotated, htold⟩
      ⟨annotated', htold'⟩ loader hloader
    exact result_complete_replacing hlocated hasks htold htold' hloader

/-- What is registered for the dialect of the fragment as a fragmentizer, or for that of
the document as a builder, does not show, although it is in trouble. Neither do another
builder for the fragment and a detector that is in trouble. -/
theorem complete_registering_crosswise :
    let trouble : Trouble := ⟨.other "ValueError", "no markup"⟩
    let markdown : Fragmentizer.Factory Unit := Host.pure (.custom fun _ settings =>
      Host.pure [⟨.text "tex", .text "tri", .int 2, settings⟩])
    let shouting : Builder.Factory Unit := Host.pure
      (.custom (fun _ => Host.pure ()) (fun _ => Host.pure ()) (Host.pure (.text "TRI")))
    let deaf : Detector Unit :=
      ⟨fun _ _ => ⟨.error trouble, (), ""⟩, fun _ _ _ _ => ⟨.error trouble, (), ""⟩⟩
    let w : Workspace Unit :=
      { bundled := "lists", surroundings := { host := () },
        fragmentizers := Fragmentizer.initial.register (.text "md") markdown,
        caches := (Table.filled default).set 0 ⟨.memory 0, [("en", ["tree", "trip"])]⟩ }
    let doc : Document := ⟨"a tri x", .text "md", Settings.of "en" ["triangle"]⟩
    let draft : Draft := ⟨.text "tex", .text "tri", .int 2, doc.settings⟩
    let regs : List (Registration Unit) :=
      [.fragmentizer (.text "tex") fun _ => ⟨.error trouble, (), ""⟩,
        .builder (.text "md") fun _ => ⟨.error trouble, (), ""⟩,
        .builder (.text plaintext) fun _ => ⟨.error trouble, (), ""⟩]
    let other := w.replacing (w.builders.register (.text "tex") shouting) 0
      { detector := some deaf }
    (∀ reg ∈ regs, reg.Spares w doc (Position.of 0 4)) ∧
      (complete ⟨0, 0⟩ doc (Position.of 0 4) (w.registering regs)).result =
        .ok ["triangle", "tree", "trip"] ∧
      (fragmentize doc (w.registering regs)).result = .ok [draft] ∧
      (annotate doc draft (w.registering regs)).result = .ok ⟨.text "tri", draft, doc⟩ ∧
      (complete ⟨0, 0⟩ doc (Position.of 0 4) other).result =
        .ok ["triangle", "tree", "trip"] := by
  intro trouble markdown shouting deaf w doc draft regs other
  have hlocated : w.located? doc (Position.of 0 4) = some (draft, .int 2) := by
    have hoffset : doc.offsetAt (Position.of 0 4) = .ok 4 := by decide +kernel
    let f : Fragment := ⟨.text "tex", "tri", 2, doc.settings⟩
    have hsplit : (fragmentize doc w).result = .ok ([f].map Fragment.draft) := rfl
    have hcovers : f.contains (4 : Nat) = true := by decide
    rw [located?_of_offset hoffset, found?_of_split hsplit, Fragment.locate_singleton hcovers]
    rfl
  have hplain : (complete ⟨0, 0⟩ doc (Position.of 0 4) w).result =
      .ok ["triangle", "tree", "trip"] := by decide +kernel
  have hspares : ∀ reg ∈ regs, reg.Spares w doc (Position.of 0 4) := by
    simp only [regs, List.forall_mem_cons]
    refine ⟨?_, ?_, ?_, fun reg hreg => absurd hreg List.not_mem_nil⟩
    · intro key hkey
      obtain rfl := Except.ok.inj hkey
      decide
    all_goals
      intro found cursor hfound key hkey
      obtain rfl := Except.ok.inj hkey
      rw [hlocated] at hfound
      obtain ⟨rfl, rfl⟩ := Prod.mk.inj (Option.some.inj hfound)
      decide
  obtain ⟨hothers, hsplit, hbuild, hnamed⟩ :=
    complete_registering ⟨0, 0⟩ doc (Position.of 0 4) w regs
  refine ⟨hspares, ?_, ?_, ?_, ?_⟩
  · rw [(hothers hspares).1, hplain]
  · rw [(hsplit (.text "md") rfl).1.result]
    rfl
  · exact (hbuild draft (.text "tex") rfl).2 rfl
  · have hagain := hnamed draft (.int 2) (w.builders.register (.text "tex") shouting)
      { detector := some deaf } hlocated rfl ⟨_, rfl⟩ ⟨_, rfl⟩ fun load hload => by cases hload
    rw [hagain, hplain]

end Workspace

end Typeahead
