import Typeahead.Proofs.Workspace.Mirrors
import Typeahead.Proofs.Workspace.Requests
import Typeahead.Proofs.Workspace.Shared

/-!
# The cache does not show

Engines share a cache over a steady loader: they are asked for candidates, the cache
is asked for lists, and its lists are forgotten, in any order. Main statement:
`result_run_eq_fresh`. Each answer, be it a fault, is the one that a new engine over
a new cache gives, so it does not depend on what was asked before.
-/

namespace Typeahead

namespace Workspace

open Typeahead.Resource
open Typeahead.Text

variable {σ : Type}

/-! ## Uses of one cache -/

/-- What is done with a cache that engines share. -/
inductive Use where
  | complete (resolver : Nat) (doc : Document) (position : Position)
  | get (code : Value)
  | clear

def Use.run (cache : Nat) : Use → Action (Workspace σ) (List String)
  | .complete resolver doc position => Workspace.complete ⟨resolver, cache⟩ doc position
  | .get code => wordsOf cache code
  | .clear => do
    clearCache cache
    return []

/-- The same use of a new cache over a loader, by a new engine over that, whose detector a
factory makes. -/
def Use.fresh (loader : Loader σ) (factoryOf : Nat → Option (Host σ (Detector σ)))
    (verbose? : Option Bool) (use : Use) : Action (Workspace σ) (List String) := do
  let cache ← newCache loader
  match use with
  | .complete resolver doc position => do
    let engine ← newEngine (factoryOf resolver) (some cache) verbose?
    Workspace.complete engine doc position
  | .get code => wordsOf cache code
  | .clear => return []

def afterUses (w : Workspace σ) (cache : Nat) (uses : List Use) : Workspace σ :=
  uses.foldl (fun w use => (use.run cache w).state) w

theorem afterUses_concat (w : Workspace σ) (cache : Nat) (uses : List Use) (use : Use) :
    w.afterUses cache (uses ++ [use]) = (use.run cache (w.afterUses cache uses)).state := by
  rw [afterUses, List.foldl_append]
  rfl

/-- Where a cache was empty, forgetting its lists leaves what later requests go by. -/
theorem Follows.clear {w w' : Workspace σ} (h : w.Follows w') {cache : Nat}
    (hempty : (w.caches.row cache).lists = []) : w.Follows (clearCache cache w').state where
  config := h.config
  fragmentizers := h.fragmentizers
  builders := h.builders
  detector := h.detector
  shelves := h.shelves
  loader id := by
    show ((w'.caches.set cache _).row id).loader = _
    by_cases hid : id = cache
    · rw [hid, Table.row_set_self, ← h.loader cache]
      rfl
    · rw [Table.row_set_of_ne _ _ hid, h.loader id]
  lists id hsteady code := by
    show ((w'.caches.set cache _).row id).listNow w'.config code w'.surroundings = _
    by_cases hid : id = cache
    · -- What is left of the cache is what it was in the beginning.
      subst hid
      have hcleared : (w'.caches.row id).clear = w.caches.row id := by
        rw [Cache.clear, h.loader id, ← hempty]
      rw [Table.row_set_self, hcleared, h.config]
      exact Cache.listNow_of_steady hsteady h.shelves code
    · rw [Table.row_set_of_ne _ _ hid]
      exact h.lists id hsteady code

/-- **One use** of a cache that was empty leaves what later requests go by. -/
theorem Follows.run {w w' : Workspace σ} (h : w.Follows w') {cache : Nat}
    (hempty : (w.caches.row cache).lists = []) (use : Use) :
    w.Follows (use.run cache w').state := by
  cases use with
  | complete resolver doc position => exact h.trans (keeps_complete _ doc position w')
  | get code => exact h.trans (keeps_wordsOf cache code w')
  | clear => exact h.clear hempty

/-- **Any number of uses** of a cache that was empty leave what later requests go by. -/
theorem follows_afterUses {w : Workspace σ} {cache : Nat}
    (hempty : (w.caches.row cache).lists = []) (uses : List Use) :
    w.Follows (w.afterUses cache uses) := by
  induction uses using List.reverseRecOn with
  | nil => exact .refl w
  | append_singleton uses use ih =>
      rw [afterUses_concat]
      exact ih.run hempty use

/-! ## New engines -/

/-- The workspace in which a resolver was added and the host and the root log may be in
another state. -/
def adding (w : Workspace σ) (resolver : Resolver σ) (host : σ) (rootLog : RootLog) :
    Workspace σ :=
  { w with
    rootLog
    resolvers := w.resolvers.push resolver
    surroundings := { w.surroundings with host } }

theorem listedNow_adding {w : Workspace σ} (resolver : Resolver σ) (host : σ) (rootLog : RootLog)
    {cache : Nat} (hsteady : (w.caches.row cache).loader.Steady w.surroundings)
    (language : Value) :
    (w.adding resolver host rootLog).listedNow cache language = w.listedNow cache language :=
  have hconfig : (w.adding resolver host rootLog).config = w.config := rfl
  have hcache : (w.adding resolver host rootLog).caches.row cache = w.caches.row cache := rfl
  listedNow_eq hconfig hcache hsteady ⟨rfl, rfl, fun _ => rfl⟩ language

/-- A new resolver has a detector that agrees with that of one made before. -/
theorem exists_newResolver {resolver : Resolver σ} {factory? : Option (Host σ (Detector σ))}
    (h : resolver.MadeBy factory?) (w : Workspace σ) :
    (newResolver factory? w).result = .ok w.resolvers.size ∧
      ∃ made host, (newResolver factory? w).state = w.adding made host w.rootLog ∧
        Option.Rel Detector.Agrees resolver.detector made.detector := by
  cases factory? with
  | none =>
      have hnone : resolver.detector = none := h
      rw [hnone]
      exact ⟨rfl, {}, w.surroundings.host, rfl, .none⟩
  | some factory =>
      obtain ⟨detector, hdetector, hmakes⟩ := h
      obtain ⟨made, hmade, hagrees⟩ := hmakes w.surroundings.host
      have hresult : (onHost (Resolver.make (some factory)) w).result =
          .ok { detector := some made } := by
        show (Resolver.make (some factory) w.surroundings.host).result = _
        rw [Resolver.make, Action.result_bind_map fun _ _ => rfl]
        show Except.map _ ((factory w.surroundings.host).answer.mapError _) = _
        rw [hmade]
        rfl
      rw [newResolver, Action.bind_of_ok hresult]
      refine ⟨rfl, { detector := some made },
        (onHost (Resolver.make (some factory)) w).state.surroundings.host, rfl, ?_⟩
      rw [hdetector]
      exact .some hagrees

/-- A new engine over a cache has a detector that agrees with that of one made
before, and leaves the rest as it was, but for the host and the root log. -/
theorem exists_newEngine {resolver : Resolver σ} {factory? : Option (Host σ (Detector σ))}
    (h : resolver.MadeBy factory?) (cache : Nat) (verbose? : Option Bool) (w : Workspace σ) :
    (newEngine factory? (some cache) verbose? w).result = .ok ⟨w.resolvers.size, cache⟩ ∧
      ∃ made host rootLog,
        (newEngine factory? (some cache) verbose? w).state = w.adding made host rootLog ∧
        Option.Rel Detector.Agrees resolver.detector made.detector := by
  -- The root log is configured without a fault, if at all.
  have hrest (w' : Workspace σ) :
      let outcome := (do return ⟨← newResolver factory?, cache⟩ : Action (Workspace σ) Engine) w'
      outcome.result = .ok ⟨w'.resolvers.size, cache⟩ ∧
        ∃ made host rootLog, outcome.state = w'.adding made host rootLog ∧
          Option.Rel Detector.Agrees resolver.detector made.detector := by
    obtain ⟨hresult, made, host, hstate, hagrees⟩ := exists_newResolver h w'
    rw [Action.bind_of_ok hresult]
    exact ⟨rfl, made, host, w'.rootLog, hstate, hagrees⟩
  rw [newEngine, Action.read_id_bind]
  split
  · have hlog : (onRootLog (RootLog.setup (.int RootLog.info)) w).result = .ok () :=
      RootLog.result_setup_info w.rootLog
    rw [Action.bind_of_ok hlog]
    obtain ⟨hresult, made, host, rootLog, hstate, hagrees⟩ :=
      hrest (onRootLog (RootLog.setup (.int RootLog.info)) w).state
    exact ⟨hresult, made, host, rootLog, hstate, hagrees⟩
  · exact hrest w

/-! ## The answers -/

theorem Follows.listedNow {w w' : Workspace σ} (h : w.Follows w') {cache : Nat}
    (hsteady : (w.caches.row cache).loader.Steady w.surroundings) (language : Value) :
    w'.listedNow cache language = w.listedNow cache language := by
  unfold Workspace.listedNow
  cases language.text? with
  | none => rfl
  | some code => exact h.lists cache hsteady code

/-- An engine over a cache answers like a new one over a new cache. -/
theorem mirrors_of_follows {created after : Workspace σ} {resolver cache : Nat}
    (h : created.Follows after)
    (hsteady : (created.caches.row cache).loader.Steady created.surroundings)
    {made : Resolver σ}
    (hagrees : Option.Rel Detector.Agrees (created.resolvers.row resolver).detector made.detector)
    (host : σ) (rootLog : RootLog) :
    Mirrors ⟨resolver, cache⟩ ⟨created.resolvers.size, cache⟩ after
      (created.adding made host rootLog) where
  config := h.config.symm
  fragmentizers := h.fragmentizers.symm
  builders := h.builders.symm
  detector := by
    rw [h.detector]
    show Option.Rel _ _ ((created.resolvers.push made).row created.resolvers.size).detector
    rw [Table.row_push_self]
    exact hagrees
  steady := by
    rw [h.loader]
    exact hsteady.of_sameShelves h.shelves
  steady' := hsteady.of_sameShelves ⟨rfl, rfl, fun _ => rfl⟩
  listed language := by
    rw [h.listedNow hsteady]
    exact (listedNow_adding made host rootLog hsteady language).symm

/-- **The cache does not show.** A cache is made over a steady loader, and is used any
number of times: engines are asked for candidates, the cache is asked for lists, its
lists are forgotten. What the factories hand out starts afresh, and detectors are
functions of their input. Then each answer, also when it is a fault, is the one that
a new engine over a new cache gives. -/
theorem result_run_eq_fresh (loader : Loader σ)
    (factoryOf : Nat → Option (Host σ (Detector σ))) (verbose? : Option Bool) (w : Workspace σ)
    (hsteady : loader.Steady w.surroundings) (hrepeatable : w.Repeatable)
    (hmade : ∀ resolver, (w.resolvers.row resolver).MadeBy (factoryOf resolver)) :
    ∃ cache, (newCache loader w).result = .ok cache ∧
      ∀ (before : List Use) (use : Use),
        (use.run cache ((newCache loader w).state.afterUses cache before)).result =
          (use.fresh loader factoryOf verbose? w).result := by
  have hcache : (newCache loader w).result = .ok w.caches.size := rfl
  have hrow : (newCache loader w).state.caches.row w.caches.size = { loader } :=
    Table.row_push_self _ _
  refine ⟨w.caches.size, hcache, fun before use => ?_⟩
  have hfollows := follows_afterUses (w := (newCache loader w).state) (by rw [hrow]) before
  have hsteady' : ((newCache loader w).state.caches.row w.caches.size).loader.Steady
      (newCache loader w).state.surroundings := by
    rw [hrow]
    exact hsteady
  rw [Use.fresh, Action.result_bind_of_ok hcache]
  cases use with
  | complete resolver doc position =>
      obtain ⟨hengine, made, host, rootLog, hstate, hagrees⟩ :=
        exists_newEngine (hmade resolver) w.caches.size verbose? (newCache loader w).state
      show _ = ((newEngine (factoryOf resolver) (some w.caches.size) verbose? >>= _) _).result
      rw [Action.result_bind_of_ok hengine, hstate]
      exact (mirrors_of_follows hfollows hsteady' hagrees host rootLog).complete_alike
        (hrepeatable.of_same hfollows.fragmentizers hfollows.builders) doc position
  | get code =>
      show (wordsOf _ code _).result = (wordsOf _ code _).result
      rw [result_wordsOf, result_wordsOf, hfollows.listedNow hsteady']
  | clear => rfl

/-- A builder that collects what it is fed in the state of the host, a detector that
goes by the text, and a loader that keeps count and is in trouble for most names:
whatever was asked before, the same is found, and the same trouble is met. -/
theorem result_run_eq_fresh_collecting :
    let collecting : Builder.Factory String := fun _ =>
      ⟨.ok (.custom (fun _ => Host.pure ()) (fun code host => ⟨.ok (), host ++ code.shown, ""⟩)
        fun host => ⟨.ok (.text host), host, ""⟩), "", ""⟩
    let detector : Detector String :=
      ⟨Host.pure, fun text _ _ => Host.pure (if text.isEmpty then none else some (.of "en" "" ""))⟩
    let trouble : Trouble := ⟨.other "ValueError", "no such list"⟩
    let loader : Loader String := .custom fun name host =>
      ⟨if name.text? = some "completionList.en.txt" then .ok (some (Utf8.encode "tea\ntree".toList))
        else .error trouble, host ++ "x", ""⟩
    let w : Workspace String :=
      { bundled := "lists", surroundings := { host := "" },
        builders := Builder.initial.register (.text plaintext) collecting,
        resolvers := (Table.filled {}).set 0 { detector := some detector } }
    let doc : Document := ⟨"a t.", .text plaintext, Settings.of "auto" ["ten"]⟩
    ∀ before : List Use,
      let after := (newCache loader w).state.afterUses 0 before
      ((Use.complete 0 doc (Position.of 0 3)).run 0 after).result = .ok ["ten", "tea", "tree"] ∧
        ((Use.get (.text "fr")).run 0 after).result = .error (.collaborator trouble) := by
  intro collecting detector trouble loader w doc before after
  have hrepeatable : w.Repeatable := by
    constructor
    · refine Registry.forall_find? fun entry hentry => ?_
      obtain rfl := List.mem_singleton.mp hentry
      exact fun _ _ _ _ _ => rfl
    · refine Registry.forall_find? fun entry hentry => ?_
      obtain rfl : entry = (.text plaintext, collecting) := by
        simpa [w, Registry.register, Builder.initial] using hentry
      exact fun _ _ _ _ _ => rfl
  have hmade (resolver : Nat) : (w.resolvers.row resolver).MadeBy
      (if resolver = 0 then some (Host.pure detector) else none) := by
    by_cases hzero : resolver = 0
    · subst hzero
      exact ⟨detector, rfl, Host.answers_pure ⟨fun _ _ _ => rfl, fun _ _ _ => rfl⟩⟩
    · rw [if_neg hzero]
      show ((Table.set (Table.filled ({} : Resolver String)) 0 _).row resolver).detector = none
      rw [Table.row_set_of_ne _ _ hzero]
      rfl
  obtain ⟨cache, hcache, h⟩ := result_run_eq_fresh loader _ none w (fun _ _ _ => rfl)
    hrepeatable hmade
  obtain rfl : 0 = cache := Except.ok.inj hcache
  refine ⟨(h before _).trans ?_, (h before _).trans ?_⟩
  · decide +kernel
  · decide +kernel

end Workspace

end Typeahead
