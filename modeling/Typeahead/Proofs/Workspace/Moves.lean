import Typeahead.Proofs.Workspace.Calls

/-!
# What happens to caches

Of all that an action does to a workspace, the part that concerns caches and their
users, as moves of a small machine. Each action of the workspace does a few moves,
and loads what these load. Main statements: `Does.bind` and `does_complete`. What holds
of caches is then shown move by move.
-/

namespace Typeahead

/-! ## Loads -/

def Call.loaded? : Call → Option Value
  | .load name => some name
  | _ => none

def Event.loads (events : List Event) : List Value :=
  (calls events).filterMap Call.loaded?

theorem Event.loads_append (events more : List Event) :
    loads (events ++ more) = loads events ++ loads more := by
  simp [loads, calls]

theorem Event.mem_loads {name : Value} {events : List Event} :
    name ∈ loads events ↔ .load name ∈ calls events := by
  rw [loads, List.mem_filterMap]
  constructor
  · rintro ⟨c, hc, hloaded⟩
    cases c <;> cases hloaded
    exact hc
  · intro h
    exact ⟨_, h, rfl⟩

theorem Outcome.Tells.loads_eq_nil {σ α : Type} {o : Outcome σ α} {ranks : List Nat}
    {asked : List Asked} (h : o.Tells ranks asked) (hload : 9 ∉ ranks) :
    Event.loads o.events = [] := by
  rw [List.eq_nil_iff_forall_not_mem]
  intro name hname
  rw [Event.mem_loads, h.calls] at hname
  exact hload (h.rank_mem hname)

namespace Workspace

open Typeahead.Resource

variable {σ α β : Type}

/-! ## The machine -/

/-- The part of a workspace that caches and their users go by. -/
structure Standing (σ : Type) where
  config : Config
  caches : Table (Cache σ)
  sharedCache : Option Nat
  sharedEngine : Option Engine

def standing (w : Workspace σ) : Standing σ :=
  ⟨w.config, w.caches, w.sharedCache, w.sharedEngine⟩

/-- Something that happens to caches or their users. -/
inductive Move (σ : Type) where
  | make (loader : Loader σ)
  /-- The process-wide cache is made. -/
  | share (loader : Loader σ)
  /-- The shared engine is made. -/
  | install (engine : Engine)
  /-- The list of a code is loaded and kept. -/
  | keep (cache : Nat) (code name : String) (list : List String)
  /-- The list of a code is loaded in vain. -/
  | miss (cache : Nat) (code name : String)
  | forget (cache : Nat)
  | configure (config : Config)

namespace Move

def loaded? : Move σ → Option Value
  | .keep _ _ name _ => some (.text name)
  | .miss _ _ name => some (.text name)
  | _ => none

/-- Where a move can be made. Only what is not there is made or loaded. -/
def Fits (s : Standing σ) : Move σ → Prop
  | .share _ => s.sharedCache = none
  | .install engine => s.sharedEngine = none ∧ s.sharedCache = some engine.cache
  | .keep cache code name _ | .miss cache code name =>
    WordList.isCode code = true ∧ (s.caches.row cache).find? code = none ∧
      s.config.nameOf code = .ok name
  | _ => True

def Reads (cache : Nat) : Move σ → Prop
  | .keep cache' _ _ _ => cache' = cache
  | .miss cache' _ _ => cache' = cache
  | _ => False

end Move

def Standing.after (s : Standing σ) : Move σ → Standing σ
  | .make loader => { s with caches := s.caches.push { loader } }
  | .share loader =>
    { s with caches := s.caches.push { loader }, sharedCache := some s.caches.size }
  | .install engine => { s with sharedEngine := some engine }
  | .keep cache code _ list =>
    { s with caches := s.caches.set cache ((s.caches.row cache).keep code list) }
  | .miss _ _ _ => s
  | .forget cache => { s with caches := s.caches.set cache (s.caches.row cache).clear }
  | .configure config => { s with config }

inductive Standing.Leads : Standing σ → List (Move σ) → Standing σ → Prop
  | nil (s : Standing σ) : Leads s [] s
  | cons {s t : Standing σ} {m : Move σ} {moves : List (Move σ)} :
      m.Fits s → Leads (s.after m) moves t → Leads s (m :: moves) t

theorem Standing.Leads.append {s t u : Standing σ} {moves more : List (Move σ)}
    (h : s.Leads moves t) (hmore : t.Leads more u) : s.Leads (moves ++ more) u := by
  induction h with
  | nil s => exact hmore
  | cons hfits _ ih => exact .cons hfits (ih hmore)

theorem Standing.Leads.single {s : Standing σ} {m : Move σ} (h : m.Fits s) :
    s.Leads [m] (s.after m) :=
  .cons h (.nil _)

/-- **What each move keeps**, all of them keep. -/
theorem Standing.Leads.invariant {P : Standing σ → Prop} {s t : Standing σ}
    {moves : List (Move σ)} (h : s.Leads moves t) (hs : P s)
    (hstep : ∀ m ∈ moves, ∀ u, m.Fits u → P u → P (u.after m)) : P t := by
  induction h with
  | nil s => exact hs
  | @cons s t m moves hfits _ ih =>
      have hnext : P (s.after m) := hstep m List.mem_cons_self s hfits hs
      exact ih hnext fun m' hm' => hstep m' (List.mem_cons_of_mem m hm')

/-- A move is made between two parts of the way. -/
theorem Standing.Leads.exists_of_mem {s t : Standing σ} {moves : List (Move σ)} {m : Move σ}
    (h : s.Leads moves t) (hm : m ∈ moves) :
    ∃ before behind u, moves = before ++ m :: behind ∧ s.Leads before u ∧ m.Fits u ∧
      (u.after m).Leads behind t := by
  induction h with
  | nil s => cases hm
  | @cons s t first rest hfits hrest ih =>
      rcases List.mem_cons.mp hm with rfl | hm
      · exact ⟨[], rest, s, rfl, .nil s, hfits, hrest⟩
      · obtain ⟨before, behind, u, rfl, hbefore, hfits', hbehind⟩ := ih hm
        exact ⟨first :: before, behind, u, rfl, .cons hfits hbefore, hfits', hbehind⟩

/-! ## Lists that are kept -/

/-- Only a list that was missing is kept, so those that were there stay. -/
theorem find?_after_keep {s : Standing σ} {cache cache' : Nat} {code code' name : String}
    {list list' : List String} (hfits : (Move.keep cache' code' name list').Fits s)
    (hfind : (s.caches.row cache).find? code = some list) :
    ((s.after (.keep cache' code' name list')).caches.row cache).find? code = some list := by
  show ((s.caches.set cache' _).row cache).find? code = some list
  by_cases hcache : cache = cache'
  · subst hcache
    have hcode : code ≠ code' := by
      rintro rfl
      rw [hfits.2.1] at hfind
      cases hfind
    rw [Table.row_set_self, Cache.find?_keep_of_ne _ _ hcode, hfind]
  · rw [Table.row_set_of_ne _ _ hcache, hfind]

/-- **A list that is kept stays**, until the cache forgets its lists. -/
theorem Standing.Leads.find?_eq {s t : Standing σ} {moves : List (Move σ)} (h : s.Leads moves t)
    {cache : Nat} {code : String} {list : List String} (hsize : cache < s.caches.size)
    (hforget : .forget cache ∉ moves) (hfind : (s.caches.row cache).find? code = some list) :
    (t.caches.row cache).find? code = some list := by
  have hkept : cache < t.caches.size ∧ (t.caches.row cache).find? code = some list := by
    refine h.invariant (P := fun u => cache < u.caches.size ∧
      (u.caches.row cache).find? code = some list) ⟨hsize, hfind⟩ ?_
    rintro m hm u hfits ⟨hsize, hfind⟩
    have hpush (loader : Loader σ) : cache < (u.caches.push { loader }).size ∧
        ((u.caches.push { loader }).row cache).find? code = some list := by
      rw [Table.row_push_of_ne _ _ (Nat.ne_of_lt hsize)]
      exact ⟨Nat.lt_succ_of_lt hsize, hfind⟩
    cases m with
    | make loader => exact hpush loader
    | share loader => exact hpush loader
    | install engine => exact ⟨hsize, hfind⟩
    | keep cache' code' name list' => exact ⟨hsize, find?_after_keep hfits hfind⟩
    | miss cache' code' name => exact ⟨hsize, hfind⟩
    | forget cache' =>
        have hcache : cache ≠ cache' := by
          rintro rfl
          exact hforget hm
        refine ⟨hsize, ?_⟩
        show ((u.caches.set cache' _).row cache).find? code = some list
        rw [Table.row_set_of_ne _ _ hcache, hfind]
    | configure config => exact ⟨hsize, hfind⟩
  exact hkept.2

/-- Where lists are at most read for one cache, those that are kept stay, and the
configuration does. -/
theorem Standing.Leads.of_reads {s t : Standing σ} {moves : List (Move σ)} (h : s.Leads moves t)
    {cache : Nat} (hall : ∀ m ∈ moves, m.Reads cache) :
    t.config = s.config ∧ ∀ code list, (s.caches.row cache).find? code = some list →
      (t.caches.row cache).find? code = some list := by
  refine h.invariant (P := fun u => u.config = s.config ∧ ∀ code list,
    (s.caches.row cache).find? code = some list →
      (u.caches.row cache).find? code = some list) ⟨rfl, fun _ _ => id⟩ ?_
  rintro m hm u hfits ⟨hconfig, hlists⟩
  have hreads := hall m hm
  cases m with
  | keep cache' code' name list' =>
      refine ⟨hconfig, fun code list hfind => ?_⟩
      exact find?_after_keep hfits (hlists code list hfind)
  | miss cache' code' name => exact ⟨hconfig, hlists⟩
  | _ => exact hreads.elim

/-! ## Actions and their moves -/

/-- The run of an action amounts to some moves: it leads where they lead, and loads what
they load. If one was in vain, it ended in a fault. -/
structure Amounts (o : Outcome (Workspace σ) α) (w : Workspace σ) (moves : List (Move σ)) :
    Prop where
  leads : w.standing.Leads moves o.state.standing
  loads : Event.loads o.events = moves.filterMap Move.loaded?
  vain : ∀ cache code name, .miss cache code name ∈ moves → ∃ fault, o.result = .error fault

/-- From a workspace, an action does some moves, all of them of a kind. -/
def Does (action : Action (Workspace σ) α) (w : Workspace σ) (may : Move σ → Prop) : Prop :=
  ∃ moves, Amounts (action w) w moves ∧ ∀ m ∈ moves, may m

variable {w : Workspace σ} {may : Move σ → Prop}

theorem Does.mono {action : Action (Workspace σ) α} {may' : Move σ → Prop}
    (h : Does action w may) (hmay : ∀ m, may m → may' m) : Does action w may' := by
  obtain ⟨moves, hmoves, hall⟩ := h
  exact ⟨moves, hmoves, fun m hm => hmay m (hall m hm)⟩

/-- **In a sequence**, the moves of the second action follow those of the first. -/
theorem Does.bind {first : Action (Workspace σ) α} {next : α → Action (Workspace σ) β}
    (hfirst : Does first w may)
    (hnext : ∀ a, (first w).result = .ok a → Does (next a) (first w).state may) :
    Does (first >>= next) w may := by
  obtain ⟨moves, hmoves, hall⟩ := hfirst
  cases hresult : (first w).result with
  | error fault =>
      refine ⟨moves, ?_, hall⟩
      rw [Action.bind_of_error hresult]
      exact ⟨hmoves.leads, hmoves.loads, fun _ _ _ _ => ⟨fault, rfl⟩⟩
  | ok a =>
      obtain ⟨more, hmore, hall'⟩ := hnext a hresult
      refine ⟨moves ++ more, ?_, ?_⟩
      · rw [Action.bind_of_ok hresult]
        refine ⟨hmoves.leads.append hmore.leads, ?_, fun cache code name hmiss => ?_⟩
        · rw [Event.loads_append, List.filterMap_append, hmoves.loads, hmore.loads]
        · rcases List.mem_append.mp hmiss with hmiss | hmiss
          · -- The first action has an answer, so none of its moves was in vain.
            obtain ⟨fault, hfault⟩ := hmoves.vain cache code name hmiss
            rw [hresult] at hfault
            cases hfault
          · exact hmore.vain cache code name hmiss
      · intro m hm
        rcases List.mem_append.mp hm with hm | hm
        · exact hall m hm
        · exact hall' m hm

theorem Does.idle {action : Action (Workspace σ) α}
    (hstanding : (action w).state.standing = w.standing)
    (hloads : Event.loads (action w).events = []) : Does action w may := by
  refine ⟨[], ⟨?_, hloads, fun _ _ _ hmiss => ?_⟩, fun _ hm => ?_⟩
  · rw [hstanding]
    exact .nil _
  · cases hmiss
  · cases hm

theorem Does.single {action : Action (Workspace σ) α} {m : Move σ} (hfits : m.Fits w.standing)
    (hstanding : (action w).state.standing = w.standing.after m)
    (hloads : Event.loads (action w).events = []) (hloaded : m.loaded? = none) (hmay : may m) :
    Does action w may := by
  refine ⟨[m], ⟨?_, ?_, fun cache code name hmiss => ?_⟩, fun m' hm' => ?_⟩
  · rw [hstanding]
    exact .single hfits
  · rw [hloads, List.filterMap_cons, hloaded]
    rfl
  · rw [← List.mem_singleton.mp hmiss] at hloaded
    cases hloaded
  · rw [List.mem_singleton.mp hm']
    exact hmay

/-! ## Actions that leave caches alone -/

/-- Nothing that caches go by changes, and no reading is counted. -/
structure Rests (w w' : Workspace σ) : Prop where
  standing : w'.standing = w.standing
  stores : w'.surroundings.stores = w.surroundings.stores

instance : IsPreorder (Workspace σ) Rests where
  refl _ := ⟨rfl, rfl⟩
  trans _ _ _ h h' := ⟨h'.standing.trans h.standing, h'.stores.trans h.stores⟩

theorem Rests.does {action : Action (Workspace σ) α} (h : w.Rests (action w).state)
    (hloads : Event.loads (action w).events = []) : Does action w may :=
  .idle h.standing hloads

theorem does_pure (a : α) : Does (pure a : Action (Workspace σ) α) w may :=
  .idle rfl rfl

theorem does_fail (fault : Fault) : Does (Action.fail fault : Action (Workspace σ) α) w may :=
  .idle rfl rfl

theorem does_ofExcept (result : Except Fault α) :
    Does (Action.ofExcept result : Action (Workspace σ) α) w may :=
  .idle rfl rfl

theorem does_log (level : Level) (topic : Topic) (message : String) :
    Does (Action.log level topic message : Action (Workspace σ) Unit) w may :=
  .idle rfl rfl

theorem rests_onHost (action : Action σ α) : (onHost action).Keeps Rests :=
  fun _ => ⟨rfl, rfl⟩

theorem rests_fragmentize (doc : Document) :
    (fragmentize doc : Action (Workspace σ) _).Keeps Rests :=
  (Action.keeps_of_same fun _ => rfl).bind fun _ => rests_onHost _

theorem rests_annotate (doc : Document) (draft : Draft) :
    (annotate doc draft : Action (Workspace σ) _).Keeps Rests :=
  (Action.keeps_of_same fun _ => rfl).bind fun _ =>
    (rests_onHost _).bind fun _ => Action.keeps_of_same fun _ => rfl

theorem rests_resolve (resolver : Nat) (plainText : Value) (settings : Settings) :
    (resolve resolver plainText settings : Action (Workspace σ) _).Keeps Rests :=
  (Action.keeps_of_same fun _ => rfl).bind fun _ =>
    (rests_onHost _).bind fun _ => Action.Keeps.bind (fun _ => ⟨rfl, rfl⟩) fun _ =>
      Action.keeps_of_same fun _ => rfl

theorem rests_recognize (engine : Engine) (doc : Document) (draft : Draft) :
    (recognize engine doc draft : Action (Workspace σ) _).Keeps Rests :=
  (rests_annotate doc draft).bind fun _ => rests_resolve _ _ _

theorem loads_fragmentize (doc : Document) (w : Workspace σ) :
    Event.loads (fragmentize doc w).events = [] :=
  (tells_fragmentize doc w).loads_eq_nil (by decide)

theorem loads_recognize (engine : Engine) (doc : Document) (draft : Draft) (w : Workspace σ) :
    Event.loads (recognize engine doc draft w).events = [] :=
  (tells_recognize engine doc draft w).loads_eq_nil (by decide)

/-! ## Lists and requests -/

theorem does_words_of_missing {cache : Nat} {code : String}
    (hcode : WordList.isCode code = true) (hfind : (w.caches.row cache).find? code = none) :
    Does (words cache code) w (Move.Reads cache) := by
  have hcalls := Cache.calls_readList w.config (w.caches.row cache).loader code w.surroundings
  cases hname : w.config.nameOf code with
  | error fault =>
      have hread : Cache.listRead w.config (w.caches.row cache).loader code w.surroundings =
          .error fault := by
        rw [Cache.listRead, hname]
        rfl
      rw [hname] at hcalls
      apply Rests.does <;> rw [words_of_missing hcode hfind]
      · rw [hread, afterReading, Cache.readList_of_unnamed hname]
        exact refl_of Rests w
      · rw [Event.loads, hcalls]
        rfl
  | ok name =>
      have hfits : WordList.isCode code = true ∧ (w.standing.caches.row cache).find? code = none ∧
          w.standing.config.nameOf code = .ok name := ⟨hcode, hfind, hname⟩
      rw [hname] at hcalls
      have hloads : Event.loads (words cache code w).events = [.text name] := by
        rw [words_of_missing hcode hfind, Event.loads, hcalls]
        rfl
      cases hread : Cache.listRead w.config (w.caches.row cache).loader code w.surroundings with
      | error fault =>
          refine ⟨[.miss cache code name], ⟨?_, hloads, fun _ _ _ _ => ⟨fault, ?_⟩⟩, ?_⟩
          · rw [words_of_missing hcode hfind, hread]
            exact .single (m := .miss cache code name) hfits
          · rw [words_of_missing hcode hfind, hread]
          · intro m hm
            rw [List.mem_singleton.mp hm]
            rfl
      | ok list =>
          refine ⟨[.keep cache code name list], ⟨?_, hloads, fun _ _ _ hmiss => ?_⟩, ?_⟩
          · rw [words_of_missing hcode hfind, hread]
            exact .single (m := .keep cache code name list) hfits
          · cases List.mem_singleton.mp hmiss
          · intro m hm
            rw [List.mem_singleton.mp hm]
            rfl

theorem does_words (cache : Nat) (code : String) :
    Does (words cache code) w (Move.Reads cache) := by
  cases hcode : WordList.isCode code with
  | false =>
      apply Rests.does <;> rw [words_of_not_isCode cache hcode]
      · exact refl_of Rests w
      · rfl
  | true =>
      cases hfind : (w.caches.row cache).find? code with
      | some list =>
          apply Rests.does <;> rw [words_of_kept hcode hfind]
          · exact refl_of Rests w
          · rfl
      | none => exact does_words_of_missing hcode hfind

theorem does_wordsOf (cache : Nat) (language : Value) :
    Does (wordsOf cache language) w (Move.Reads cache) := by
  unfold wordsOf
  split
  · exact does_words cache _
  · exact does_fail _

theorem does_candidates (cache : Nat) (draft : Draft) (cursor language : Value) :
    Does (candidates cache draft cursor language) w (Move.Reads cache) := by
  unfold candidates
  refine (does_ofExcept _).bind fun word _ => ?_
  split
  · exact does_pure []
  · refine (does_wordsOf cache language).bind fun listed _ => ?_
    split
    · exact does_pure []
    · refine (does_ofExcept _).bind fun own _ => ?_
      refine (does_ofExcept _).bind fun others _ => ?_
      exact (does_log _ _ _).bind fun _ _ => does_pure _

theorem does_completeIn (engine : Engine) (doc : Document) (draft : Draft) (cursor : Value) :
    Does (completeIn engine doc draft cursor) w (Move.Reads engine.cache) := by
  rw [completeIn_eq]
  refine (Rests.does (rests_recognize engine doc draft w)
    (loads_recognize engine doc draft w)).bind fun language? _ => ?_
  cases language? with
  | none => exact (does_log _ _ _).bind fun _ _ => does_pure []
  | some language => exact does_candidates engine.cache draft cursor language

/-- **What is loaded** is the list of a code that is not kept; from then on it is, or
there is a fault. -/
theorem Does.kept_of_load {action : Action (Workspace σ) α} {cache : Nat} {name : Value}
    (h : Does action w (Move.Reads cache)) (hname : .load name ∈ Event.calls (action w).events) :
    ∃ code resource, WordList.isCode code = true ∧ w.config.nameOf code = .ok resource ∧
      name = .text resource ∧ (w.caches.row cache).find? code = none ∧
      ((∃ fault, (action w).result = .error fault) ∨
        ∃ list, ((action w).state.caches.row cache).find? code = some list) := by
  obtain ⟨moves, hmoves, hall⟩ := h
  rw [← Event.mem_loads, hmoves.loads, List.mem_filterMap] at hname
  obtain ⟨m, hm, hloaded⟩ := hname
  have hreads := hall m hm
  obtain ⟨before, behind, u, hsplit, hbefore, hfits, hbehind⟩ := hmoves.leads.exists_of_mem hm
  have hallBefore : ∀ m ∈ before, m.Reads cache := fun m hm =>
    hall m (hsplit ▸ List.mem_append_left _ hm)
  have hallBehind : ∀ m ∈ behind, m.Reads cache := fun m hm =>
    hall m (hsplit ▸ List.mem_append_right _ (List.mem_cons_of_mem _ hm))
  obtain ⟨hconfig, hlists⟩ := hbefore.of_reads hallBefore
  -- What is missing at the move was missing before.
  have hmissing {code : String} (hnone : (u.caches.row cache).find? code = none) :
      (w.caches.row cache).find? code = none := by
    cases hfind : (w.caches.row cache).find? code with
    | none => rfl
    | some list =>
        rw [hlists code list hfind] at hnone
        cases hnone
  cases m with
  | keep cache' code resource list =>
      obtain rfl : cache' = cache := hreads
      obtain ⟨hcode, hnone, hresource⟩ := hfits
      rw [hconfig] at hresource
      refine ⟨code, resource, hcode, hresource, (Option.some.inj hloaded).symm, hmissing hnone,
        .inr ⟨list, (hbehind.of_reads hallBehind).2 code list ?_⟩⟩
      show ((u.caches.set cache' _).row cache').find? code = some list
      rw [Table.row_set_self, Cache.find?_keep_self]
  | miss cache' code resource =>
      obtain rfl : cache' = cache := hreads
      obtain ⟨hcode, hnone, hresource⟩ := hfits
      rw [hconfig] at hresource
      exact ⟨code, resource, hcode, hresource, (Option.some.inj hloaded).symm, hmissing hnone,
        .inl (hmoves.vain cache' code resource hm)⟩
  | _ => exact hreads.elim

/-- **A request** at most reads a list for the cache of its engine. -/
theorem does_complete (engine : Engine) (doc : Document) (position : Position) :
    Does (complete engine doc position) w (Move.Reads engine.cache) := by
  unfold complete
  refine (does_ofExcept _).bind fun offset _ => ?_
  refine (Rests.does (rests_fragmentize doc _) (loads_fragmentize doc _)).bind fun drafts _ => ?_
  refine (does_ofExcept _).bind fun found? _ => ?_
  cases found? with
  | none => exact (does_log _ _ _).bind fun _ _ => does_pure []
  | some found => exact does_completeIn engine doc found.1 found.2

end Workspace

end Typeahead
