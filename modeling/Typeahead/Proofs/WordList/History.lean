import Mathlib.Data.List.Dedup
import Mathlib.Data.List.Induction
import Typeahead.Proofs.Workspace.Lists

/-!
# Histories of a cache

What a cache keeps, said by what was answered since it was last cleared, over
every sequence of uses. In between, the loader's resources, its answers and the
configuration may change at will. Main statement: `words_after_history`. The
invariant is `Remembers`: a list is kept for a code exactly when it was answered
for it.
-/

namespace Typeahead

open Typeahead.Resource
open Typeahead.Workspace

variable {σ : Type}

/-- Something done with a cache, or to what its lists come from. -/
inductive CacheUse (σ : Type) where
  | get (code : String)
  | clear
  | contains (code : String)
  | size
  /-- Anything happens around the caches, such as a change of resources. -/
  | disturb (change : Action (Surroundings σ) Unit)
  | override (change : Config → Config)

inductive CacheAnswer where
  | words (list : List String)
  | yes (b : Bool)
  | count (n : Nat)
  | done
  deriving DecidableEq, Repr

abbrev CacheEntry (σ : Type) := CacheUse σ × Except Fault CacheAnswer

namespace CacheUse

def run (id : Nat) : CacheUse σ → Action (Workspace σ) CacheAnswer
  | .get code => do
    let list ← words id code
    return .words list
  | .clear => do
    clearCache id
    return .done
  | .contains code => Action.read fun w => .yes ((w.caches.row id).contains code)
  | .size => Action.read fun w => .count (w.caches.row id).size
  | .disturb change => do
    onSurroundings change
    return .done
  | .override change => do
    Workspace.override change
    return .done

def after (id : Nat) (w : Workspace σ) (uses : List (CacheUse σ)) : Workspace σ :=
  uses.foldl (fun w use => (use.run id w).state) w

def history (id : Nat) (w : Workspace σ) : List (CacheUse σ) → List (CacheEntry σ)
  | [] => []
  | use :: rest => (use, (use.run id w).result) :: history id (use.run id w).state rest

theorem after_snoc (id : Nat) (w : Workspace σ) (uses : List (CacheUse σ)) (use : CacheUse σ) :
    after id w (uses ++ [use]) = (use.run id (after id w uses)).state := by
  unfold after
  rw [List.foldl_append]
  rfl

theorem history_snoc (id : Nat) (w : Workspace σ) (uses : List (CacheUse σ))
    (use : CacheUse σ) :
    history id w (uses ++ [use]) =
      history id w uses ++ [(use, (use.run id (after id w uses)).result)] := by
  induction uses generalizing w with
  | nil => rfl
  | cons first rest ih =>
      show _ :: history id (first.run id w).state (rest ++ [use]) = _
      rw [ih]
      rfl

def isClear : CacheUse σ → Bool
  | .clear => true
  | _ => false

theorem run_get (id : Nat) (code : String) (w : Workspace σ) :
    (CacheUse.get code).run id w =
      ⟨(words id code w).result.map .words, (words id code w).state,
        (words id code w).events⟩ := by
  show (words id code >>= _) w = _
  rw [Action.bind_apply]
  cases (words id code w).result with
  | error fault => rfl
  | ok list =>
      show Outcome.mk _ _ (_ ++ []) = _
      rw [List.append_nil]
      rfl

end CacheUse

/-! ## Since the last clear -/

def sinceClear (entries : List (CacheEntry σ)) : List (CacheEntry σ) :=
  (entries.reverse.takeWhile fun entry => !entry.1.isClear).reverse

/-- A list was answered for a code since the last clear. -/
def Answered (entries : List (CacheEntry σ)) (code : String) (list : List String) : Prop :=
  (CacheUse.get code, .ok (.words list)) ∈ sinceClear entries

def answeredCode? : CacheEntry σ → Option String
  | (.get code, .ok (.words _)) => if WordList.isCode code then some code else none
  | _ => none

/-- The language codes for which there was an answer since the last clear. -/
def answeredCodes (entries : List (CacheEntry σ)) : List String :=
  ((sinceClear entries).filterMap answeredCode?).dedup

theorem sinceClear_snoc (entries : List (CacheEntry σ)) (entry : CacheEntry σ) :
    sinceClear (entries ++ [entry]) =
      if entry.1.isClear then [] else sinceClear entries ++ [entry] := by
  rw [sinceClear, List.reverse_append]
  cases h : entry.1.isClear <;> simp [h, sinceClear]

theorem not_answered_snoc_clear (entries : List (CacheEntry σ))
    (result : Except Fault CacheAnswer) (code : String) (list : List String) :
    ¬ Answered (entries ++ [(.clear, result)]) code list := by
  rw [Answered, sinceClear_snoc]
  simp [CacheUse.isClear]

theorem answered_snoc_get {entries : List (CacheEntry σ)} {result : Except Fault CacheAnswer}
    {asked code : String} {list : List String} :
    Answered (entries ++ [(.get asked, result)]) code list ↔
      Answered entries code list ∨ code = asked ∧ result = .ok (.words list) := by
  rw [Answered, sinceClear_snoc]
  show _ ∈ sinceClear entries ++ _ ↔ _
  rw [List.mem_append, List.mem_singleton, Prod.mk.injEq, CacheUse.get.injEq]
  constructor
  · rintro (h | ⟨h, h'⟩)
    · exact .inl h
    · exact .inr ⟨h, h'.symm⟩
  · rintro (h | ⟨h, h'⟩)
    · exact .inl h
    · exact .inr ⟨h, h'.symm⟩

theorem answered_snoc_other {entries : List (CacheEntry σ)} {use : CacheUse σ}
    (hclear : use.isClear = false) (hget : ∀ code, use ≠ .get code)
    {result : Except Fault CacheAnswer} {code : String} {list : List String} :
    Answered (entries ++ [(use, result)]) code list ↔ Answered entries code list := by
  rw [Answered, sinceClear_snoc]
  show _ ∈ (if use.isClear = true then [] else sinceClear entries ++ [(use, result)]) ↔ _
  rw [hclear, if_neg Bool.false_ne_true, List.mem_append, List.mem_singleton]
  constructor
  · rintro (h | h)
    · exact h
    · exact absurd (congrArg Prod.fst h).symm (hget code)
  · exact .inl

/-! ## The invariant -/

/-- A cache keeps a list for a language code exactly when the list was answered
for it since the last clear, and it keeps one list for each code. -/
structure Remembers (cache : Cache σ) (entries : List (CacheEntry σ)) : Prop where
  find?_iff : ∀ code list, cache.find? code = some list ↔
    WordList.isCode code = true ∧ Answered entries code list
  nodup : (cache.lists.map Prod.fst).Nodup

theorem Cache.mem_codes_iff {cache : Cache σ} {code : String} :
    code ∈ cache.lists.map Prod.fst ↔ ∃ list, cache.find? code = some list := by
  constructor
  · intro h
    cases hfind : cache.find? code with
    | some list => exact ⟨list, rfl⟩
    | none =>
        obtain ⟨entry, hentry, rfl⟩ := List.mem_map.mp h
        have hne := List.lookup_eq_none_iff.mp hfind entry hentry
        simp at hne
  · rintro ⟨list, hfind⟩
    by_contra h
    have hnone : cache.find? code = none := by
      refine List.lookup_eq_none_iff.mpr fun entry hentry => ?_
      rw [bne_iff_ne]
      rintro rfl
      exact h (List.mem_map_of_mem hentry)
    rw [hnone] at hfind
    cases hfind

theorem remembers_new (loader : Loader σ) : Remembers ({ loader } : Cache σ) [] :=
  ⟨fun code list => by simp [Cache.find?, Answered, sinceClear], List.nodup_nil⟩

theorem Remembers.clear {cache : Cache σ} {entries : List (CacheEntry σ)}
    (result : Except Fault CacheAnswer) :
    Remembers cache.clear (entries ++ [(.clear, result)]) := by
  refine ⟨fun code list => ?_, List.nodup_nil⟩
  constructor
  · intro h
    simp [Cache.clear, Cache.find?] at h
  · rintro ⟨_, h⟩
    exact absurd h (not_answered_snoc_clear entries result code list)

theorem Remembers.other {cache : Cache σ} {entries : List (CacheEntry σ)}
    (h : Remembers cache entries) {use : CacheUse σ} (hclear : use.isClear = false)
    (hget : ∀ code, use ≠ .get code) (result : Except Fault CacheAnswer) :
    Remembers cache (entries ++ [(use, result)]) := by
  refine ⟨fun code list => ?_, h.nodup⟩
  rw [h.find?_iff, answered_snoc_other hclear hget]

/-- An answer that says nothing new changes nothing. -/
theorem Remembers.get_same {cache : Cache σ} {entries : List (CacheEntry σ)}
    (h : Remembers cache entries) {asked : String} {result : Except Fault CacheAnswer}
    (hsame : ∀ list, WordList.isCode asked = true → result = .ok (.words list) →
      cache.find? asked = some list) :
    Remembers cache (entries ++ [(.get asked, result)]) := by
  refine ⟨fun code list => ?_, h.nodup⟩
  rw [answered_snoc_get]
  constructor
  · intro hfind
    obtain ⟨hcode, hanswered⟩ := (h.find?_iff code list).mp hfind
    exact ⟨hcode, .inl hanswered⟩
  · rintro ⟨hcode, hanswered | ⟨rfl, hresult⟩⟩
    · exact (h.find?_iff code list).mpr ⟨hcode, hanswered⟩
    · exact hsame list hcode hresult

theorem Remembers.get_read {cache : Cache σ} {entries : List (CacheEntry σ)}
    (h : Remembers cache entries) {asked : String} {read : List String}
    (hcode : WordList.isCode asked = true) (hnone : cache.find? asked = none) :
    Remembers (cache.keep asked read) (entries ++ [(.get asked, .ok (.words read))]) := by
  refine ⟨fun code list => ?_, ?_⟩
  · rw [answered_snoc_get]
    by_cases hasked : code = asked
    · subst hasked
      rw [Cache.find?_keep_self]
      constructor
      · intro hread
        obtain rfl := Option.some.inj hread
        exact ⟨hcode, .inr ⟨rfl, rfl⟩⟩
      · rintro ⟨_, hanswered | ⟨_, hread⟩⟩
        · have hfind := (h.find?_iff code list).mpr ⟨hcode, hanswered⟩
          rw [hnone] at hfind
          cases hfind
        · cases hread
          rfl
    · rw [Cache.find?_keep_of_ne cache read hasked, h.find?_iff]
      constructor
      · rintro ⟨hcode', hanswered⟩
        exact ⟨hcode', .inl hanswered⟩
      · rintro ⟨hcode', hanswered | ⟨hasked', _⟩⟩
        · exact ⟨hcode', hanswered⟩
        · exact absurd hasked' hasked
  · refine List.nodup_cons.mpr ⟨fun hmem => ?_, h.nodup⟩
    obtain ⟨list, hfind⟩ := Cache.mem_codes_iff.mp hmem
    rw [hnone] at hfind
    cases hfind

/-! ## Steps and runs -/

theorem remembers_run_get {id : Nat} {w : Workspace σ} {entries : List (CacheEntry σ)}
    (h : Remembers (w.caches.row id) entries) (asked : String) :
    Remembers ((words id asked w).state.caches.row id)
      (entries ++ [(.get asked, (words id asked w).result.map .words)]) := by
  cases hcode : WordList.isCode asked with
  | false =>
      rw [words_of_not_isCode id hcode]
      exact h.get_same fun list htrue => by rw [hcode] at htrue; cases htrue
  | true =>
      cases hfind : (w.caches.row id).find? asked with
      | some kept =>
          rw [words_of_kept hcode hfind]
          refine h.get_same fun list _ hresult => ?_
          cases hresult
          exact hfind
      | none =>
          rw [words_of_missing hcode hfind]
          cases Cache.listRead w.config (w.caches.row id).loader asked w.surroundings with
          | error fault => exact h.get_same fun list _ hresult => by cases hresult
          | ok read =>
              show Remembers ((w.caches.set id _).row id) _
              rw [Table.row_set_self]
              exact h.get_read hcode hfind

/-- One use keeps the invariant. -/
theorem remembers_run {id : Nat} {w : Workspace σ} {entries : List (CacheEntry σ)}
    (h : Remembers (w.caches.row id) entries) (use : CacheUse σ) :
    Remembers ((use.run id w).state.caches.row id)
      (entries ++ [(use, (use.run id w).result)]) := by
  cases use with
  | get asked =>
      rw [CacheUse.run_get]
      exact remembers_run_get h asked
  | clear =>
      show Remembers ((w.caches.set id _).row id) _
      rw [Table.row_set_self]
      exact .clear _
  | contains code => exact h.other rfl (fun _ => by simp) _
  | size => exact h.other rfl (fun _ => by simp) _
  | disturb change =>
      have hrow : ((CacheUse.disturb change).run id w).state.caches = w.caches := by
        show ((onSurroundings change >>= _) w).state.caches = _
        rw [Action.bind_apply]
        cases hresult : (onSurroundings change w).result <;> rfl
      rw [hrow]
      exact h.other rfl (fun _ => by simp) _
  | override change => exact h.other rfl (fun _ => by simp) _

theorem remembers_after {id : Nat} {w : Workspace σ} (h : Remembers (w.caches.row id) [])
    (uses : List (CacheUse σ)) :
    Remembers ((CacheUse.after id w uses).caches.row id) (CacheUse.history id w uses) := by
  induction uses using List.reverseRecOn with
  | nil => exact h
  | append_singleton uses use ih =>
      rw [CacheUse.after_snoc, CacheUse.history_snoc]
      exact remembers_run ih use

/-! ## What a cache keeps -/

theorem mem_answeredCodes {entries : List (CacheEntry σ)} {code : String} :
    code ∈ answeredCodes entries ↔
      WordList.isCode code = true ∧ ∃ list, Answered entries code list := by
  rw [answeredCodes, List.mem_dedup, List.mem_filterMap]
  constructor
  · rintro ⟨entry, hentry, hcode⟩
    unfold answeredCode? at hcode
    split at hcode
    · next asked list =>
        split at hcode
        · next h =>
            obtain rfl := Option.some.inj hcode
            exact ⟨h, list, hentry⟩
        · cases hcode
    · cases hcode
  · rintro ⟨hcode, list, hentry⟩
    exact ⟨_, hentry, if_pos hcode⟩

theorem Remembers.contains_iff {cache : Cache σ} {entries : List (CacheEntry σ)}
    (h : Remembers cache entries) (code : String) :
    cache.contains code = true ↔
      WordList.isCode code = true ∧ ∃ list, Answered entries code list := by
  rw [Cache.contains, Option.isSome_iff_exists]
  constructor
  · rintro ⟨list, hfind⟩
    obtain ⟨hcode, hanswered⟩ := (h.find?_iff code list).mp hfind
    exact ⟨hcode, list, hanswered⟩
  · rintro ⟨hcode, list, hanswered⟩
    exact ⟨list, (h.find?_iff code list).mpr ⟨hcode, hanswered⟩⟩

theorem Remembers.size_eq {cache : Cache σ} {entries : List (CacheEntry σ)}
    (h : Remembers cache entries) : cache.size = (answeredCodes entries).length := by
  -- Both sides hold each code once.
  have hcodes : (answeredCodes entries).Nodup := List.nodup_dedup _
  have hperm : (cache.lists.map Prod.fst).Perm (answeredCodes entries) := by
    refine (List.perm_ext_iff_of_nodup h.nodup hcodes).mpr fun code => ?_
    rw [Cache.mem_codes_iff, mem_answeredCodes, ← h.contains_iff, Cache.contains,
      Option.isSome_iff_exists]
  rw [Cache.size, ← hperm.length_eq, List.length_map]

/-- **What a cache answers after any history.** From a new cache over any loader
on, after every sequence of uses: a malformed code has no words, and asking for
it does nothing; a list that was answered since the last clear is the answer
again, without asking the loader; a list is asked for at most once; and the
cache keeps the codes that had an answer, and no others. -/
theorem words_after_history (w : Workspace σ) (loader : Loader σ) (uses : List (CacheUse σ))
    (code : String) :
    let id := w.caches.size
    let created := (newCache loader w).state
    let entries := CacheUse.history id created uses
    let now := CacheUse.after id created uses
    (WordList.isCode code = false → words id code now = ⟨.ok [], now, []⟩) ∧
    (∀ list, WordList.isCode code = true → Answered entries code list →
      words id code now = ⟨.ok list, now, []⟩) ∧
    (Event.calls (words id code now).events).length ≤ 1 ∧
    ((now.caches.row id).contains code = true ↔
      WordList.isCode code = true ∧ ∃ list, Answered entries code list) ∧
    (now.caches.row id).size = (answeredCodes entries).length := by
  intro id created entries now
  have hnew : Remembers (created.caches.row id) [] := by
    show Remembers ((w.caches.push { loader }).row w.caches.size) []
    rw [Table.row_push_self]
    exact remembers_new loader
  have hnow : Remembers (now.caches.row id) entries := remembers_after hnew uses
  refine ⟨fun hcode => words_of_not_isCode id hcode now, ?_, length_calls_words_le id code now,
    hnow.contains_iff code, hnow.size_eq⟩
  intro list hcode hanswered
  exact words_of_kept hcode ((hnow.find?_iff code list).mpr ⟨hcode, hanswered⟩)

/-- A list that was missing stays empty after its resource has appeared. -/
theorem words_after_history_missing_then_added :
    let w : Workspace Unit := { bundled := "lists", surroundings := { host := () } }
    let uses : List (CacheUse Unit) := [.get "fr",
      .disturb (Surroundings.addToStore 0 (.text "completionList.fr.txt") [0x61]),
      .override fun config => { config with encoding := .text "ascii" }]
    let created := (newCache (.memory 0) w).state
    let now := CacheUse.after 0 created uses
    WordList.isCode "fr" = true ∧ Answered (CacheUse.history 0 created uses) "fr" [] ∧
      words 0 "fr" now = ⟨.ok [], now, []⟩ ∧
      WordList.isCode "fr;" = false ∧ words 0 "fr;" now = ⟨.ok [], now, []⟩ := by
  intro w uses created now
  have hcode : WordList.isCode "fr" = true := by decide
  have hmalformed : WordList.isCode "fr;" = false := by decide
  have hfirst : (words 0 "fr" created).result = .ok [] := by
    rw [result_words, Cache.listNow, hcode, if_pos rfl]
    show Cache.listRead created.config (.memory 0) "fr" created.surroundings = _
    rw [Cache.listRead, Config.nameOf_stock rfl]
    rfl
  have hanswered : Answered (CacheUse.history 0 created uses) "fr" [] := by
    show _ ∈ (_, ((CacheUse.get "fr").run 0 created).result) :: _
    rw [CacheUse.run_get, hfirst]
    exact List.mem_cons_self
  exact ⟨hcode, hanswered, (words_after_history w (.memory 0) uses "fr").2.1 [] hcode hanswered,
    hmalformed, (words_after_history w (.memory 0) uses "fr;").1 hmalformed⟩

end Typeahead
