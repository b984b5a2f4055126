import Typeahead.Proofs.WordList.Reading
import Typeahead.Workspace

/-!
# Lists of a workspace

Asking for the list of a code in one of the caches of a workspace. Main
statement: `result_words`. The answer is the list of the code in that cache, and
only a list that had to be read leaves a trace.
-/

namespace Typeahead

open Typeahead.Resource

variable {σ : Type}

theorem Table.set_row {α : Type} (t : Table α) (id : Nat) : t.set id (t.row id) = t := by
  have hrow : (fun other => if other = id then t.row id else t.row other) = t.row := by
    funext other
    split
    · next h => rw [h]
    · rfl
  rw [Table.set, hrow]

theorem Table.set_comm {α : Type} (t : Table α) {i j : Nat} (a b : α) (h : i ≠ j) :
    (t.set i a).set j b = (t.set j b).set i a := by
  have hrow : ((t.set i a).set j b).row = ((t.set j b).set i a).row := by
    funext other
    by_cases hi : other = i
    · subst hi
      rw [row_set_self, row_set_of_ne _ _ h, row_set_self]
    · by_cases hj : other = j
      · subst hj
        rw [row_set_self, row_set_of_ne _ _ hi, row_set_self]
      · rw [row_set_of_ne _ _ hj, row_set_of_ne _ _ hi, row_set_of_ne _ _ hi,
          row_set_of_ne _ _ hj]
  exact congrArg (Table.mk · t.size) hrow

namespace Workspace

theorem words_of_get_ok {id : Nat} {code : String} {w : Workspace σ} {list : List String}
    {kept : Cache σ} {s : Surroundings σ} {events : List Event}
    (h : (w.caches.row id).get w.config code w.surroundings = ⟨.ok (list, kept), s, events⟩) :
    words id code w =
      ⟨.ok list, { w with surroundings := s, caches := w.caches.set id kept }, events⟩ := by
  have hfirst : onSurroundings ((w.caches.row id).get w.config code) w =
      ⟨.ok (list, kept), { w with surroundings := s }, events⟩ := by
    rw [onSurroundings, Action.zoom_apply, h]
  rw [words, Action.read_id_bind, Action.bind_of_ok (a := (list, kept)) (congrArg _ hfirst),
    hfirst]
  show Outcome.mk _ _ (events ++ []) = _
  rw [List.append_nil]
  rfl

theorem words_of_get_error {id : Nat} {code : String} {w : Workspace σ} {fault : Fault}
    {s : Surroundings σ} {events : List Event}
    (h : (w.caches.row id).get w.config code w.surroundings = ⟨.error fault, s, events⟩) :
    words id code w = ⟨.error fault, { w with surroundings := s }, events⟩ := by
  have hfirst : onSurroundings ((w.caches.row id).get w.config code) w =
      ⟨.error fault, { w with surroundings := s }, events⟩ := by
    rw [onSurroundings, Action.zoom_apply, h]
  rw [words, Action.read_id_bind, Action.bind_of_error (congrArg _ hfirst), hfirst]

theorem words_of_not_isCode (id : Nat) {code : String} (h : WordList.isCode code = false)
    (w : Workspace σ) : words id code w = ⟨.ok [], w, []⟩ := by
  rw [words_of_get_ok (Cache.get_of_not_isCode _ _ h _)]
  show Outcome.mk _ { w with caches := w.caches.set id (w.caches.row id) } _ = _
  rw [Table.set_row]

theorem words_of_kept {id : Nat} {code : String} {list : List String} {w : Workspace σ}
    (hcode : WordList.isCode code = true) (h : (w.caches.row id).find? code = some list) :
    words id code w = ⟨.ok list, w, []⟩ := by
  rw [words_of_get_ok (Cache.get_of_kept _ hcode h _)]
  show Outcome.mk _ { w with caches := w.caches.set id (w.caches.row id) } _ = _
  rw [Table.set_row]

def afterReading (w : Workspace σ) (id : Nat) (code : String) : Workspace σ :=
  { w with surroundings :=
      (Cache.readList w.config (w.caches.row id).loader code w.surroundings).state }

def keeping (w : Workspace σ) (id : Nat) (code : String) (list : List String) : Workspace σ :=
  { w with caches := w.caches.set id ((w.caches.row id).keep code list) }

theorem words_of_missing {id : Nat} {code : String} {w : Workspace σ}
    (hcode : WordList.isCode code = true) (h : (w.caches.row id).find? code = none) :
    words id code w =
      ⟨Cache.listRead w.config (w.caches.row id).loader code w.surroundings,
        match Cache.listRead w.config (w.caches.row id).loader code w.surroundings with
        | .error _ => w.afterReading id code
        | .ok list => (w.afterReading id code).keeping id code list,
        (Cache.readList w.config (w.caches.row id).loader code w.surroundings).events⟩ := by
  have hget := Cache.get_of_missing w.config hcode h w.surroundings
  cases hread : Cache.listRead w.config (w.caches.row id).loader code w.surroundings with
  | error fault =>
      rw [hread] at hget
      exact words_of_get_error hget
  | ok list =>
      rw [hread] at hget
      exact words_of_get_ok hget

/-- **The answer is the list of the code.** -/
theorem result_words (id : Nat) (code : String) (w : Workspace σ) :
    (words id code w).result = (w.caches.row id).listNow w.config code w.surroundings := by
  rw [Cache.listNow]
  cases hcode : WordList.isCode code with
  | false =>
      rw [words_of_not_isCode id hcode]
      rfl
  | true =>
      cases h : (w.caches.row id).find? code with
      | some list =>
          rw [words_of_kept hcode h]
          rfl
      | none =>
          rw [words_of_missing hcode h]
          rfl

theorem length_calls_words_le (id : Nat) (code : String) (w : Workspace σ) :
    (Event.calls (words id code w).events).length ≤ 1 := by
  cases hcode : WordList.isCode code with
  | false =>
      rw [words_of_not_isCode id hcode]
      exact Nat.zero_le 1
  | true =>
      cases h : (w.caches.row id).find? code with
      | some list =>
          rw [words_of_kept hcode h]
          exact Nat.zero_le 1
      | none =>
          rw [words_of_missing hcode h]
          show (Event.calls (Cache.readList _ _ _ _).events).length ≤ 1
          rw [Cache.calls_readList]
          cases w.config.nameOf code <;> simp

end Workspace

end Typeahead
