import Mathlib.Data.List.Basic
import Typeahead.Text.Lines

/-!
# Cutting and joining

Cutting a text at a character and joining its pieces are those of lists. So cutting
undoes joining when no piece has the separator in it, and no piece that was cut has
it. Main statement: `splitOn_joinWith`.
-/

namespace Typeahead.Text

variable {separator : Char}

theorem joinWith_eq_intercalate (separator : Char) (pieces : List (List Char)) :
    joinWith separator pieces = [separator].intercalate pieces := by
  fun_induction joinWith separator pieces with
  | case1 => rfl
  | case2 piece => rw [List.intercalate_singleton]
  | case3 piece next rest ih =>
      rw [List.intercalate_cons_cons, ih, List.append_assoc, List.singleton_append]

theorem joinWith_cons (separator : Char) (pieces : List (List Char)) :
    ∃ behind, ∀ piece, joinWith separator (piece :: pieces) = piece ++ behind := by
  cases pieces with
  | nil => exact ⟨[], fun piece => (List.append_nil piece).symm⟩
  | cons next rest => exact ⟨separator :: joinWith separator (next :: rest), fun _ => rfl⟩

theorem joinWith_concat (separator : Char) (pieces : List (List Char)) :
    ∃ front, ∀ piece, joinWith separator (pieces ++ [piece]) = front ++ piece := by
  induction pieces with
  | nil => exact ⟨[], fun _ => rfl⟩
  | cons first rest ih =>
      obtain ⟨front, hfront⟩ := ih
      refine ⟨first ++ separator :: front, fun piece => ?_⟩
      show joinWith separator (first :: (rest ++ [piece])) = _
      rw [List.append_assoc, List.cons_append, ← hfront piece]
      cases rest <;> rfl

theorem forall_mem_joinWith {good : Char → Prop} (hseparator : good separator)
    (pieces : List (List Char)) :
    (∀ c ∈ joinWith separator pieces, good c) ↔ ∀ piece ∈ pieces, ∀ c ∈ piece, good c := by
  fun_induction joinWith separator pieces with
  | case1 => simp
  | case2 piece => simp
  | case3 piece next rest ih =>
      rw [List.forall_mem_append, List.forall_mem_cons, ih, @List.forall_mem_cons _ _ piece]
      exact and_congr_right fun _ => and_iff_right hseparator

theorem splitOn_eq_list_splitOn (separator : Char) (cs : List Char) :
    splitOn separator cs = cs.splitOn separator := by
  induction cs with
  | nil => rfl
  | cons c rest ih =>
      rw [splitOn, List.splitOn_cons_eq_if_modifyHead, ← ih]
      simp only [beq_iff_eq]
      split
      · rfl
      · cases hs : splitOn separator rest with
        | nil => exact absurd hs (splitOn_ne_nil separator rest)
        | cons piece pieces => rfl

theorem splitOn_of_not_mem {cs : List Char} (h : separator ∉ cs) :
    splitOn separator cs = [cs] := by
  rw [splitOn_eq_list_splitOn, List.splitOn_eq_singleton h]

/-- **Cutting undoes joining.** -/
theorem splitOn_joinWith {pieces : List (List Char)} (hne : pieces ≠ [])
    (h : ∀ piece ∈ pieces, separator ∉ piece) :
    splitOn separator (joinWith separator pieces) = pieces := by
  rw [splitOn_eq_list_splitOn, joinWith_eq_intercalate, List.splitOn_intercalate separator h hne]

theorem not_mem_of_mem_splitOn {cs piece : List Char} (h : piece ∈ splitOn separator cs) :
    separator ∉ piece := by
  induction cs generalizing piece with
  | nil =>
      obtain rfl := List.mem_singleton.mp h
      exact List.not_mem_nil
  | cons c rest ih =>
      rw [splitOn] at h
      split at h
      · rcases List.mem_cons.mp h with rfl | h
        · exact List.not_mem_nil
        · exact ih h
      · next hc =>
          cases hs : splitOn separator rest with
          | nil => exact absurd hs (splitOn_ne_nil separator rest)
          | cons first pieces =>
              rw [hs] at h ih
              rcases List.mem_cons.mp h with rfl | h
              · rintro (_ | ⟨_, hmem⟩)
                · exact hc rfl
                · exact ih List.mem_cons_self hmem
              · exact ih (List.mem_cons_of_mem first h)

end Typeahead.Text
