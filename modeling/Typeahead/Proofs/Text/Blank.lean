import Mathlib.Data.List.ModifyLast
import Mathlib.Data.List.TakeWhile
import Typeahead.Proofs.Text.Split
import Typeahead.Text.Character

/-!
# Trimming

Trimming takes away the blanks around a text and nothing inside it. Main statements:
`trim_append_append`, which puts blanks around a text, and `trim_joinWith`: of joined
pieces only the first and the last are trimmed, each on its outer side.
-/

namespace Typeahead.Text

variable {cs : List Char}

/-! ## One side -/

/-- The blanks at the front of a text are those of its first part, unless that is blank. -/
theorem dropWhile_append_of_exists (h : ∃ c ∈ cs, isBlank c = false) (rest : List Char) :
    (cs ++ rest).dropWhile isBlank = cs.dropWhile isBlank ++ rest := by
  obtain ⟨c, hc, hblank⟩ := h
  have hne : (cs.dropWhile isBlank).isEmpty = false := by
    rw [List.isEmpty_eq_false_iff]
    intro hnil
    rw [List.dropWhile_eq_nil_iff.mp hnil c hc] at hblank
    cases hblank
  rw [List.dropWhile_append, hne, if_neg Bool.false_ne_true]

theorem dropWhile_of_head? {p : Char → Bool} (h : ∀ c ∈ cs.head?, p c = false) :
    cs.dropWhile p = cs := by
  cases cs with
  | nil => rfl
  | cons c rest => rw [List.dropWhile_cons, h c rfl, if_neg Bool.false_ne_true]

theorem trimRight_append_of_exists (front : List Char) (h : ∃ c ∈ cs, isBlank c = false) :
    trimRight (front ++ cs) = front ++ trimRight cs := by
  obtain ⟨c, hc, hblank⟩ := h
  rw [trimRight, List.reverse_append,
    dropWhile_append_of_exists ⟨c, List.mem_reverse.mpr hc, hblank⟩, List.reverse_append,
    List.reverse_reverse]
  rfl

theorem mem_of_mem_trimRight {c : Char} (h : c ∈ trimRight cs) : c ∈ cs :=
  List.mem_reverse.mp ((List.dropWhile_sublist _).subset (List.mem_reverse.mp h))

theorem trimRight_eq_nil_iff : trimRight cs = [] ↔ ∀ c ∈ cs, isBlank c = true := by
  simp [trimRight, List.dropWhile_eq_nil_iff]

/-! ## Both sides -/

theorem trim_eq_nil_iff : trim cs = [] ↔ ∀ c ∈ cs, isBlank c = true := by
  constructor
  · intro h
    have hleft := trimRight_eq_nil_iff.mp h
    refine List.dropWhile_eq_nil_iff.mp ?_
    -- What the front leaves over begins with a character that is not blank.
    by_contra hne
    have hhead := List.head_dropWhile_not isBlank hne
    rw [hleft _ (List.head_mem hne)] at hhead
    cases hhead
  · intro h
    rw [trim, List.dropWhile_eq_nil_iff.mpr h, trimRight_nil]

/-- What is dropped at both ends of a text is what stands around its middle. -/
theorem dropWhile_append_append {p : Char → Bool} {before behind : List Char}
    (hbefore : ∀ c ∈ before, p c = true) (hbehind : ∀ c ∈ behind, p c = true) (hne : cs ≠ [])
    (hhead : ∀ c ∈ cs.head?, p c = false) (hlast : ∀ c ∈ cs.getLast?, p c = false) :
    (((before ++ cs ++ behind).dropWhile p).reverse.dropWhile p).reverse = cs := by
  have hleft : (before ++ cs ++ behind).dropWhile p = cs ++ behind := by
    rw [List.append_assoc, List.dropWhile_append_of_pos hbefore,
      dropWhile_of_head? (by rwa [List.head?_append_of_ne_nil _ hne])]
  rw [hleft, List.reverse_append,
    List.dropWhile_append_of_pos fun c hc => hbehind c (List.mem_reverse.mp hc),
    dropWhile_of_head? (by rwa [List.head?_reverse]), List.reverse_reverse]

/-- **Blanks around a text are taken away.** -/
theorem trim_append_append {before behind : List Char} (hbefore : ∀ c ∈ before, isBlank c = true)
    (hbehind : ∀ c ∈ behind, isBlank c = true) (hne : cs ≠ [])
    (hhead : ∀ c ∈ cs.head?, isBlank c = false)
    (hlast : ∀ c ∈ cs.getLast?, isBlank c = false) : trim (before ++ cs ++ behind) = cs :=
  dropWhile_append_append hbefore hbehind hne hhead hlast

/-! ## Joined pieces -/

/-- Pieces of a text, the first without the blanks at its front and the last without
those at its end. -/
def trimOuter (pieces : List (List Char)) : List (List Char) :=
  (pieces.modifyHead (List.dropWhile isBlank)).modifyLast trimRight

theorem trimOuter_singleton (piece : List Char) : trimOuter [piece] = [trim piece] := rfl

theorem trimOuter_cons_concat (first last : List Char) (middle : List (List Char)) :
    trimOuter (first :: (middle ++ [last])) =
      first.dropWhile isBlank :: (middle ++ [trimRight last]) :=
  List.modifyLast_concat trimRight last (first.dropWhile isBlank :: middle)

theorem length_trimOuter (pieces : List (List Char)) :
    (trimOuter pieces).length = pieces.length := by
  cases pieces with
  | nil => rfl
  | cons first rest =>
      obtain rfl | ⟨middle, last, rfl⟩ := List.eq_nil_or_concat' rest
      · rfl
      · simp [trimOuter_cons_concat]

theorem not_mem_of_mem_trimOuter {c : Char} {pieces : List (List Char)}
    (h : ∀ piece ∈ pieces, c ∉ piece) : ∀ piece ∈ trimOuter pieces, c ∉ piece := by
  have hleft (piece : List Char) (hpiece : c ∉ piece) : c ∉ piece.dropWhile isBlank :=
    fun hc => hpiece ((List.dropWhile_sublist _).subset hc)
  have hright (piece : List Char) (hpiece : c ∉ piece) : c ∉ trimRight piece :=
    fun hc => hpiece (mem_of_mem_trimRight hc)
  cases pieces with
  | nil => exact h
  | cons first rest =>
      obtain rfl | ⟨middle, last, rfl⟩ := List.eq_nil_or_concat' rest
      · rw [trimOuter_singleton]
        simp only [List.forall_mem_singleton] at h ⊢
        exact hright _ (hleft first h)
      · rw [trimOuter_cons_concat]
        simp only [List.forall_mem_cons, List.forall_mem_append] at h ⊢
        exact ⟨hleft first h.1, h.2.1, hright last h.2.2.1, h.2.2.2⟩

theorem dropWhile_joinWith (separator : Char) {first : List Char}
    (h : ∃ c ∈ first, isBlank c = false) (rest : List (List Char)) :
    (joinWith separator (first :: rest)).dropWhile isBlank =
      joinWith separator (first.dropWhile isBlank :: rest) := by
  obtain ⟨behind, hbehind⟩ := joinWith_cons separator rest
  rw [hbehind, hbehind, dropWhile_append_of_exists h]

theorem trimRight_joinWith (separator : Char) (front : List (List Char)) {last : List Char}
    (h : ∃ c ∈ last, isBlank c = false) :
    trimRight (joinWith separator (front ++ [last])) =
      joinWith separator (front ++ [trimRight last]) := by
  obtain ⟨before, hbefore⟩ := joinWith_concat separator front
  rw [hbefore, hbefore, trimRight_append_of_exists before h]

/-- **Trimming joined pieces** trims the first and the last. -/
theorem trim_joinWith (separator : Char) {pieces : List (List Char)}
    (hfirst : ∀ piece ∈ pieces.head?, ∃ c ∈ piece, isBlank c = false)
    (hlast : ∀ piece ∈ pieces.getLast?, ∃ c ∈ piece, isBlank c = false) :
    trim (joinWith separator pieces) = joinWith separator (trimOuter pieces) := by
  cases pieces with
  | nil => rfl
  | cons first rest =>
      obtain rfl | ⟨middle, last, rfl⟩ := List.eq_nil_or_concat' rest
      · rfl
      · rw [trim, dropWhile_joinWith separator (hfirst first rfl), trimOuter_cons_concat]
        exact trimRight_joinWith separator (first.dropWhile isBlank :: middle)
          (hlast last (by simp [List.getLast?_cons]))

end Typeahead.Text
