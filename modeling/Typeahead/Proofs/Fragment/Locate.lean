import Mathlib.Data.List.Induction
import Typeahead.Fragment

/-!
# Finding fragments

Which fragment is found at an offset, said without the search: of those that cover the
offset it is the one that starts last, and of those that start together the first in
the list. Main statements: `locate_eq_none_iff`, `locate_eq_some_iff` and, for what
collaborators hand over, `exists_locate_draft`. All that is proved of the search goes
through `holds_innermost`: what it has found so far is the innermost fragment of the
list so far, whatever fragment comes next.
-/

namespace Typeahead.Fragment

variable {fragments : List Fragment} {offset : Int} {i j : Nat} {f g : Fragment}

/-! ## One step of the search -/

theorem innermost_snoc (fragments : List Fragment) (f : Fragment) (offset : Int) :
    innermost (fragments ++ [f]) offset = inner offset (innermost fragments offset) f := by
  unfold innermost
  rw [List.foldl_append]
  rfl

theorem inner_of_not_contains (h : f.contains offset = false) (best? : Option Fragment) :
    inner offset best? f = best? := by
  unfold inner
  rw [h]
  rfl

theorem inner_none_of_contains (h : f.contains offset = true) : inner offset none f = some f := by
  unfold inner
  rw [if_pos h]

theorem inner_some_of_contains {best : Fragment} (h : f.contains offset = true) :
    inner offset (some best) f = if best.start < f.start then some f else some best := by
  unfold inner
  rw [if_pos h]

/-! ## The innermost fragment -/

/-- At a place of the list stands a fragment that covers the offset, none that covers
it starts later, and none before that place starts as late. -/
structure IsInnermost (fragments : List Fragment) (offset : Int) (i : Nat) (f : Fragment) :
    Prop where
  get : fragments[i]? = some f
  covers : f.contains offset = true
  greatest : ∀ g ∈ fragments, g.contains offset = true → g.start ≤ f.start
  earliest : ∀ j g, j < i → fragments[j]? = some g → g.contains offset = true →
    g.start < f.start

theorem IsInnermost.mem (h : IsInnermost fragments offset i f) : f ∈ fragments :=
  List.mem_of_getElem? h.get

theorem IsInnermost.le (h : IsInnermost fragments offset i f)
    (h' : IsInnermost fragments offset j g) : i ≤ j := by
  by_contra hlt
  have hless := h.earliest j g (by omega) h'.get h'.covers
  have hleast := h'.greatest f h.mem h.covers
  omega

theorem IsInnermost.unique (h : IsInnermost fragments offset i f)
    (h' : IsInnermost fragments offset j g) : f = g := by
  obtain rfl : i = j := Nat.le_antisymm (h.le h') (h'.le h)
  exact Option.some.inj (h.get.symm.trans h'.get)

/-- It stays innermost when one comes that does not cover the offset, or starts no later. -/
theorem IsInnermost.snoc (h : IsInnermost fragments offset i f)
    (hnext : g.contains offset = true → g.start ≤ f.start) :
    IsInnermost (fragments ++ [g]) offset i f := by
  have hi := (List.getElem?_eq_some_iff.mp h.get).1
  refine ⟨?_, h.covers, ?_, ?_⟩
  · rw [List.getElem?_append_left hi, h.get]
  · intro k hk hcovers
    rcases List.mem_append.mp hk with hk | hk
    · exact h.greatest k hk hcovers
    · obtain rfl := List.mem_singleton.mp hk
      exact hnext hcovers
  · intro j k hj hget hcovers
    rw [List.getElem?_append_left (by omega)] at hget
    exact h.earliest j k hj hget hcovers

theorem isInnermost_snoc (hcovers : g.contains offset = true)
    (hlater : ∀ k ∈ fragments, k.contains offset = true → k.start < g.start) :
    IsInnermost (fragments ++ [g]) offset fragments.length g := by
  refine ⟨by simp, hcovers, ?_, ?_⟩
  · intro k hk hkcovers
    rcases List.mem_append.mp hk with hk | hk
    · exact Int.le_of_lt (hlater k hk hkcovers)
    · obtain rfl := List.mem_singleton.mp hk
      exact Int.le_refl _
  · intro j k hj hget hkcovers
    rw [List.getElem?_append_left hj] at hget
    exact hlater k (List.mem_of_getElem? hget) hkcovers

/-! ## The whole search -/

/-- What the search holds after some fragments: nothing when none of them covers the
offset, and else the innermost one. -/
def Holds (fragments : List Fragment) (offset : Int) : Option Fragment → Prop
  | none => ∀ f ∈ fragments, f.contains offset = false
  | some f => ∃ i, IsInnermost fragments offset i f

theorem Holds.snoc_of_not_contains {best? : Option Fragment}
    (h : Holds fragments offset best?) (hcovers : g.contains offset = false) :
    Holds (fragments ++ [g]) offset best? := by
  cases best? with
  | none =>
      intro k hk
      rcases List.mem_append.mp hk with hk | hk
      · exact h k hk
      · rw [List.mem_singleton.mp hk, hcovers]
  | some best =>
      obtain ⟨i, hi⟩ := h
      exact ⟨i, hi.snoc fun htrue => by rw [hcovers] at htrue; cases htrue⟩

/-- **One step of the search.** -/
theorem Holds.snoc {best? : Option Fragment} (h : Holds fragments offset best?)
    (g : Fragment) : Holds (fragments ++ [g]) offset (inner offset best? g) := by
  cases hcovers : g.contains offset with
  | false =>
      rw [inner_of_not_contains hcovers]
      exact h.snoc_of_not_contains hcovers
  | true =>
      cases best? with
      | none =>
          rw [inner_none_of_contains hcovers]
          refine ⟨fragments.length, isInnermost_snoc hcovers fun k hk hkcovers => ?_⟩
          rw [h k hk] at hkcovers
          cases hkcovers
      | some best =>
          obtain ⟨i, hi⟩ := h
          rw [inner_some_of_contains hcovers]
          split
          · next hlater =>
              refine ⟨fragments.length, isInnermost_snoc hcovers fun k hk hkcovers => ?_⟩
              exact Int.lt_of_le_of_lt (hi.greatest k hk hkcovers) hlater
          · next hlater => exact ⟨i, hi.snoc fun _ => Int.not_lt.mp hlater⟩

/-- **The whole search.** -/
theorem holds_innermost (fragments : List Fragment) (offset : Int) :
    Holds fragments offset (innermost fragments offset) := by
  -- The list grows at its end, where the best of all before is known.
  induction fragments using List.reverseRecOn with
  | nil => exact fun f hf => absurd hf List.not_mem_nil
  | append_singleton fragments g ih =>
      rw [innermost_snoc]
      exact ih.snoc g

theorem innermost_eq_none_iff :
    innermost fragments offset = none ↔ ∀ f ∈ fragments, f.contains offset = false := by
  have hholds := holds_innermost fragments offset
  constructor
  · intro hnone
    rw [hnone] at hholds
    exact hholds
  · intro hall
    cases hfound : innermost fragments offset with
    | none => rfl
    | some f =>
        rw [hfound] at hholds
        obtain ⟨i, hi⟩ := hholds
        have hcovers := hall f hi.mem
        rw [hi.covers] at hcovers
        cases hcovers

theorem innermost_eq_some_iff :
    innermost fragments offset = some f ↔ ∃ i, IsInnermost fragments offset i f := by
  have hholds := holds_innermost fragments offset
  constructor
  · intro hfound
    rw [hfound] at hholds
    exact hholds
  · rintro ⟨i, hi⟩
    cases hfound : innermost fragments offset with
    | none =>
        have hcovers := innermost_eq_none_iff.mp hfound f hi.mem
        rw [hi.covers] at hcovers
        cases hcovers
    | some found =>
        rw [hfound] at hholds
        obtain ⟨j, hj⟩ := hholds
        rw [hj.unique hi]

/-! ## What is found -/

/-- **Nothing is found** exactly when no fragment covers the offset. -/
theorem locate_eq_none_iff :
    locate fragments offset = none ↔ ∀ f ∈ fragments, f.contains offset = false := by
  rw [locate, Option.map_eq_none_iff, innermost_eq_none_iff]

/-- **What is found** is the innermost fragment, and the offset is counted from its start. -/
theorem locate_eq_some_iff {cursor : Int} :
    locate fragments offset = some (f, cursor) ↔
      (∃ i, IsInnermost fragments offset i f) ∧ cursor = offset - f.start := by
  rw [locate, Option.map_eq_some_iff, ← innermost_eq_some_iff]
  constructor
  · rintro ⟨found, hfound, heq⟩
    obtain ⟨rfl, rfl⟩ := Prod.mk.inj heq
    exact ⟨hfound, rfl⟩
  · rintro ⟨hfound, rfl⟩
    exact ⟨f, hfound, rfl⟩

theorem of_locate {cursor : Int} (h : locate fragments offset = some (f, cursor)) :
    f ∈ fragments ∧ f.contains offset = true ∧ cursor = offset - f.start := by
  obtain ⟨⟨i, hi⟩, hcursor⟩ := locate_eq_some_iff.mp h
  exact ⟨hi.mem, hi.covers, hcursor⟩

theorem locate_singleton (h : f.contains offset = true) :
    locate [f] offset = some (f, offset - f.start) := by
  show (inner offset none f).map _ = _
  rw [inner_none_of_contains h]
  rfl

/-- An offset that a fragment covers lies in its code. -/
theorem cursor_of_contains (h : f.contains offset = true) :
    0 ≤ offset - f.start ∧ offset - f.start < f.code.toList.length := by
  obtain ⟨hstart, hstop⟩ := contains_iff.mp h
  rw [stop] at hstop
  omega

/-! ## Drafts that are fragments -/

theorem contains_draft_iff {covers : Bool} :
    f.draft.contains (.int offset) = .ok covers ↔ f.contains offset = covers := by
  rw [Draft.contains_draft, Except.ok.injEq]

theorem locate_draft_eq_none_iff :
    Draft.locate (fragments.map draft) (.int offset) = .ok none ↔
      ∀ f ∈ fragments, f.draft.contains (.int offset) = .ok false := by
  rw [Draft.locate_draft, Except.ok.injEq, Option.map_eq_none_iff, locate_eq_none_iff]
  simp only [contains_draft_iff]

theorem exists_of_locate_draft {d : Draft} {cursor : Value}
    (h : Draft.locate (fragments.map draft) (.int offset) = .ok (some (d, cursor))) :
    ∃ f ∈ fragments, f.contains offset = true ∧ d = f.draft ∧
      cursor = .int (offset - f.start) := by
  rw [Draft.locate_draft, Except.ok.injEq, Option.map_eq_some_iff] at h
  obtain ⟨found, hfound, heq⟩ := h
  obtain ⟨rfl, rfl⟩ := Prod.mk.inj heq
  obtain ⟨hmem, hcovers, hcursor⟩ := of_locate hfound
  exact ⟨found.1, hmem, hcovers, rfl, by rw [hcursor]⟩

/-- **Where some fragment covers the offset,** the innermost one is found among the
drafts of all. -/
theorem exists_locate_draft (hmem : g ∈ fragments) (hcovers : g.contains offset = true) :
    ∃ i f, IsInnermost fragments offset i f ∧
      Draft.locate (fragments.map draft) (.int offset) =
        .ok (some (f.draft, .int (offset - f.start))) := by
  cases hfound : innermost fragments offset with
  | none =>
      rw [innermost_eq_none_iff.mp hfound g hmem] at hcovers
      cases hcovers
  | some f =>
      obtain ⟨i, hi⟩ := innermost_eq_some_iff.mp hfound
      refine ⟨i, f, hi, ?_⟩
      rw [Draft.locate_draft, locate_eq_some_iff.mpr ⟨⟨i, hi⟩, rfl⟩]
      rfl

end Typeahead.Fragment
