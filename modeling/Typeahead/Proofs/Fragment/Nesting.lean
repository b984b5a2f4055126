import Mathlib.Data.List.Nodup
import Mathlib.Data.Set.Basic
import Typeahead.Proofs.Fragment.Locate

/-!
# Nested fragments

Where fragments nest, the one that starts last lies inside all others that cover the
offset, and where no two of them start together, neither their order nor the fragments
elsewhere matter. Main statement: `locate_of_nested`.
-/

namespace Typeahead.Fragment

variable {fragments others : List Fragment} {offset : Int} {i : Nat} {f g : Fragment}

/-! ## Spans -/

def span (f : Fragment) : Set Int :=
  {offset | f.contains offset = true}

theorem mem_span : offset ∈ f.span ↔ f.start ≤ offset ∧ offset < f.stop :=
  contains_iff

/-- Any two spans are disjoint, or one includes the other. -/
def Nested (fragments : List Fragment) : Prop :=
  ∀ f ∈ fragments, ∀ g ∈ fragments,
    f.span ∩ g.span = ∅ ∨ f.span ⊆ g.span ∨ g.span ⊆ f.span

theorem span_inter_eq_empty (h : f.stop ≤ g.start) : f.span ∩ g.span = ∅ := by
  apply Set.eq_empty_of_forall_notMem
  rintro o ⟨hf, hg⟩
  rw [mem_span] at hf hg
  omega

theorem span_subset_span (hstart : g.start ≤ f.start) (hstop : f.stop ≤ g.stop) :
    f.span ⊆ g.span := by
  intro o ho
  rw [mem_span] at ho ⊢
  omega

theorem nested_of_bounds (h : ∀ f ∈ fragments, ∀ g ∈ fragments,
    f.stop ≤ g.start ∨ g.stop ≤ f.start ∨ (g.start ≤ f.start ∧ f.stop ≤ g.stop) ∨
      (f.start ≤ g.start ∧ g.stop ≤ f.stop)) : Nested fragments := by
  intro f hf g hg
  rcases h f hf g hg with hbefore | hbehind | ⟨hstart, hstop⟩ | ⟨hstart, hstop⟩
  · exact .inl (span_inter_eq_empty hbefore)
  · rw [Set.inter_comm]
    exact .inl (span_inter_eq_empty hbehind)
  · exact .inr (.inl (span_subset_span hstart hstop))
  · exact .inr (.inr (span_subset_span hstart hstop))

/-- A span that includes another starts no later, unless the other is empty. -/
theorem start_le_of_span_subset (hsubset : g.span ⊆ f.span) (hcovers : g.contains offset = true) :
    f.start ≤ g.start := by
  obtain ⟨hstart, hstop⟩ := contains_iff.mp hcovers
  have hfirst : g.start ∈ g.span := mem_span.mpr ⟨Int.le_refl _, Int.lt_of_le_of_lt hstart hstop⟩
  exact (mem_span.mp (hsubset hfirst)).1

/-! ## The fragments that cover an offset -/

def covering (fragments : List Fragment) (offset : Int) : List Fragment :=
  fragments.filter (·.contains offset)

theorem mem_covering : f ∈ covering fragments offset ↔ f ∈ fragments ∧ f.contains offset = true :=
  List.mem_filter

theorem innermost_eq_none_iff_covering :
    innermost fragments offset = none ↔ covering fragments offset = [] := by
  rw [innermost_eq_none_iff, covering, List.filter_eq_nil_iff]
  simp

theorem eq_of_start_eq (hdistinct : ((covering fragments offset).map start).Nodup)
    (hf : f ∈ covering fragments offset) (hg : g ∈ covering fragments offset)
    (hstart : f.start = g.start) : f = g :=
  List.inj_on_of_nodup_map hdistinct hf hg hstart

/-- **The innermost fragment lies inside** all others that cover the offset. -/
theorem IsInnermost.span_subset (h : IsInnermost fragments offset i f)
    (hnested : Nested fragments) (hdistinct : ((covering fragments offset).map start).Nodup)
    (hg : g ∈ fragments) (hcovers : g.contains offset = true) : f.span ⊆ g.span := by
  rcases hnested f h.mem g hg with hdisjoint | hinside | haround
  · have hboth : offset ∈ f.span ∩ g.span := ⟨h.covers, hcovers⟩
    rw [hdisjoint] at hboth
    exact absurd hboth (Set.notMem_empty offset)
  · exact hinside
  · -- What lies inside the innermost one starts with it, and so is the same.
    have hstart : g.start = f.start :=
      Int.le_antisymm (h.greatest g hg hcovers) (start_le_of_span_subset haround hcovers)
    have hsame : g = f := eq_of_start_eq hdistinct (mem_covering.mpr ⟨hg, hcovers⟩)
      (mem_covering.mpr ⟨h.mem, h.covers⟩) hstart
    rw [hsame]

/-! ## Other lists with the same covering fragments -/

/-- How a list may change while the fragments that cover an offset stay: its fragments
change places, and some that do not cover the offset come or go. -/
inductive Rearranged (offset : Int) : List Fragment → List Fragment → Prop where
  | permuted {fragments others : List Fragment} (h : fragments.Perm others) :
      Rearranged offset fragments others
  | inserted {before behind : List Fragment} {f : Fragment} (h : f.contains offset = false) :
      Rearranged offset (before ++ behind) (before ++ f :: behind)
  | removed {before behind : List Fragment} {f : Fragment} (h : f.contains offset = false) :
      Rearranged offset (before ++ f :: behind) (before ++ behind)
  | trans {fragments between others : List Fragment} (h : Rearranged offset fragments between)
      (h' : Rearranged offset between others) : Rearranged offset fragments others

theorem covering_append_cons {before behind : List Fragment} (h : f.contains offset = false) :
    covering (before ++ f :: behind) offset = covering (before ++ behind) offset := by
  simp [covering, h]

/-- **The same fragments cover the offset** after the change, perhaps in another order. -/
theorem Rearranged.covering_perm (h : Rearranged offset fragments others) :
    (covering fragments offset).Perm (covering others offset) := by
  induction h with
  | permuted h => exact h.filter _
  | inserted h => rw [covering_append_cons h]
  | removed h => rw [covering_append_cons h]
  | trans _ _ ih ih' => exact ih.trans ih'

/-- The covering fragments decide, whatever their order. -/
theorem innermost_of_covering_perm (hdistinct : ((covering fragments offset).map start).Nodup)
    (hperm : (covering fragments offset).Perm (covering others offset)) :
    innermost others offset = innermost fragments offset := by
  cases hfound : innermost fragments offset with
  | none =>
      rw [innermost_eq_none_iff_covering] at hfound ⊢
      rw [hfound] at hperm
      exact hperm.nil_eq.symm
  | some f =>
      obtain ⟨i, hi⟩ := innermost_eq_some_iff.mp hfound
      have hf := mem_covering.mpr ⟨hi.mem, hi.covers⟩
      have hf' := mem_covering.mp (hperm.mem_iff.mp hf)
      cases hfound' : innermost others offset with
      | none =>
          rw [innermost_eq_none_iff.mp hfound' f hf'.1] at hf'
          exact absurd hf'.2 Bool.false_ne_true
      | some g =>
          obtain ⟨j, hj⟩ := innermost_eq_some_iff.mp hfound'
          have hg := hperm.mem_iff.mpr (mem_covering.mpr ⟨hj.mem, hj.covers⟩)
          have hg' := mem_covering.mp hg
          have hstart : g.start = f.start :=
            Int.le_antisymm (hi.greatest g hg'.1 hg'.2) (hj.greatest f hf'.1 hf'.2)
          rw [eq_of_start_eq hdistinct hg hf hstart]

/-- **Where fragments nest, the innermost one is found, whatever their order.** If no
two of the fragments that cover the offset start together: where fragments nest and some
of them cover the offset, what is found lies inside all that do; and it stays the same,
with the same cursor in it, when the fragments change places and others that do not
cover the offset come or go. -/
theorem locate_of_nested (hdistinct : ((covering fragments offset).map start).Nodup) :
    (Nested fragments → (∃ g ∈ fragments, g.contains offset = true) →
      ∃ f ∈ fragments,
        Draft.locate (fragments.map draft) (.int offset) =
          .ok (some (f.draft, .int (offset - f.start))) ∧
        ∀ g ∈ fragments, g.contains offset = true → f.span ⊆ g.span) ∧
    ∀ others, Rearranged offset fragments others →
      Draft.locate (others.map draft) (.int offset) =
        Draft.locate (fragments.map draft) (.int offset) := by
  constructor
  · rintro hnested ⟨g, hg, hcovers⟩
    obtain ⟨i, f, hf, hlocate⟩ := exists_locate_draft hg hcovers
    refine ⟨f, hf.mem, hlocate, fun k hk hkcovers => ?_⟩
    exact hf.span_subset hnested hdistinct hk hkcovers
  · intro others hrearranged
    rw [Draft.locate_draft, Draft.locate_draft, locate, locate,
      innermost_of_covering_perm hdistinct hrearranged.covering_perm]

/-- Three fragments around one another, then in another order, with an empty one among
them and without the one that stands apart. -/
theorem locate_of_nested_reordered :
    let outer : Fragment := ⟨.text "markdown", "ab cdef gh", 0, {}⟩
    let middle : Fragment := ⟨.text "latex", "cdef", 3, {}⟩
    let core : Fragment := ⟨.text "plaintext", "de", 4, {}⟩
    let aside : Fragment := ⟨.text "latex", "gh", 8, {}⟩
    let empty : Fragment := ⟨.text "latex", "", 5, {}⟩
    ((covering [middle, aside, core, outer] 5).map start).Nodup ∧
    Nested [middle, aside, core, outer] ∧
    Rearranged 5 [middle, aside, core, outer] [core, empty, outer, middle] ∧
    (∃ f : Fragment, Draft.locate ([middle, aside, core, outer].map draft) (.int 5) =
        .ok (some (f.draft, .int (5 - f.start))) ∧
      f.span ⊆ middle.span ∧ f.span ⊆ outer.span) ∧
    Draft.locate ([core, empty, outer, middle].map draft) (.int 5) =
      .ok (some (core.draft, .int 1)) := by
  intro outer middle core aside empty
  have hdistinct : ((covering [middle, aside, core, outer] 5).map start).Nodup := by decide
  have hnested : Nested [middle, aside, core, outer] := nested_of_bounds (by decide)
  have hrearranged : Rearranged 5 [middle, aside, core, outer] [core, empty, outer, middle] := by
    have hgone : Rearranged 5 [middle, aside, core, outer] [middle, core, outer] :=
      @Rearranged.removed 5 [middle] [core, outer] aside (by decide)
    have hturned : Rearranged 5 [middle, core, outer] [core, outer, middle] :=
      .permuted (@List.perm_append_comm _ [middle] [core, outer])
    have hcome : Rearranged 5 [core, outer, middle] [core, empty, outer, middle] :=
      @Rearranged.inserted 5 [core] [outer, middle] empty (by decide)
    exact (hgone.trans hturned).trans hcome
  obtain ⟨hinside, hsame⟩ := locate_of_nested hdistinct
  obtain ⟨f, -, hlocate, hwithin⟩ := hinside hnested ⟨core, by simp, by decide⟩
  refine ⟨hdistinct, hnested, hrearranged, ⟨f, hlocate, ?_, ?_⟩, ?_⟩
  · exact hwithin middle (by simp) (by decide)
  · exact hwithin outer (by simp) (by decide)
  · rw [hsame _ hrearranged, Draft.locate_draft]
    simp [locate, innermost, inner, contains, stop, outer, middle, core, aside]

end Typeahead.Fragment
