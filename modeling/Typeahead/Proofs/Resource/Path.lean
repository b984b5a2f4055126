import Mathlib.Tactic.IntervalCases
import Typeahead.Proofs.Text.Blank
import Typeahead.Resource.Path

/-!
# Normal forms of paths

What the text of a path is like that was read from another text. Main statements:
`parse_render`: a path in normal form is read back from its own text, and
`isNormalForm_render_parse`: its text begins with the slashes that count and then has the
components that count, in their order, and nothing else.
-/

namespace Typeahead.Resource.Path

open Typeahead.Text

/-! ## Slashes and components -/

def slashesAhead (text : String) : Nat :=
  (text.toList.takeWhile (· = '/')).length

/-- The components of a text: what stands between slashes, behind those that it begins
with. -/
def components (text : String) : List (List Char) :=
  (text.toList.dropWhile (· = '/')).splitOn '/'

theorem isNamed_iff {part : List Char} : isNamed part = true ↔ part ≠ [] ∧ part ≠ ['.'] := by
  simp [isNamed]

/-- The slashes at the front of a text cut off nothing that is named. -/
theorem filter_splitOn_dropWhile (cs : List Char) :
    (splitOn '/' (cs.dropWhile (· = '/'))).filter isNamed = (splitOn '/' cs).filter isNamed := by
  induction cs with
  | nil => rfl
  | cons c rest ih =>
      by_cases hc : c = '/'
      · subst hc
        rw [List.dropWhile_cons_of_pos (by decide), ih, splitOn, if_pos rfl]
        rfl
      · rw [List.dropWhile_cons_of_neg (by simpa using hc)]

/-! ## Reading -/

def counted : Nat → Nat
  | 0 => 0
  | 2 => 2
  | _ => 1

theorem counted_le_two (n : Nat) : counted n ≤ 2 := by
  unfold counted
  split <;> decide

theorem counted_eq_zero_iff {n : Nat} : counted n = 0 ↔ n = 0 := by
  unfold counted
  split <;> simp_all

theorem counted_of_absolute {n : Nat} (h : n = 1 ∨ 3 ≤ n) : counted n = 1 := by
  unfold counted
  split <;> omega

theorem counted_of_le_two {n : Nat} (h : n ≤ 2) : counted n = n := by
  interval_cases n <;> rfl

theorem slashes_parse (text : String) : (parse text).slashes = counted (slashesAhead text) := rfl

theorem map_parts_parse (text : String) :
    (parse text).parts.map String.toList = (components text).filter isNamed := by
  rw [components, ← splitOn_eq_list_splitOn, filter_splitOn_dropWhile, parse, List.map_map]
  simp [Function.comp_def]

/-- A path in normal form: its parts are named, and no part can be cut. -/
structure IsNormal (p : Path) : Prop where
  slashes : p.slashes ≤ 2
  named : ∀ part ∈ p.parts, isNamed part.toList = true
  whole : ∀ part ∈ p.parts, '/' ∉ part.toList

theorem isNormal_parse (text : String) : (parse text).IsNormal := by
  have hparts : ∀ part ∈ (parse text).parts,
      isNamed part.toList = true ∧ part.toList ∈ components text := by
    intro part hpart
    have hmem := List.mem_map_of_mem (f := String.toList) hpart
    rw [map_parts_parse] at hmem
    exact ⟨List.of_mem_filter hmem, List.mem_of_mem_filter hmem⟩
  refine ⟨?_, fun part hpart => (hparts part hpart).1, fun part hpart => ?_⟩
  · rw [slashes_parse]
    exact counted_le_two _
  · have hcut := (hparts part hpart).2
    rw [components, ← splitOn_eq_list_splitOn] at hcut
    exact not_mem_of_mem_splitOn hcut

/-! ## The text of a path -/

variable {p : Path}

def joined (p : Path) : List Char :=
  joinWith '/' (p.parts.map String.toList)

theorem toList_render_of_ne (h : ¬ (p.slashes = 0 ∧ p.parts = [])) :
    p.render.toList = List.replicate p.slashes '/' ++ p.joined := by
  rw [render, String.toList_ofList, chars, if_neg h]
  rfl

theorem IsNormal.head?_joined (h : p.IsNormal) : ∀ c ∈ p.joined.head?, c ≠ '/' := by
  rintro c hc rfl
  unfold joined at hc
  cases hparts : p.parts with
  | nil =>
      rw [hparts] at hc
      cases hc
  | cons part rest =>
      have hpart : part ∈ p.parts := hparts ▸ List.mem_cons_self
      obtain ⟨behind, hbehind⟩ := joinWith_cons '/' (rest.map String.toList)
      have hne := (isNamed_iff.mp (h.named part hpart)).1
      rw [hparts, List.map_cons, hbehind, List.head?_append_of_ne_nil _ hne] at hc
      exact h.whole part hpart (List.mem_of_head? hc)

theorem IsNormal.getLast?_joined (h : p.IsNormal) (hne : p.parts ≠ []) :
    ∃ c, p.joined.getLast? = some c ∧ c ≠ '/' := by
  obtain ⟨front, part, hparts⟩ := (List.eq_nil_or_concat' p.parts).resolve_left hne
  have hpart : part ∈ p.parts := by
    rw [hparts]
    exact List.mem_append_right _ (List.mem_singleton_self _)
  obtain ⟨ahead, hahead⟩ := joinWith_concat '/' (front.map String.toList)
  have hchars := (isNamed_iff.mp (h.named part hpart)).1
  refine ⟨part.toList.getLast hchars, ?_, fun heq => h.whole part hpart ?_⟩
  · rw [joined, hparts, List.map_append, List.map_singleton, hahead,
      List.getLast?_append_of_ne_nil _ hchars, List.getLast?_eq_some_getLast hchars]
  · rw [← heq]
    exact List.getLast_mem hchars

/-- What cuts a text into its slashes ahead and the rest cuts the text of a path into its
slashes and its parts. -/
theorem IsNormal.cut_render (h : p.IsNormal) (hne : ¬ (p.slashes = 0 ∧ p.parts = [])) :
    slashesAhead p.render = p.slashes ∧ p.render.toList.dropWhile (· = '/') = p.joined := by
  have hslashes : ∀ c ∈ List.replicate p.slashes '/', decide (c = '/') = true := by
    intro c hc
    rw [List.eq_of_mem_replicate hc]
    rfl
  have hrest : ∀ c ∈ p.joined.head?, decide (c = '/') = false :=
    fun c hc => decide_eq_false (h.head?_joined c hc)
  rw [slashesAhead, toList_render_of_ne hne]
  constructor
  · rw [List.takeWhile_append_of_pos hslashes]
    cases hjoined : p.joined with
    | nil => simp
    | cons c rest =>
        rw [hjoined] at hrest
        rw [List.takeWhile_cons_of_neg (by simpa using hrest c rfl)]
        simp
  · rw [List.dropWhile_append_of_pos hslashes, dropWhile_of_head? hrest]

theorem IsNormal.components_render (h : p.IsNormal) (hne : p.parts ≠ []) :
    components p.render = p.parts.map String.toList := by
  rw [components, (h.cut_render fun hdot => hne hdot.2).2, joined, joinWith_eq_intercalate]
  refine List.splitOn_intercalate '/' (fun part hpart => ?_) (by simpa using hne)
  obtain ⟨text, htext, rfl⟩ := List.mem_map.mp hpart
  exact h.whole text htext

theorem IsNormal.named_components_render (h : p.IsNormal) :
    (components p.render).filter isNamed = p.parts.map String.toList := by
  by_cases hparts : p.parts = []
  · by_cases hslashes : p.slashes = 0
    · have hdot : p.render = "." := by
        rw [render, chars, if_pos ⟨hslashes, hparts⟩]
      rw [hdot, hparts]
      decide
    · rw [components, (h.cut_render fun hdot => hslashes hdot.1).2, joined, hparts]
      decide
  · rw [h.components_render hparts, List.filter_eq_self]
    intro part hpart
    obtain ⟨text, htext, rfl⟩ := List.mem_map.mp hpart
    exact h.named text htext

theorem IsNormal.slashesAhead_render (h : p.IsNormal) : slashesAhead p.render = p.slashes := by
  by_cases hdot : p.slashes = 0 ∧ p.parts = []
  · rw [render, chars, if_pos hdot, hdot.1]
    decide
  · exact (h.cut_render hdot).1

theorem IsNormal.render_eq_dot_iff (h : p.IsNormal) :
    p.render = "." ↔ p.slashes = 0 ∧ p.parts = [] := by
  constructor
  · intro hdot
    have hslashes := h.slashesAhead_render
    rw [hdot] at hslashes
    refine ⟨hslashes.symm, ?_⟩
    have hparts := h.named_components_render
    rw [hdot] at hparts
    exact List.map_eq_nil_iff.mp hparts.symm
  · intro hdot
    rw [render, chars, if_pos hdot]

/-- **A path in normal form is read back from its text.** -/
theorem parse_render (h : p.IsNormal) : parse p.render = p := by
  have hparts : (parse p.render).parts = p.parts := by
    apply List.map_injective_iff.mpr fun _ _ => String.toList_injective
    rw [map_parts_parse, h.named_components_render]
  have hslashes : (parse p.render).slashes = p.slashes := by
    rw [slashes_parse, h.slashesAhead_render, counted_of_le_two h.slashes]
  calc parse p.render = ⟨(parse p.render).slashes, (parse p.render).parts⟩ := rfl
    _ = ⟨p.slashes, p.parts⟩ := by rw [hslashes, hparts]

/-! ## Normal forms of texts -/

/-- A text is the normal form of another one, as a path. -/
structure IsNormalForm (text normal : String) : Prop where
  /-- A relative path stays relative. -/
  relative : slashesAhead text = 0 → slashesAhead normal = 0
  absolute : slashesAhead text = 1 ∨ 3 ≤ slashesAhead text → slashesAhead normal = 1
  /-- Exactly two slashes are kept apart from one. -/
  double : slashesAhead text = 2 → slashesAhead normal = 2
  /-- Empty components and single dots apart, both have the same ones, double dots among
  them. -/
  named : (components normal).filter isNamed = (components text).filter isNamed
  dot : normal = "." ↔ slashesAhead text = 0 ∧ ∀ part ∈ components text, part = [] ∨ part = ['.']
  /-- If more is left of it than slashes, no component is empty or a single dot. -/
  plain : normal ≠ "." → (∃ c ∈ normal.toList, c ≠ '/') →
    (∀ part ∈ components normal, part ≠ [] ∧ part ≠ ['.']) ∧ normal.toList.getLast? ≠ some '/'

theorem parts_parse_eq_nil_iff (text : String) :
    (parse text).parts = [] ↔ ∀ part ∈ components text, part = [] ∨ part = ['.'] := by
  rw [← List.map_eq_nil_iff (f := String.toList), map_parts_parse, List.filter_eq_nil_iff]
  refine forall₂_congr fun part _ => ?_
  rw [isNamed_iff]
  tauto

/-- **The text of a path that was read** is the normal form of the text it was read from. -/
theorem isNormalForm_render_parse (text : String) : IsNormalForm text (parse text).render := by
  have hnormal := isNormal_parse text
  have hslashes : slashesAhead (parse text).render = counted (slashesAhead text) :=
    hnormal.slashesAhead_render.trans (slashes_parse text)
  constructor
  · intro htext
    rw [hslashes, counted_eq_zero_iff.mpr htext]
  · intro htext
    rw [hslashes, counted_of_absolute htext]
  · intro htext
    rw [hslashes, htext, counted]
  · rw [hnormal.named_components_render, map_parts_parse]
  · rw [hnormal.render_eq_dot_iff, parts_parse_eq_nil_iff, slashes_parse, counted_eq_zero_iff]
  · rintro hdot ⟨c, hc, hslash⟩
    rw [Ne, hnormal.render_eq_dot_iff] at hdot
    have hchars := toList_render_of_ne hdot
    -- Without parts, the text is made of slashes.
    have hparts : (parse text).parts ≠ [] := by
      intro hnil
      rw [hchars, joined, hnil, List.map_nil, joinWith, List.append_nil] at hc
      exact hslash (List.eq_of_mem_replicate hc)
    constructor
    · intro part hpart
      rw [hnormal.components_render hparts] at hpart
      obtain ⟨named, hnamed, rfl⟩ := List.mem_map.mp hpart
      exact isNamed_iff.mp (hnormal.named named hnamed)
    · obtain ⟨last, hlast, hne⟩ := hnormal.getLast?_joined hparts
      rw [hchars, List.getLast?_append, hlast, Option.some_or]
      exact fun heq => hne (Option.some.inj heq)

end Typeahead.Resource.Path
