import Mathlib.Data.List.Chain
import Typeahead.Proofs.Text.Break

/-!
# How the lines of a text lie

The lines of a text follow one another, and between a line and the next stands one
line break and nothing else. So the lines and what stands between them give back
the text, and the characters of the breaks tell how many lines there are. Main
statements: `CutInto.isChain`, `CutInto.withGaps_eq` and `length_lines_add_pairs`.
-/

namespace Typeahead.Text

/-- The characters from one offset up to another. -/
def segment (cs : List Char) (a b : Nat) : List Char :=
  (cs.drop a).take (b - a)

/-- What may stand between a line that stops at `stop` and the next one, which starts
at `next`. A carriage return stands alone only where no line feed follows. -/
def IsGap (cs : List Char) (stop next : Nat) : Prop :=
  segment cs stop next = ['\r', '\n'] ∨
    segment cs stop next = ['\n'] ∨
    segment cs stop next = ['\r'] ∧ cs[next]? ≠ some '\n'

/-- The lines of a text in order, each with what stands between it and the next. -/
def withGaps (cs : List Char) : List Line → List Char
  | [] => []
  | [l] => segment cs l.start l.stop
  | l :: next :: ls =>
      segment cs l.start l.stop ++ segment cs l.stop next.start ++ withGaps cs (next :: ls)

/-- How often a carriage return has a line feed right behind it. -/
def pairs (cs : List Char) : Nat :=
  (cs.zip cs.tail).count ('\r', '\n')

/-! ## Segments -/

theorem segment_append_drop (cs : List Char) {a b : Nat} (h : a ≤ b) :
    segment cs a b ++ cs.drop b = cs.drop a := by
  have hdrop : (cs.drop a).drop (b - a) = cs.drop b := by
    rw [List.drop_drop, Nat.add_sub_cancel' h]
  rw [segment, ← hdrop, List.take_append_drop]

theorem segment_length (cs : List Char) (a : Nat) : segment cs a cs.length = cs.drop a := by
  rw [segment, ← List.length_drop, List.take_length]

theorem Unbroken.not_mem_segment {cs : List Char} {a b : Nat} (h : Unbroken cs a b) :
    '\r' ∉ segment cs a b ∧ '\n' ∉ segment cs a b := by
  have hget : ∀ {c : Char}, c ∈ segment cs a b → ∃ i, a ≤ i ∧ i < b ∧ cs[i]? = some c := by
    intro c hc
    obtain ⟨k, hk⟩ := List.mem_iff_getElem?.mp hc
    have hlt : k < b - a := by
      have hlen := (List.getElem?_eq_some_iff.mp hk).1
      rw [segment, List.length_take] at hlen
      omega
    rw [segment, List.getElem?_take_of_lt hlt, List.getElem?_drop] at hk
    exact ⟨a + k, by omega, by omega, hk⟩
  constructor
  · intro hcr
    obtain ⟨i, ha, hb, hi⟩ := hget hcr
    exact (h i ha hb).1 hi
  · intro hlf
    obtain ⟨i, ha, hb, hi⟩ := hget hlf
    exact (h i ha hb).2 hi

/-- A break is what may stand between two lines. -/
theorem Break.isGap {cs : List Char} {p e : Nat} (h : Break cs p e) : IsGap cs p e := by
  have hone : ∀ {q : Nat} {c : Char}, cs[q]? = some c → cs.drop q = c :: cs.drop (q + 1) := by
    intro q c hq
    obtain ⟨hlt, rfl⟩ := List.getElem?_eq_some_iff.mp hq
    exact List.drop_eq_getElem_cons hlt
  cases h with
  | pair hcr hlf =>
      refine .inl ?_
      rw [segment, hone hcr, hone hlf, Nat.add_sub_cancel_left]
      rfl
  | carriage hcr hlf =>
      refine .inr (.inr ⟨?_, hlf⟩)
      rw [segment, hone hcr, Nat.add_sub_cancel_left]
      rfl
  | feed hlf hcr =>
      refine .inr (.inl ?_)
      rw [segment, hone hlf, Nat.add_sub_cancel_left]
      rfl

/-! ## One line behind the other -/

section Order

variable {cs : List Char} {start : Nat} {ls : List Line}

theorem CutInto.exists_cons (h : CutInto cs start ls) :
    ∃ stop rest, ls = ⟨start, stop⟩ :: rest := by
  cases h with
  | last hle hline => exact ⟨_, _, rfl⟩
  | cons hle hline hbreak hrest => exact ⟨_, _, rfl⟩

theorem CutInto.getLast?_stop (h : CutInto cs start ls) :
    ls.getLast?.map Line.stop = some cs.length := by
  induction h with
  | last hle hline => rfl
  | cons hle hline hbreak hrest ih =>
      obtain ⟨stop, rest, rfl⟩ := hrest.exists_cons
      rw [List.getLast?_cons_cons]
      exact ih

/-- **Between a line and the next stands one break.** -/
theorem CutInto.isChain (h : CutInto cs start ls) :
    ls.IsChain fun l next => Break cs l.stop next.start := by
  induction h with
  | last hle hline => exact List.isChain_singleton _
  | cons hle hline hbreak hrest ih =>
      obtain ⟨stop, rest, rfl⟩ := hrest.exists_cons
      exact List.isChain_cons_cons.mpr ⟨hbreak, ih⟩

theorem CutInto.start_le (h : CutInto cs start ls) : ∀ l ∈ ls, start ≤ l.start := by
  induction h with
  | last hle hline =>
      intro l hl
      obtain rfl := List.mem_singleton.mp hl
      exact Nat.le_refl _
  | cons hle hline hbreak hrest ih =>
      intro l hl
      rcases List.mem_cons.mp hl with rfl | hl
      · exact Nat.le_refl _
      · exact Nat.le_trans hle (Nat.le_trans (Nat.le_of_lt hbreak.lt) (ih l hl))

theorem CutInto.pairwise (h : CutInto cs start ls) :
    ls.Pairwise fun l next => l.stop < next.start := by
  induction h with
  | last hle hline => exact List.pairwise_singleton _ _
  | cons hle hline hbreak hrest ih =>
      refine List.pairwise_cons.mpr ⟨fun l hl => ?_, ih⟩
      exact Nat.lt_of_lt_of_le hbreak.lt (hrest.start_le l hl)

/-- **The lines and what stands between them** give back the text. -/
theorem CutInto.withGaps_eq (h : CutInto cs start ls) : withGaps cs ls = cs.drop start := by
  induction h with
  | last hle hline => exact segment_length cs _
  | @cons start stop next ls hle hline hbreak hrest ih =>
      obtain ⟨stop', rest, rfl⟩ := hrest.exists_cons
      rw [withGaps, ih, List.append_assoc, segment_append_drop cs (Nat.le_of_lt hbreak.lt),
        segment_append_drop cs hle]

end Order

/-! ## How many lines -/

theorem pairs_cons (c : Char) (cs : List Char) :
    pairs (c :: cs) = (if c = '\r' ∧ cs.head? = some '\n' then 1 else 0) + pairs cs := by
  cases cs with
  | nil => simp [pairs]
  | cons d rest =>
      simp only [pairs, List.tail_cons, List.zip_cons_cons, List.count_cons, List.head?_cons,
        beq_iff_eq, Prod.mk.injEq, Option.some.injEq]
      omega

theorem endsBreak_one (c : Char) (cs : List Char) :
    endsBreak (c :: cs) 1 = true ↔ c = '\n' ∨ c = '\r' ∧ cs.head? ≠ some '\n' := by
  simp [endsBreak, List.head?_eq_getElem?]

theorem endsBreak_cons (c : Char) (cs : List Char) {e : Nat} (he : 0 < e) :
    endsBreak (c :: cs) (e + 1) = endsBreak cs e := by
  obtain ⟨p, rfl⟩ : ∃ p, e = p + 1 := ⟨e - 1, by omega⟩
  simp [endsBreak]

/-- A character in front moves all breaks by one place, and may end one itself. -/
theorem length_endsWithin_cons (c : Char) (cs : List Char) :
    (endsWithin (c :: cs) 0 (c :: cs).length).length =
      (endsWithin cs 0 cs.length).length + (if endsBreak (c :: cs) 1 then 1 else 0) := by
  have hrest : (List.range' (1 + 1) cs.length).countP (endsBreak (c :: cs)) =
      (List.range' 1 cs.length).countP (endsBreak cs) := by
    rw [← List.map_add_range', List.countP_map]
    refine List.countP_congr fun e he => ?_
    rw [Function.comp_apply, Nat.add_comm, endsBreak_cons c cs (List.mem_range'_1.mp he).1]
  have hlength : ∀ ds : List Char, (endsWithin ds 0 ds.length).length =
      (List.range' 1 ds.length).countP (endsBreak ds) :=
    fun ds => List.countP_eq_length_filter.symm
  rw [hlength, hlength, List.length_cons, List.range'_succ, List.countP_cons, hrest]

/-- There is a break for each line feed and each carriage return, but the two of a
pair share theirs. -/
theorem length_endsWithin_add_pairs (cs : List Char) :
    (endsWithin cs 0 cs.length).length + pairs cs = cs.count '\n' + cs.count '\r' := by
  induction cs with
  | nil => rfl
  | cons c cs ih =>
      rw [length_endsWithin_cons, pairs_cons, List.count_cons, List.count_cons]
      simp only [endsBreak_one, beq_iff_eq]
      by_cases hlf : c = '\n'
      · subst hlf
        simp only [reduceIte, true_or, Char.reduceEq, false_and]
        omega
      · by_cases hcr : c = '\r' <;> by_cases hnext : cs.head? = some '\n' <;>
          simp [hlf, hcr, hnext] <;> omega

/-- **How many lines a text has**, by the characters of its breaks. -/
theorem length_lines_add_pairs (cs : List Char) :
    (lines cs).length + pairs cs = 1 + cs.count '\n' + cs.count '\r' := by
  have hbreaks := length_endsWithin_add_pairs cs
  rw [(cutInto_lines cs).length_eq]
  omega

end Typeahead.Text
