import Mathlib.Data.List.Basic
import Typeahead.Text.Lines

/-!
# Line breaks

What a line break is, said without the scan that finds the lines: a carriage
return with a line feed, a carriage return before anything else, or a line feed
that no carriage return precedes. Main statement: `cutInto_lines`. The scan cuts
a text at its breaks and nowhere else. All that is proved of lines goes through
the relation `CutInto`, and nothing else opens the scan.
-/

namespace Typeahead.Text

/-- The offset lies between a carriage return and the line feed right behind it. -/
def InsidePair (cs : List Char) (o : Nat) : Prop :=
  0 < o ∧ cs[o - 1]? = some '\r' ∧ cs[o]? = some '\n'

instance (cs : List Char) (o : Nat) : Decidable (InsidePair cs o) := by
  unfold InsidePair; infer_instance

/-- A line break, by the offset of its first character and the one behind its
last. -/
inductive Break (cs : List Char) : Nat → Nat → Prop where
  | pair {p : Nat} (hcr : cs[p]? = some '\r') (hlf : cs[p + 1]? = some '\n') :
      Break cs p (p + 2)
  | carriage {p : Nat} (hcr : cs[p]? = some '\r') (hlf : cs[p + 1]? ≠ some '\n') :
      Break cs p (p + 1)
  | feed {p : Nat} (hlf : cs[p]? = some '\n') (hcr : ¬ InsidePair cs p) :
      Break cs p (p + 1)

def endsBreak (cs : List Char) (e : Nat) : Bool :=
  0 < e && (cs[e - 1]? == some '\n' || (cs[e - 1]? == some '\r' && cs[e]? != some '\n'))

/-- The ends of the line breaks that end behind `a` and at or before `b`. -/
def endsWithin (cs : List Char) (a b : Nat) : List Nat :=
  (List.range' (a + 1) (b - a)).filter (endsBreak cs)

/-- Between two offsets stands no character of a break. -/
def Unbroken (cs : List Char) (a b : Nat) : Prop :=
  ∀ i, a ≤ i → i < b → cs[i]? ≠ some '\r' ∧ cs[i]? ≠ some '\n'

/-- From an offset on, a text is cut into lines at its breaks. -/
inductive CutInto (cs : List Char) : Nat → List Line → Prop where
  | last {start : Nat} (hle : start ≤ cs.length) (hline : Unbroken cs start cs.length) :
      CutInto cs start [⟨start, cs.length⟩]
  | cons {start stop next : Nat} {ls : List Line} (hle : start ≤ stop)
      (hline : Unbroken cs start stop) (hbreak : Break cs stop next) (hrest : CutInto cs next ls) :
      CutInto cs start (⟨start, stop⟩ :: ls)

/-! ## Breaks -/

theorem endsBreak_iff {cs : List Char} {e : Nat} :
    endsBreak cs e = true ↔ ∃ p, Break cs p e := by
  constructor
  · intro h
    simp only [endsBreak, Bool.and_eq_true, Bool.or_eq_true, decide_eq_true_eq, beq_iff_eq,
      bne_iff_ne] at h
    obtain ⟨hpos, hend⟩ := h
    obtain ⟨p, rfl⟩ : ∃ p, e = p + 1 := ⟨e - 1, by omega⟩
    rw [Nat.add_sub_cancel] at hend
    rcases hend with hlf | ⟨hcr, hlf⟩
    · -- A line feed ends the pair it belongs to, or is a break by itself.
      by_cases hin : InsidePair cs p
      · obtain ⟨hp, hcr, _⟩ := hin
        obtain ⟨q, rfl⟩ : ∃ q, p = q + 1 := ⟨p - 1, by omega⟩
        exact ⟨q, .pair (by simpa using hcr) hlf⟩
      · exact ⟨p, .feed hlf hin⟩
    · exact ⟨p, .carriage hcr hlf⟩
  · rintro ⟨p, hp⟩
    cases hp with
    | pair hcr hlf => simp [endsBreak, hlf]
    | carriage hcr hlf => simp [endsBreak, hcr, hlf]
    | feed hlf hcr => simp [endsBreak, hlf]

theorem Break.lt {cs : List Char} {p e : Nat} (h : Break cs p e) : p < e := by
  cases h <;> omega

theorem Break.le_length {cs : List Char} {p e : Nat} (h : Break cs p e) : e ≤ cs.length := by
  cases h with
  | pair hcr hlf => exact (List.getElem?_eq_some_iff.mp hlf).1
  | carriage hcr hlf => exact (List.getElem?_eq_some_iff.mp hcr).1
  | feed hlf hcr => exact (List.getElem?_eq_some_iff.mp hlf).1

/-- Inside a break there is only the place between the two characters of a pair. -/
theorem Break.insidePair {cs : List Char} {p e o : Nat} (h : Break cs p e) (hp : p < o)
    (he : o < e) : InsidePair cs o := by
  cases h with
  | pair hcr hlf =>
      obtain rfl : o = p + 1 := by omega
      exact ⟨by omega, by simpa using hcr, hlf⟩
  | carriage hcr hlf => omega
  | feed hlf hcr => omega

theorem Break.not_insidePair {cs : List Char} {p e : Nat} (h : Break cs p e) :
    ¬ InsidePair cs e := by
  rintro ⟨_, hcr', hlf'⟩
  cases h with
  | pair hcr hlf => simp [hlf] at hcr'
  | carriage hcr hlf => exact hlf hlf'
  | feed hlf hcr => simp [hlf] at hcr'

theorem not_insidePair_zero (cs : List Char) : ¬ InsidePair cs 0 := by
  rintro ⟨h, _⟩
  omega

/-! ## Ends of breaks -/

theorem endsWithin_append (cs : List Char) {a b c : Nat} (hab : a ≤ b) (hbc : b ≤ c) :
    endsWithin cs a c = endsWithin cs a b ++ endsWithin cs b c := by
  have hrange : List.range' (a + 1) (c - a) =
      List.range' (a + 1) (b - a) ++ List.range' (b + 1) (c - b) := by
    have h := @List.range'_append (a + 1) (b - a) (c - b) 1
    rw [show a + 1 + 1 * (b - a) = b + 1 by omega, show b - a + (c - b) = c - a by omega] at h
    exact h.symm
  rw [endsWithin, hrange, List.filter_append]
  rfl

/-- The ends of breaks up to an offset are decided by the characters before it; if
the last of them is a carriage return, also by whether a line feed follows. -/
theorem endsWithin_congr {cs ds : List Char} {a b : Nat} (h : ∀ i < b, cs[i]? = ds[i]?)
    (hcr : cs[b - 1]? = some '\r' → (cs[b]? = some '\n' ↔ ds[b]? = some '\n')) :
    endsWithin cs a b = endsWithin ds a b := by
  unfold endsWithin
  refine List.filter_congr fun e he => ?_
  obtain ⟨ha, hb⟩ := List.mem_range'_1.mp he
  have hprev : cs[e - 1]? = ds[e - 1]? := h (e - 1) (by omega)
  rcases Nat.lt_or_ge e b with hlt | hge
  · rw [endsBreak, endsBreak, hprev, h e hlt]
  · obtain rfl : e = b := by omega
    by_cases hlast : cs[e - 1]? = some '\r'
    · have hnext : (cs[e]? != some '\n') = (ds[e]? != some '\n') := by
        rw [Bool.eq_iff_iff, bne_iff_ne, bne_iff_ne]
        exact not_congr (hcr hlast)
      rw [endsBreak, endsBreak, hprev, hnext]
    · rw [hprev] at hlast
      rw [endsBreak, endsBreak, hprev, beq_eq_false_iff_ne.mpr hlast, Bool.false_and,
        Bool.false_and]

/-- No break ends behind an unbroken stretch before its end. -/
theorem endsWithin_of_unbroken {cs : List Char} {a b : Nat} (h : Unbroken cs a b) :
    endsWithin cs a b = [] := by
  rw [endsWithin, List.filter_eq_nil_iff]
  intro e he
  obtain ⟨ha, hb⟩ := List.mem_range'_1.mp he
  obtain ⟨hcr, hlf⟩ := h (e - 1) (by omega) (by omega)
  simp [endsBreak, hcr, hlf]

theorem unbroken_self (cs : List Char) (a : Nat) : Unbroken cs a a := by
  intro i hi hi'
  omega

theorem Unbroken.mono {cs : List Char} {a b a' b' : Nat} (h : Unbroken cs a b) (ha : a ≤ a')
    (hb : b' ≤ b) : Unbroken cs a' b' :=
  fun i hi hi' => h i (Nat.le_trans ha hi) (Nat.lt_of_lt_of_le hi' hb)

/-- Behind the start of a break only its own end follows, up to that end. -/
theorem endsWithin_break {cs : List Char} {p e : Nat} (h : Break cs p e) :
    endsWithin cs p e = [e] := by
  have hend : endsBreak cs e = true := endsBreak_iff.mpr ⟨p, h⟩
  cases h with
  | pair hcr hlf =>
      have hmid : endsBreak cs (p + 1) = false := by simp [endsBreak, hcr, hlf]
      rw [endsWithin, show p + 2 - p = 2 by omega]
      simp [List.range', hmid, hend]
  | carriage hcr hlf =>
      rw [endsWithin, show p + 1 - p = 1 by omega]
      simp [hend]
  | feed hlf hcr =>
      rw [endsWithin, show p + 1 - p = 1 by omega]
      simp [hend]

/-! ## The scan -/

theorem Unbroken.snoc {cs : List Char} {a b : Nat} (h : Unbroken cs a b)
    (hcr : cs[b]? ≠ some '\r') (hlf : cs[b]? ≠ some '\n') : Unbroken cs a (b + 1) := by
  intro i hi hi'
  rcases Nat.lt_or_eq_of_le (Nat.le_of_lt_succ hi') with hlt | rfl
  · exact h i hi hlt
  · exact ⟨hcr, hlf⟩

/-- The scan reads `rest` behind `pre`, of which the stretch from `start` on is
unbroken. -/
theorem cutInto_linesFrom (pre rest : List Char) {start pos : Nat} (hpos : pre.length = pos)
    (hle : start ≤ pos) (hline : Unbroken (pre ++ rest) start pos)
    (hout : ¬ InsidePair (pre ++ rest) pos) :
    CutInto (pre ++ rest) start (linesFrom start pos rest) := by
  -- The cases are the scan's own; what each of them reads moves from `rest` to `pre`.
  fun_induction linesFrom start pos rest generalizing pre with
  | case1 start pos =>
      subst hpos
      have hlen : pre.length = (pre ++ []).length := by simp
      rw [hlen]
      exact .last (by simpa using hle) (by simpa using hline)
  | case2 start pos rest ih =>
      have hcs : pre ++ '\r' :: '\n' :: rest = (pre ++ ['\r', '\n']) ++ rest := by simp
      have hbreak : Break (pre ++ '\r' :: '\n' :: rest) pos (pos + 2) :=
        .pair (by simp [← hpos]) (by simp [← hpos])
      refine .cons hle hline hbreak ?_
      rw [hcs] at hbreak ⊢
      exact ih _ (by simp [hpos]) (Nat.le_refl _) (unbroken_self _ _) hbreak.not_insidePair
  | case3 start pos rest hnot ih =>
      have hcs : pre ++ '\r' :: rest = (pre ++ ['\r']) ++ rest := by simp
      have hbreak : Break (pre ++ '\r' :: rest) pos (pos + 1) := by
        refine .carriage (by simp [← hpos]) ?_
        rw [hcs, ← hpos, List.getElem?_append_right (by simp)]
        cases rest with
        | nil => simp
        | cons c rest' =>
            intro h
            simp at h
            exact hnot rest' (by rw [h])
      refine .cons hle hline hbreak ?_
      rw [hcs] at hbreak ⊢
      exact ih _ (by simp [hpos]) (Nat.le_refl _) (unbroken_self _ _) hbreak.not_insidePair
  | case4 start pos rest ih =>
      have hcs : pre ++ '\n' :: rest = (pre ++ ['\n']) ++ rest := by simp
      have hbreak : Break (pre ++ '\n' :: rest) pos (pos + 1) :=
        .feed (by simp [← hpos]) hout
      refine .cons hle hline hbreak ?_
      rw [hcs] at hbreak ⊢
      exact ih _ (by simp [hpos]) (Nat.le_refl _) (unbroken_self _ _) hbreak.not_insidePair
  | case5 start pos c rest hpair hcr hlf ih =>
      have hcs : pre ++ c :: rest = (pre ++ [c]) ++ rest := by simp
      have hc : (pre ++ c :: rest)[pos]? = some c := by simp [← hpos]
      have hnecr : c ≠ '\r' := fun h => hcr h
      have hnelf : c ≠ '\n' := fun h => hlf h
      have hout' : ¬ InsidePair (pre ++ c :: rest) (pos + 1) := by
        rintro ⟨_, h, _⟩
        simp [hc, hnecr] at h
      have hline' := hline.snoc (by simp [hc, hnecr]) (by simp [hc, hnelf])
      rw [hcs] at hout' hline' ⊢
      exact ih _ (by simp [hpos]) (by omega) hline' hout'

/-- **The scan cuts a text at its breaks.** -/
theorem cutInto_lines (cs : List Char) : CutInto cs 0 (lines cs) :=
  cutInto_linesFrom [] cs rfl (Nat.le_refl 0) (unbroken_self cs 0) (not_insidePair_zero cs)

/-! ## Lines -/

structure IsLine (cs : List Char) (l : Line) : Prop where
  start_le_stop : l.start ≤ l.stop
  stop_le_length : l.stop ≤ cs.length
  unbroken : Unbroken cs l.start l.stop
  start_outside : ¬ InsidePair cs l.start

theorem CutInto.isLine {cs : List Char} {start : Nat} {ls : List Line} (h : CutInto cs start ls)
    (hout : ¬ InsidePair cs start) : ∀ l ∈ ls, IsLine cs l := by
  induction h with
  | last hle hline =>
      intro l hl
      obtain rfl := List.mem_singleton.mp hl
      exact ⟨hle, Nat.le_refl _, hline, hout⟩
  | cons hle hline hbreak hrest ih =>
      intro l hl
      rcases List.mem_cons.mp hl with rfl | hl
      · exact ⟨hle, Nat.le_of_lt (Nat.lt_of_lt_of_le hbreak.lt hbreak.le_length), hline, hout⟩
      · exact ih hbreak.not_insidePair l hl

theorem isLine_of_mem_lines {cs : List Char} {l : Line} (h : l ∈ lines cs) : IsLine cs l :=
  (cutInto_lines cs).isLine (not_insidePair_zero cs) l h

/-- No offset of a line, its end included, lies inside a pair. -/
theorem IsLine.not_insidePair {cs : List Char} {l : Line} (h : IsLine cs l) {o : Nat}
    (hstart : l.start ≤ o) (hstop : o ≤ l.stop) : ¬ InsidePair cs o := by
  rintro ⟨hpos, hcr, hlf⟩
  rcases Nat.lt_or_eq_of_le hstart with hlt | rfl
  · exact (h.unbroken (o - 1) (by omega) (by omega)).1 hcr
  · exact h.start_outside ⟨hpos, hcr, hlf⟩

/-- **The line of an offset.** Unless it lies inside a pair, it is on the line
behind the last break that ends at or before it. -/
theorem CutInto.getElem?_ends {cs : List Char} {start : Nat} {ls : List Line}
    (h : CutInto cs start ls) {o : Nat} (hstart : start ≤ o) (ho : o ≤ cs.length)
    (hout : ¬ InsidePair cs o) :
    ∃ stop, ls[(endsWithin cs start o).length]? =
        some ⟨(endsWithin cs start o).getLastD start, stop⟩ ∧
      (endsWithin cs start o).getLastD start ≤ o ∧ o ≤ stop := by
  induction h with
  | last hle hline =>
      rw [endsWithin_of_unbroken (hline.mono (Nat.le_refl _) ho)]
      exact ⟨cs.length, rfl, hstart, ho⟩
  | @cons start stop next ls hle hline hbreak hrest ih =>
      rcases Nat.le_total o stop with hos | hso
      · rw [endsWithin_of_unbroken (hline.mono (Nat.le_refl _) hos)]
        exact ⟨stop, rfl, hstart, hos⟩
      · rcases Nat.lt_or_eq_of_le hso with hlt | rfl
        · -- Behind the first character of the break and not inside it is behind the break.
          have hnext : next ≤ o := by
            by_contra hcontra
            exact hout (hbreak.insidePair hlt (by omega))
          have hends : endsWithin cs start o = next :: endsWithin cs next o := by
            rw [endsWithin_append cs hle (Nat.le_of_lt hlt),
              endsWithin_append cs (Nat.le_of_lt hbreak.lt) hnext, endsWithin_of_unbroken hline,
              endsWithin_break hbreak]
            rfl
          obtain ⟨stop', hget, hle', hstop'⟩ := ih hnext
          refine ⟨stop', ?_, ?_, hstop'⟩
          · rw [hends, List.length_cons, List.getElem?_cons_succ, hget, List.getLastD_cons]
          · rw [hends, List.getLastD_cons]
            exact hle'
        · rw [endsWithin_of_unbroken hline]
          exact ⟨stop, rfl, hle, Nat.le_refl _⟩

/-- **How many lines.** One more than there are line breaks. -/
theorem CutInto.length_eq {cs : List Char} {start : Nat} {ls : List Line}
    (h : CutInto cs start ls) : ls.length = (endsWithin cs start cs.length).length + 1 := by
  induction h with
  | last hle hline =>
      rw [endsWithin_of_unbroken hline]
      rfl
  | cons hle hline hbreak hrest ih =>
      rw [endsWithin_append _ hle (Nat.le_of_lt (Nat.lt_of_lt_of_le hbreak.lt hbreak.le_length)),
        endsWithin_append _ (Nat.le_of_lt hbreak.lt) hbreak.le_length,
        endsWithin_of_unbroken hline, endsWithin_break hbreak, List.length_cons, ih]
      rfl

end Typeahead.Text
