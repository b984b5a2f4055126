import Typeahead.Proofs.Document.Offset

/-!
# A line between others

A stretch without line breaks stands between a text that is empty or ends with a
break and whatever follows. The place behind the stretch has the line number and
the column that the text and the stretch give it, whatever the rest is. Only where
a carriage return meets a line feed does the place move, by the one character that
belongs to the break before it. Main statement: `offsetAt_between`.
-/

namespace Typeahead.Document

open Typeahead.Text

/-- The text is empty or ends with a line break. -/
def EndsLine (cs : List Char) : Prop :=
  ∀ c ∈ cs.getLast?, c = '\r' ∨ c = '\n'

/-- Where the line behind a text starts when more follows: a line feed that
completes the last break is passed. -/
def lineBehind (front rest : List Char) : Nat :=
  if InsidePair (front ++ rest) front.length then front.length + 1 else front.length

variable {front stretch rest : List Char}

/-! ## The breaks of what stands in front -/

theorem endsWithin_snoc_break {c : Char} (hc : c = '\r' ∨ c = '\n') (front : List Char) :
    endsWithin (front ++ [c]) front.length (front.length + 1) = [front.length + 1] := by
  have hend : endsBreak (front ++ [c]) (front.length + 1) = true := by
    rcases hc with rfl | rfl <;> simp [endsBreak]
  rw [endsWithin, Nat.add_sub_cancel_left]
  simp [hend]

/-- As many breaks end up to the line behind a text as there are in it, and the
last of them ends where the line starts. -/
theorem endsWithin_lineBehind (h : EndsLine front) (rest : List Char) :
    (endsWithin (front ++ rest) 0 (lineBehind front rest)).length =
        (endsWithin front 0 front.length).length ∧
      (endsWithin (front ++ rest) 0 (lineBehind front rest)).getLastD 0 =
        lineBehind front rest := by
  obtain rfl | ⟨before, c, rfl⟩ := List.eq_nil_or_concat' front
  · have hbehind : lineBehind [] rest = 0 := if_neg (not_insidePair_zero _)
    rw [hbehind]
    exact ⟨rfl, rfl⟩
  · have hc : c = '\r' ∨ c = '\n' := h c (by simp)
    have hfront : endsWithin (before ++ [c]) 0 (before ++ [c]).length =
        endsWithin (before ++ [c]) 0 before.length ++ [before.length + 1] := by
      rw [List.length_append, List.length_singleton,
        endsWithin_append _ (Nat.zero_le _) (Nat.le_succ _), endsWithin_snoc_break hc]
    have hsame : ∀ i < before.length + 1, (before ++ [c] ++ rest)[i]? = (before ++ [c])[i]? :=
      fun i hi => List.getElem?_append_left (by simpa using hi)
    by_cases hin : InsidePair (before ++ [c] ++ rest) (before ++ [c]).length
    · -- The line feed and the carriage return before it are one break.
      obtain ⟨-, hcr, hlf⟩ := hin
      have hbehind : lineBehind (before ++ [c]) rest = before.length + 2 := by
        rw [lineBehind, if_pos ⟨by simp, hcr, hlf⟩]
        simp
      have hbreak : Break (before ++ [c] ++ rest) before.length (before.length + 2) :=
        .pair (by simpa using hcr) (by simpa using hlf)
      have hbefore : endsWithin (before ++ [c] ++ rest) 0 before.length =
          endsWithin (before ++ [c]) 0 before.length :=
        endsWithin_congr (fun i hi => hsame i (by omega))
          fun _ => by rw [hsame before.length (by omega)]
      rw [hbehind, endsWithin_append _ (Nat.zero_le _) (Nat.le_of_lt hbreak.lt),
        endsWithin_break hbreak, hbefore, hfront]
      simp
    · have hbehind : lineBehind (before ++ [c]) rest = (before ++ [c]).length := by
        rw [lineBehind, if_neg hin]
      have hbefore : endsWithin (before ++ [c] ++ rest) 0 (before ++ [c]).length =
          endsWithin (before ++ [c]) 0 (before ++ [c]).length := by
        refine endsWithin_congr (fun i hi => hsame i (by simpa using hi)) fun hcr => ?_
        constructor
        · intro hlf
          exact absurd ⟨by simp, hcr, hlf⟩ hin
        · intro hlf
          simp at hlf
      rw [hbehind, hbefore, hfront]
      simp

theorem not_insidePair_lineBehind (front rest : List Char) :
    ¬ InsidePair (front ++ rest) (lineBehind front rest) := by
  unfold lineBehind
  split
  · next hin =>
      obtain ⟨hpos, hcr, hlf⟩ := hin
      obtain ⟨p, hp⟩ : ∃ p, front.length = p + 1 := ⟨front.length - 1, by omega⟩
      rw [hp] at hcr hlf ⊢
      exact (Break.pair hcr hlf).not_insidePair
  · next hout => exact hout

/-! ## The stretch -/

/-- Where a pair is split by the end of a text, a line feed follows, so the stretch
is empty. -/
theorem stretch_eq_nil_of_insidePair (hlf : '\n' ∉ stretch)
    (hin : InsidePair (front ++ (stretch ++ rest)) front.length) :
    stretch = [] ∧ ∃ more, rest = '\n' :: more := by
  have hnext : (stretch ++ rest)[0]? = some '\n' := by
    have hfeed := hin.2.2
    rwa [List.getElem?_append_right (Nat.le_refl _), Nat.sub_self] at hfeed
  cases stretch with
  | cons c stretch =>
      obtain rfl : c = '\n' := by simpa using hnext
      exact absurd List.mem_cons_self hlf
  | nil =>
      cases rest with
      | nil => simp at hnext
      | cons c more =>
          obtain rfl : c = '\n' := by simpa using hnext
          exact ⟨rfl, more, rfl⟩

/-- What stands before the end of the stretch is the stretch itself behind a text
that is empty or ends with a line break. -/
theorem exists_take_lineBehind (h : EndsLine front) (hlf : '\n' ∉ stretch) (rest : List Char) :
    ∃ before, EndsLine before ∧ before.length = lineBehind front (stretch ++ rest) ∧
      (front ++ (stretch ++ rest)).take
        (lineBehind front (stretch ++ rest) + stretch.length) = before ++ stretch := by
  by_cases hin : InsidePair (front ++ (stretch ++ rest)) front.length
  · obtain ⟨rfl, more, rfl⟩ := stretch_eq_nil_of_insidePair hlf hin
    refine ⟨front ++ ['\n'], fun c hc => ?_, ?_, ?_⟩
    · obtain rfl : '\n' = c := by simpa using hc
      exact .inr rfl
    · rw [lineBehind, if_pos hin, List.length_append, List.length_singleton]
    · have hsplit : front ++ ([] ++ '\n' :: more) = (front ++ ['\n']) ++ more := by simp
      have hlen : front.length + 1 = (front ++ ['\n']).length := by simp
      rw [lineBehind, if_pos hin, hsplit, List.length_nil, Nat.add_zero, hlen, List.take_left,
        List.append_nil]
  · refine ⟨front, h, ?_, ?_⟩
    · rw [lineBehind, if_neg hin]
    · rw [lineBehind, if_neg hin, ← List.append_assoc, ← List.length_append, List.take_left]

theorem lineBehind_add_le (h : EndsLine front) (hlf : '\n' ∉ stretch) (rest : List Char) :
    lineBehind front (stretch ++ rest) + stretch.length ≤
      (front ++ (stretch ++ rest)).length := by
  obtain ⟨before, -, hlen, htake⟩ := exists_take_lineBehind h hlf rest
  have hlength := congrArg List.length htake
  rw [List.length_take, @List.length_append _ before, hlen] at hlength
  omega

theorem unbroken_of_take {cs before : List Char}
    (htake : cs.take (before.length + stretch.length) = before ++ stretch)
    (hcr : '\r' ∉ stretch) (hlf : '\n' ∉ stretch) :
    Unbroken cs before.length (before.length + stretch.length) := by
  intro i hi hi'
  have hget : cs[i]? = stretch[i - before.length]? := by
    rw [← List.getElem?_take_of_lt hi', htake, List.getElem?_append_right hi]
  rw [hget]
  constructor
  · intro h
    exact hcr (List.mem_of_getElem? h)
  · intro h
    exact hlf (List.mem_of_getElem? h)

/-- **The place behind a stretch** of a line, by the lines of what stands in front
and the width of the stretch. -/
theorem offsetAt_between {doc : Document} (hdoc : doc.chars = front ++ (stretch ++ rest))
    (h : EndsLine front) (hcr : '\r' ∉ stretch) (hlf : '\n' ∉ stretch) :
    doc.offsetAt (Position.of ((Text.lines front).length - 1) (width16 stretch)) =
      .ok (lineBehind front (stretch ++ rest) + stretch.length) := by
  obtain ⟨before, -, hbefore, htake⟩ := exists_take_lineBehind h hlf rest
  obtain ⟨hcount, hlast⟩ := endsWithin_lineBehind h (stretch ++ rest)
  have hlines := (cutInto_lines front).length_eq
  have hstart := not_insidePair_lineBehind front (stretch ++ rest)
  have hle := lineBehind_add_le h hlf rest
  rw [← hbefore] at htake hcount hlast hstart hle ⊢
  have hunbroken := unbroken_of_take htake hcr hlf
  have hends : endsWithin (front ++ (stretch ++ rest)) 0 (before.length + stretch.length) =
      endsWithin (front ++ (stretch ++ rest)) 0 before.length := by
    rw [endsWithin_append _ (Nat.zero_le _) (Nat.le_add_right _ _),
      endsWithin_of_unbroken hunbroken, List.append_nil]
  have hlineAt : lineAt (front ++ (stretch ++ rest)) (before.length + stretch.length) =
      (Text.lines front).length - 1 := by
    rw [lineAt, hends, hcount, hlines, Nat.add_sub_cancel]
  have hcolumnAt : columnAt (front ++ (stretch ++ rest)) (before.length + stretch.length) =
      width16 stretch := by
    rw [columnAt, lineStartAt, hends, hlast, htake, List.drop_left]
  have hout : ¬ InsidePair (front ++ (stretch ++ rest)) (before.length + stretch.length) := by
    rintro ⟨hpos, hprev, hnext⟩
    rcases Nat.eq_zero_or_pos stretch.length with hzero | hsome
    · rw [hzero, Nat.add_zero] at hpos hprev hnext
      exact hstart ⟨hpos, hprev, hnext⟩
    · exact (hunbroken _ (by omega) (by omega)).1 hprev
  have hback := offsetAt_lineAt doc (o := before.length + stretch.length)
  have hcast : (((Text.lines front).length - 1 : Nat) : Int) = (Text.lines front).length - 1 := by
    omega
  rw [hdoc, hlineAt, hcolumnAt, hcast] at hback
  exact hback hle hout

end Typeahead.Document
