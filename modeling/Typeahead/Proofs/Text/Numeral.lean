import Mathlib.Data.List.DropRight
import Mathlib.Data.Nat.Digits.Defs
import Typeahead.Proofs.Text.Blank
import Typeahead.Text.Numeral

/-!
# Reading numerals

The relation `IsNumeral` says which texts are numerals and which digits they have,
without the machine that reads. Main statement: `parse_eq_ok_iff`. A numeral stands for
what its digits add up to, unless they are too many.
-/

namespace Typeahead.Text.Numeral

/-! ## Numerals -/

/-- Digits with single underscores between them, and their values. -/
inductive Spells : List Char → List Nat → Prop
  | last {c : Char} {d : Nat} (h : digit? c = some d) : Spells [c] [d]
  | digit {c : Char} {d : Nat} {cs : List Char} {values : List Nat} (h : digit? c = some d)
    (rest : Spells cs values) : Spells (c :: cs) (d :: values)
  | underscore {c : Char} {d : Nat} {cs : List Char} {values : List Nat} (h : digit? c = some d)
    (rest : Spells cs values) : Spells (c :: '_' :: cs) (d :: values)

/-- What may stand in front of the digits, and whether it makes the number negative. -/
inductive IsSign : List Char → Bool → Prop
  | none : IsSign [] false
  | plus : IsSign ['+'] false
  | minus : IsSign ['-'] true

/-- A sign, if any, and digits, with spaces around them. -/
structure IsNumeral (cs : List Char) (negative : Bool) (values : List Nat) : Prop where
  parts : ∃ before front digits behind, cs = before ++ (front ++ digits) ++ behind ∧
    (∀ c ∈ before, isSpace c = true) ∧ (∀ c ∈ behind, isSpace c = true) ∧
    IsSign front negative ∧ Spells digits values

def number (negative : Bool) (values : List Nat) : Int :=
  let magnitude : Nat := Nat.ofDigits 10 values.reverse
  if negative then -magnitude else magnitude

theorem ofDigits_eq (values : List Nat) : ofDigits values = Nat.ofDigits 10 values.reverse := by
  rw [Nat.ofDigits_eq_foldr, List.foldr_reverse, ofDigits]
  congr 1
  funext n d
  exact Nat.add_comm _ _

/-! ## Digits, signs and spaces -/

/-- No digit lies among the blanks. -/
theorem zeros_apart : ∀ first ∈ zeros, ∀ r ∈ blankRanges, first + 10 ≤ r.1 ∨ r.2 < first := by
  decide

theorem exists_of_digit? {c : Char} {d : Nat} (h : digit? c = some d) :
    ∃ first ∈ zeros, first ≤ c.toNat ∧ c.toNat < first + 10 := by
  rw [digit?, Option.map_eq_some_iff] at h
  obtain ⟨first, hfound, -⟩ := h
  have hrange := List.find?_some hfound
  simp only [Bool.and_eq_true, decide_eq_true_eq] at hrange
  exact ⟨first, List.mem_of_find?_eq_some hfound, hrange⟩

theorem isSpace_of_digit? {c : Char} {d : Nat} (h : digit? c = some d) : isSpace c = false := by
  obtain ⟨first, hfirst, hlow, hhigh⟩ := exists_of_digit? h
  have hblank : isBlank c = false := by
    rw [Bool.eq_false_iff]
    intro hblank
    obtain ⟨r, hr, hlow', hhigh'⟩ := isBlank_iff.mp hblank
    have := zeros_apart first hfirst r hr
    omega
  rw [isSpace, hblank, Bool.false_and]

theorem digit?_plus : digit? '+' = none := by decide

theorem digit?_minus : digit? '-' = none := by decide

theorem digit?_underscore : digit? '_' = none := by decide

theorem Spells.ne_nil {cs : List Char} {values : List Nat} (h : Spells cs values) : cs ≠ [] := by
  cases h <;> exact List.cons_ne_nil _ _

theorem Spells.head? {cs : List Char} {values : List Nat} (h : Spells cs values) :
    ∀ c ∈ cs.head?, ∃ d, digit? c = some d := by
  intro c hc
  cases h with
  | last h | digit h _ | underscore h _ =>
    obtain rfl := Option.some.inj hc
    exact ⟨_, h⟩

theorem Spells.getLast? {cs : List Char} {values : List Nat} (h : Spells cs values) :
    ∀ c ∈ cs.getLast?, ∃ d, digit? c = some d := by
  induction h with
  | last h =>
    intro c hc
    obtain rfl := Option.some.inj hc
    exact ⟨_, h⟩
  | digit h rest ih => rwa [List.getLast?_cons_of_ne_nil rest.ne_nil]
  | underscore h rest ih =>
    rwa [List.getLast?_cons_of_ne_nil (List.cons_ne_nil _ _),
      List.getLast?_cons_of_ne_nil rest.ne_nil]

/-! ## The machine -/

theorem digitRun_cons_of_digit? (after : Bool) {c : Char} {d : Nat} (h : digit? c = some d)
    (rest : List Char) : digitRun after (c :: rest) =
      (digitRun true rest).map fun run => (d :: run.1, run.2) := by
  rw [digitRun, h]

theorem digitRun_of_spells {cs : List Char} {values : List Nat} (h : Spells cs values) :
    ∀ after, digitRun after cs = some (values, []) := by
  induction h with
  | last h =>
    intro after
    rw [digitRun_cons_of_digit? after h]
    rfl
  | digit h _ ih =>
    intro after
    rw [digitRun_cons_of_digit? after h, ih true]
    rfl
  | underscore h _ ih =>
    intro after
    rw [digitRun_cons_of_digit? after h, digitRun, digit?_underscore]
    dsimp only
    rw [if_pos rfl, if_pos rfl, ih false]
    rfl

/-- Where everything was read there were digits; only behind a digit there may also be
nothing, or digits behind one underscore. -/
theorem spells_of_digitRun {after : Bool} {cs : List Char} {values : List Nat}
    (h : digitRun after cs = some (values, [])) :
    Spells cs values ∨ after = true ∧
      (cs = [] ∧ values = [] ∨ ∃ rest, cs = '_' :: rest ∧ Spells rest values) := by
  induction cs generalizing after values with
  | nil =>
    cases after with
    | false => cases h
    | true =>
      obtain rfl := (Prod.mk.inj (Option.some.inj h)).1
      exact .inr ⟨rfl, .inl ⟨rfl, rfl⟩⟩
  | cons c rest ih =>
    cases hdigit : digit? c with
    | some d =>
      rw [digitRun_cons_of_digit? after hdigit, Option.map_eq_some_iff] at h
      obtain ⟨⟨values', rest'⟩, hrun, hsame⟩ := h
      obtain ⟨rfl, rfl⟩ := Prod.mk.inj hsame
      left
      rcases ih hrun with hspells | ⟨-, ⟨rfl, rfl⟩ | ⟨rest'', rfl, hspells⟩⟩
      · exact .digit hdigit hspells
      · exact .last hdigit
      · exact .underscore hdigit hspells
    | none =>
      rw [digitRun, hdigit] at h
      cases after with
      | false => cases h
      | true =>
        by_cases hc : c = '_'
        · dsimp only at h
          rw [if_pos rfl, if_pos hc] at h
          rcases ih h with hspells | ⟨hafter, -⟩
          · exact .inr ⟨rfl, .inr ⟨rest, by rw [hc], hspells⟩⟩
          · cases hafter
        · dsimp only at h
          rw [if_pos rfl, if_neg hc] at h
          cases (Prod.mk.inj (Option.some.inj h)).2

theorem digitRun_false_iff {cs : List Char} {values : List Nat} :
    digitRun false cs = some (values, []) ↔ Spells cs values := by
  constructor
  · intro h
    rcases spells_of_digitRun h with hspells | ⟨hafter, -⟩
    · exact hspells
    · cases hafter
  · intro h
    exact digitRun_of_spells h false

theorem sign_of_isSign {front cs : List Char} {negative : Bool} (h : IsSign front negative)
    (hhead : ∀ c ∈ cs.head?, ∃ d, digit? c = some d) : sign (front ++ cs) = (negative, cs) := by
  cases h with
  | plus | minus => rfl
  | none =>
    rw [List.nil_append, sign.eq_def]
    split
    · obtain ⟨d, hd⟩ := hhead '+' rfl
      rw [digit?_plus] at hd
      cases hd
    · obtain ⟨d, hd⟩ := hhead '-' rfl
      rw [digit?_minus] at hd
      cases hd
    · rfl

theorem exists_isSign (cs : List Char) :
    ∃ front, cs = front ++ (sign cs).2 ∧ IsSign front (sign cs).1 := by
  rw [sign.eq_def]
  split
  · exact ⟨['+'], rfl, .plus⟩
  · exact ⟨['-'], rfl, .minus⟩
  · exact ⟨[], rfl, .none⟩

theorem exists_strip (cs : List Char) : ∃ before behind, cs = before ++ strip cs ++ behind ∧
    (∀ c ∈ before, isSpace c = true) ∧ ∀ c ∈ behind, isSpace c = true := by
  refine ⟨cs.takeWhile isSpace, (cs.dropWhile isSpace).rtakeWhile isSpace, ?_,
    fun c hc => List.mem_takeWhile_imp hc, fun c hc => List.mem_rtakeWhile_imp hc⟩
  have hright : strip cs ++ (cs.dropWhile isSpace).rtakeWhile isSpace = cs.dropWhile isSpace :=
    List.rdropWhile_append_rtakeWhile ..
  rw [List.append_assoc, hright, List.takeWhile_append_dropWhile]

/-! ## Reading -/

theorem number_eq (negative : Bool) (values : List Nat) :
    number negative values = if negative then -(ofDigits values : Int) else ofDigits values := by
  rw [ofDigits_eq]
  rfl

theorem strip_of_isSign {before front digits behind : List Char} {negative : Bool}
    {values : List Nat} (hbefore : ∀ c ∈ before, isSpace c = true)
    (hbehind : ∀ c ∈ behind, isSpace c = true) (hfront : IsSign front negative)
    (hdigits : Spells digits values) :
    strip (before ++ (front ++ digits) ++ behind) = front ++ digits := by
  refine dropWhile_append_append hbefore hbehind
    (List.append_ne_nil_of_right_ne_nil _ hdigits.ne_nil) ?_ ?_
  · intro c hc
    cases hfront with
    | none =>
      obtain ⟨d, hd⟩ := hdigits.head? c hc
      exact isSpace_of_digit? hd
    | plus =>
      obtain rfl := Option.some.inj hc
      decide
    | minus =>
      obtain rfl := Option.some.inj hc
      decide
  · intro c hc
    rw [List.getLast?_append_of_ne_nil _ hdigits.ne_nil] at hc
    obtain ⟨d, hd⟩ := hdigits.getLast? c hc
    exact isSpace_of_digit? hd

/-- **A numeral is read**, or it has too many digits. -/
theorem parse_of_isNumeral {text : String} {negative : Bool} {values : List Nat}
    (h : IsNumeral text.toList negative values) :
    parse text = if digitLimit < values.length then .error (.tooLong values.length)
      else .ok (number negative values) := by
  obtain ⟨before, front, digits, behind, htext, hbefore, hbehind, hfront, hdigits⟩ := h.parts
  rw [parse, htext, strip_of_isSign hbefore hbehind hfront hdigits,
    sign_of_isSign hfront hdigits.head?]
  dsimp only
  rw [digitRun_of_spells hdigits false, number_eq]
  rfl

theorem isNumeral_of_parse {text : String} {n : Int} (h : parse text = .ok n) :
    ∃ negative values, IsNumeral text.toList negative values ∧ values.length ≤ digitLimit ∧
      n = number negative values := by
  rw [parse] at h
  obtain ⟨before, behind, htext, hbefore, hbehind⟩ := exists_strip text.toList
  obtain ⟨front, hstrip, hfront⟩ := exists_isSign (strip text.toList)
  split at h
  · cases h
  · next values rest hrun =>
    split at h
    · cases h
    · next hlength =>
      split at h
      · cases h
      · next hrest =>
        obtain rfl : rest = [] := not_not.mp hrest
        rw [← number_eq] at h
        rw [hstrip] at htext
        exact ⟨_, values, ⟨before, front, _, behind, htext, hbefore, hbehind, hfront,
          digitRun_false_iff.mp hrun⟩, Nat.not_lt.mp hlength, (Except.ok.inj h).symm⟩

/-- **Numerals.** A text stands for a whole number if it is a numeral of that number
that does not have too many digits, and for nothing otherwise. -/
theorem parse_eq_ok_iff {text : String} {n : Int} :
    parse text = .ok n ↔ ∃ negative values, IsNumeral text.toList negative values ∧
      values.length ≤ digitLimit ∧ n = number negative values := by
  constructor
  · exact isNumeral_of_parse
  · rintro ⟨negative, values, hnumeral, hlength, rfl⟩
    rw [parse_of_isNumeral hnumeral, if_neg (Nat.not_lt.mpr hlength)]

/-! ## Decimal spellings -/

/-- A decimal spelling of a whole number: the decimal digits of its magnitude, zeros in
front of them, a sign in front of these, and spaces around, with no more digits than are
read. -/
inductive IsSpelling : String → Int → Prop
  | mk {before front behind : List Char} {negative : Bool} {leading magnitude : Nat}
    (hbefore : ∀ c ∈ before, isSpace c = true) (hbehind : ∀ c ∈ behind, isSpace c = true)
    (hfront : IsSign front negative)
    (hlength : leading + (Nat.toDigits 10 magnitude).length ≤ digitLimit) :
    IsSpelling
      (String.ofList (before ++
        (front ++ (List.replicate leading '0' ++ Nat.toDigits 10 magnitude)) ++ behind))
      (if negative then -magnitude else magnitude)

theorem digit?_of_isDigit {c : Char} (h : c.isDigit = true) :
    digit? c = some (c.toNat - '0'.toNat) := by
  obtain ⟨hlow, hhigh⟩ := Char.isDigit_iff_toNat.mp h
  have hzero : ('0').toNat = 0x30 := rfl
  have hnine : ('9').toNat = 0x39 := rfl
  have hfound : (zeros.find? fun first => first ≤ c.toNat && c.toNat < first + 10) =
      some '0'.toNat := by
    refine List.find?_cons_of_pos ?_
    simp only [Bool.and_eq_true, decide_eq_true_eq]
    omega
  rw [digit?, hfound, Option.map_some]

theorem spells_of_isDigit {cs : List Char} (hne : cs ≠ []) (h : ∀ c ∈ cs, c.isDigit = true) :
    Spells cs (cs.map fun c => c.toNat - '0'.toNat) := by
  induction cs with
  | nil => exact absurd rfl hne
  | cons c rest ih =>
    have hdigit := digit?_of_isDigit (h c List.mem_cons_self)
    by_cases hrest : rest = []
    · subst hrest
      exact .last hdigit
    · exact .digit hdigit (ih hrest fun c' hc' => h c' (List.mem_cons_of_mem c hc'))

theorem ofDigits_map (cs : List Char) :
    ofDigits (cs.map fun c => c.toNat - '0'.toNat) = Nat.ofDigitChars 10 cs 0 :=
  List.foldl_map

theorem ofDigitChars_replicate_zero (count : Nat) :
    Nat.ofDigitChars 10 (List.replicate count '0') 0 = 0 := by
  induction count with
  | zero => rfl
  | succ count ih => exact ih

/-- **A decimal spelling is read as its number.** -/
theorem IsSpelling.parse {text : String} {n : Int} (h : IsSpelling text n) :
    parse text = .ok n := by
  obtain @⟨before, front, behind, negative, leading, magnitude, hbefore, hbehind, hfront,
    hlength⟩ := h
  have hdigits : ∀ c ∈ List.replicate leading '0' ++ Nat.toDigits 10 magnitude,
      c.isDigit = true := by
    intro c hc
    rcases List.mem_append.mp hc with hzero | hdigit
    · rw [List.eq_of_mem_replicate hzero]
      rfl
    · exact Nat.isDigit_of_mem_toDigits (by decide) (by decide) hdigit
  have hspells := spells_of_isDigit
    (List.append_ne_nil_of_right_ne_nil _ Nat.toDigits_ne_nil) hdigits
  refine parse_eq_ok_iff.mpr ⟨negative, _, ⟨before, front, _, behind, String.toList_ofList,
    hbefore, hbehind, hfront, hspells⟩, ?_, ?_⟩
  · rwa [List.length_map, List.length_append, List.length_replicate]
  · rw [number_eq, ofDigits_map, Nat.ofDigitChars_append, ofDigitChars_replicate_zero,
      Nat.ofDigitChars_ten_toDigits]

end Typeahead.Text.Numeral
