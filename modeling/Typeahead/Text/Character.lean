/-!
# Classes of characters

Ranges of code points, and the classes that texts are read by: blank characters and
decimal digits. Letters have a table of their own.
-/

namespace Typeahead.Text

/-! ## Ranges

A character class is a list of ranges, both ends included, each of which
starts above the end of the one before it. A look-up therefore stops at the
first range that starts above the code point it asks for.
-/

/-- Code points from `lo` to `hi`, both included. -/
abbrev Ranges := List (Nat × Nat)

namespace Ranges

def contains : Ranges → Nat → Bool
  | [], _ => false
  | (lo, hi) :: rest, n =>
    if n < lo then false
    else if n ≤ hi then true
    else contains rest n

/-- Whether no range is empty and each starts above `floor` and above those before it. -/
def isAscendingFrom (floor : Nat) : Ranges → Bool
  | [] => true
  | (lo, hi) :: rest => floor ≤ lo && lo ≤ hi && isAscendingFrom (hi + 1) rest

theorem isAscendingFrom_cons {floor : Nat} {r : Nat × Nat} {rest : Ranges} :
    isAscendingFrom floor (r :: rest) = true ↔
      floor ≤ r.1 ∧ r.1 ≤ r.2 ∧ isAscendingFrom (r.2 + 1) rest = true := by
  simp [isAscendingFrom, and_assoc]

theorem le_of_mem_of_isAscendingFrom {rs : Ranges} {floor : Nat}
    (h : isAscendingFrom floor rs = true) : ∀ r ∈ rs, floor ≤ r.1 := by
  induction rs generalizing floor with
  | nil => simp
  | cons r rest ih =>
    obtain ⟨hlo, hhi, hrest⟩ := isAscendingFrom_cons.1 h
    intro q hq
    rcases List.mem_cons.1 hq with rfl | hq
    · exact hlo
    · have := ih hrest q hq
      omega

/-- **Stopping early loses nothing.** -/
theorem contains_iff {rs : Ranges} {floor : Nat} (h : isAscendingFrom floor rs = true) (n : Nat) :
    contains rs n = true ↔ ∃ r ∈ rs, r.1 ≤ n ∧ n ≤ r.2 := by
  induction rs generalizing floor with
  | nil => simp [contains]
  | cons r rest ih =>
    obtain ⟨hlo, hhi, hrest⟩ := isAscendingFrom_cons.1 h
    simp only [contains]
    split
    · next hn =>
      constructor
      · intro hf; cases hf
      · rintro ⟨q, hq, hq1, hq2⟩
        rcases List.mem_cons.1 hq with rfl | hq
        · omega
        · have := le_of_mem_of_isAscendingFrom hrest q hq
          omega
    · split
      · next hn hm => exact ⟨fun _ => ⟨r, by simp, by omega, hm⟩, fun _ => rfl⟩
      · next hn hm =>
        rw [ih hrest]
        constructor
        · rintro ⟨q, hq, hq'⟩
          exact ⟨q, List.mem_cons_of_mem _ hq, hq'⟩
        · rintro ⟨q, hq, hq1, hq2⟩
          rcases List.mem_cons.1 hq with rfl | hq
          · omega
          · exact ⟨q, hq, hq1, hq2⟩

end Ranges

/-! ## Blank space

The characters that are stripped from the two ends of a word list: the
whitespace of Unicode together with the four information separators.
-/

def blankRanges : Ranges := [
  (0x9, 0xD), (0x1C, 0x20), (0x85, 0x85), (0xA0, 0xA0), (0x1680, 0x1680), (0x2000, 0x200A),
  (0x2028, 0x2029), (0x202F, 0x202F), (0x205F, 0x205F), (0x3000, 0x3000)]

def isBlank (c : Char) : Bool :=
  blankRanges.contains c.toNat

def trimRight (cs : List Char) : List Char :=
  (cs.reverse.dropWhile isBlank).reverse

def trim (cs : List Char) : List Char :=
  trimRight (cs.dropWhile isBlank)

theorem isBlank_iff {c : Char} :
    isBlank c = true ↔ ∃ r ∈ blankRanges, r.1 ≤ c.toNat ∧ c.toNat ≤ r.2 :=
  Ranges.contains_iff (show blankRanges.isAscendingFrom 0 = true by decide) c.toNat

theorem isBlank_newline : isBlank '\n' = true := by decide

theorem trimRight_nil : trimRight [] = [] := rfl

/-! ## Decimal digits

The decimal digits of Unicode 14.0 come in blocks of ten consecutive code
points that stand for zero to nine.
-/

/-- The code points that stand for zero. -/
def zeros : List Nat := [
  0x30, 0x660, 0x6F0, 0x7C0, 0x966, 0x9E6, 0xA66, 0xAE6, 0xB66, 0xBE6, 0xC66, 0xCE6, 0xD66, 0xDE6,
   0xE50, 0xED0, 0xF20, 0x1040, 0x1090, 0x17E0, 0x1810, 0x1946, 0x19D0, 0x1A80, 0x1A90, 0x1B50,
   0x1BB0, 0x1C40, 0x1C50, 0xA620, 0xA8D0, 0xA900, 0xA9D0, 0xA9F0, 0xAA50, 0xABF0, 0xFF10,
   0x104A0, 0x10D30, 0x11066, 0x110F0, 0x11136, 0x111D0, 0x112F0, 0x11450, 0x114D0, 0x11650,
   0x116C0, 0x11730, 0x118E0, 0x11950, 0x11C50, 0x11D50, 0x11DA0, 0x16A60, 0x16AC0, 0x16B50,
   0x1D7CE, 0x1D7D8, 0x1D7E2, 0x1D7EC, 0x1D7F6, 0x1E140, 0x1E2F0, 0x1E950, 0x1FBF0]

/-- The value of a decimal digit of any script. -/
def digit? (c : Char) : Option Nat :=
  (zeros.find? fun first => first ≤ c.toNat && c.toNat < first + 10).map (c.toNat - ·)

end Typeahead.Text
