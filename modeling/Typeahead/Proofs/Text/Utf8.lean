import Mathlib.Algebra.Group.Nat.Defs
import Mathlib.Data.List.Basic
import Typeahead.Text.Encoding

/-!
# Reading UTF-8

What is written is UTF-8 and is read back. An ASCII octet is never part of a longer
character: it ends whatever is open before it, and what stands behind it is read
afresh. Main statements: `toByteArray_encode`, `decode_encode` and
`decode_intercalate`. The invariant is `Sound`: an open character goes on with no
ASCII octet and becomes no ASCII character.
-/

namespace Typeahead.Text.Utf8

/-! ## First octets -/

theorem lead_two {k : Nat} (hlow : 2 ≤ k) (hhigh : k < 32) :
    lead (0xC0 + k) = .opening ⟨k, 0x80, 0xBF, 0⟩ := by
  rw [lead, if_neg (by omega), if_neg (by omega), if_pos (by omega), Nat.add_sub_cancel_left]

/-- The second of three octets neither makes a number that two can hold nor a surrogate. -/
theorem lead_three : ∀ k < 16, lead (0xE0 + k) =
    .opening ⟨k, if k = 0 then 0xA0 else 0x80, if k = 13 then 0x9F else 0xBF, 1⟩ := by
  decide

/-- The second of four octets neither makes a number that three can hold nor one
beyond the last code point. -/
theorem lead_four : ∀ k < 5, lead (0xF0 + k) =
    .opening ⟨k, if k = 0 then 0x90 else 0x80, if k = 4 then 0x8F else 0xBF, 2⟩ := by
  decide

/-- **What begins a character of several octets**, by their number. -/
theorem of_lead_eq_opening {b : Nat} {p : Pending} (h : lead b = .opening p) :
    ∃ k, (2 ≤ k ∧ k < 32 ∧ b = 0xC0 + k ∧ p = ⟨k, 0x80, 0xBF, 0⟩) ∨
      (k < 16 ∧ b = 0xE0 + k ∧
        p = ⟨k, if k = 0 then 0xA0 else 0x80, if k = 13 then 0x9F else 0xBF, 1⟩) ∨
      (k < 5 ∧ b = 0xF0 + k ∧
        p = ⟨k, if k = 0 then 0x90 else 0x80, if k = 4 then 0x8F else 0xBF, 2⟩) := by
  rcases Nat.lt_or_ge b 0xC2 with hlow | hlow
  · rw [lead, if_pos hlow] at h
    split at h <;> cases h
  rcases Nat.lt_or_ge b 0xE0 with htwo | htwo
  · obtain ⟨k, rfl⟩ : ∃ k, b = 0xC0 + k := ⟨b - 0xC0, by omega⟩
    rw [lead_two (by omega) (by omega)] at h
    exact ⟨k, .inl ⟨by omega, by omega, rfl, (Lead.opening.inj h).symm⟩⟩
  rcases Nat.lt_or_ge b 0xF0 with hthree | hthree
  · obtain ⟨k, rfl⟩ : ∃ k, b = 0xE0 + k := ⟨b - 0xE0, by omega⟩
    rw [lead_three k (by omega)] at h
    exact ⟨k, .inr (.inl ⟨by omega, rfl, (Lead.opening.inj h).symm⟩)⟩
  rcases Nat.lt_or_ge b 0xF5 with hfour | hfour
  · obtain ⟨k, rfl⟩ : ∃ k, b = 0xF0 + k := ⟨b - 0xF0, by omega⟩
    rw [lead_four k (by omega)] at h
    exact ⟨k, .inr (.inr ⟨by omega, rfl, (Lead.opening.inj h).symm⟩)⟩
  · have hstray : lead b = .stray := by
      unfold lead
      repeat rw [if_neg (by omega)]
    rw [hstray] at h
    cases h

theorem lt_of_lead_eq_whole {b : Nat} {c : Char} (h : lead b = .whole c) : b < 0x80 := by
  revert h
  fun_cases lead b <;> intro h
  · assumption
  all_goals cases h

/-! ## Characters that have begun -/

/-- A character that has begun takes octets of a range that has no ASCII octet, and
whatever it takes, its number will be beyond ASCII. -/
structure Pending.Sound (p : Pending) : Prop where
  low_ge : 0x80 ≤ p.low
  low_le_high : p.low ≤ p.high
  high_le : p.high ≤ 0xBF
  bits_ge : 0x80 ≤ (p.bits * 64 + (p.low - 0x80)) * 64 ^ p.more

def SoundOpen (open? : Option Pending) : Prop :=
  ∀ p ∈ open?, p.Sound

theorem soundOpen_none : SoundOpen none :=
  fun _ h => by cases h

theorem soundOpen_some {p : Pending} (h : p.Sound) : SoundOpen (some p) := by
  intro q hq
  obtain rfl := Option.some.inj hq
  exact h

theorem sound_of_lead {b : Nat} {p : Pending} (h : lead b = .opening p) : p.Sound := by
  obtain ⟨k, ⟨hlow, hhigh, rfl, rfl⟩ | ⟨hhigh, rfl, rfl⟩ | ⟨hhigh, rfl, rfl⟩⟩ :=
    of_lead_eq_opening h
  · refine ⟨?_, ?_, ?_, ?_⟩ <;> dsimp only <;> omega
  all_goals refine ⟨?_, ?_, ?_, ?_⟩ <;> dsimp only <;> split_ifs <;> omega

theorem soundOpen_start (b : Nat) : SoundOpen (start b).2 := by
  unfold start
  cases h : lead b with
  | whole c => exact soundOpen_none
  | opening p => exact soundOpen_some (sound_of_lead h)
  | stray => exact soundOpen_none

/-- The octet that a sound character takes next leaves it sound. -/
theorem Pending.Sound.next {bits low high more b : Nat}
    (h : Pending.Sound ⟨bits, low, high, more + 1⟩) (hb : low ≤ b) :
    Pending.Sound ⟨bits * 64 + (b - 0x80), 0x80, 0xBF, more⟩ := by
  have hbits : bits * 64 + (low - 0x80) ≤ bits * 64 + (b - 0x80) := by omega
  refine ⟨Nat.le_refl _, show 0x80 ≤ 0xBF by decide, Nat.le_refl _, ?_⟩
  calc 0x80 ≤ (bits * 64 + (low - 0x80)) * 64 ^ (more + 1) := h.bits_ge
    _ ≤ (bits * 64 + (b - 0x80)) * 64 ^ (more + 1) := Nat.mul_le_mul_right _ hbits
    _ = ((bits * 64 + (b - 0x80)) * 64 + (0x80 - 0x80)) * 64 ^ more := by
        rw [Nat.pow_succ', ← Nat.mul_assoc, Nat.sub_self, Nat.add_zero]

theorem soundOpen_step {open? : Option Pending} (h : SoundOpen open?) (b : Nat) :
    SoundOpen (step open? b).2 := by
  cases open? with
  | none => exact soundOpen_start b
  | some p =>
      have hp := h p rfl
      obtain ⟨bits, low, high, more⟩ := p
      rw [step]
      split
      · next hb =>
          cases more with
          | zero => exact soundOpen_none
          | succ more => exact soundOpen_some (hp.next hb.1)
      · exact soundOpen_start b

/-! ## ASCII octets -/

theorem start_of_lt {b : Nat} (h : b < 0x80) : start b = ([Char.ofNat b], none) := by
  rw [start, lead, if_pos h]

theorem step_of_lt {open? : Option Pending} (hopen : SoundOpen open?) {b : Nat} (h : b < 0x80) :
    step open? b = (flush open? ++ [Char.ofNat b], none) := by
  cases open? with
  | none => exact start_of_lt h
  | some p =>
      have hlow := (hopen p rfl).low_ge
      rw [step, if_neg (by omega), start_of_lt h]
      rfl

/-- **Behind an ASCII octet reading begins afresh.** -/
theorem decodeFrom_append_cons {open? : Option Pending} (hopen : SoundOpen open?) (front : Octets)
    {b : UInt8} (hb : b.toNat < 0x80) (rest : Octets) :
    decodeFrom open? (front ++ b :: rest) =
      decodeFrom open? front ++ Char.ofNat b.toNat :: decode rest := by
  induction front generalizing open? with
  | nil =>
      show (step open? b.toNat).1 ++ decodeFrom (step open? b.toNat).2 rest = _
      rw [step_of_lt hopen hb, List.append_assoc]
      rfl
  | cons a front ih =>
      show (step open? a.toNat).1 ++ decodeFrom (step open? a.toNat).2 (front ++ b :: rest) =
        (step open? a.toNat).1 ++ decodeFrom (step open? a.toNat).2 front ++ _
      rw [ih (soundOpen_step hopen a.toNat), List.append_assoc]

/-- **Parts that an ASCII octet joins are read one by one.** -/
theorem decode_intercalate {b : UInt8} (hb : b.toNat < 0x80) (parts : List Octets) :
    decode ([b].intercalate parts) = [Char.ofNat b.toNat].intercalate (parts.map decode) := by
  induction parts with
  | nil => rfl
  | cons part parts ih =>
      cases parts with
      | nil => simp
      | cons next parts =>
          rw [List.intercalate_cons_cons, List.append_assoc, List.singleton_append, decode,
            decodeFrom_append_cons soundOpen_none part hb, ih]
          simp [decode]

/-! ## ASCII characters -/

theorem toNat_ofNat_of_isValidChar {n : Nat} (h : n.isValidChar) : (Char.ofNat n).toNat = n := by
  rw [Char.ofNat, dif_pos h]
  rfl

section Ascii

variable {c : Char} (hpos : 0 < c.toNat) (hc : c.toNat < 0x80)
include hpos

theorem eq_toNat_of_ofNat {n : Nat} (h : Char.ofNat n = c) : n = c.toNat := by
  by_cases hvalid : n.isValidChar
  · rw [← h, toNat_ofNat_of_isValidChar hvalid]
  · -- Then the character is the null character, which `c` is not.
    rw [Char.ofNat, dif_neg hvalid] at h
    rw [← h] at hpos
    exact absurd hpos (by decide)

include hc

theorem eq_toNat_of_mem_start {b : Nat} (h : c ∈ (start b).1) : b = c.toNat := by
  rcases Nat.lt_or_ge b 0x80 with hlt | hge
  · rw [start_of_lt hlt] at h
    exact eq_toNat_of_ofNat hpos (List.mem_singleton.mp h).symm
  · have hreplaced : c = replacement := by
      unfold start at h
      split at h
      · next d hd => exact absurd (lt_of_lead_eq_whole hd) (Nat.not_lt_of_le hge)
      · cases h
      · exact List.mem_singleton.mp h
    rw [hreplaced] at hc
    exact absurd hc (by decide)

theorem eq_toNat_of_mem_step {open? : Option Pending} (hopen : SoundOpen open?) {b : Nat}
    (h : c ∈ (step open? b).1) : b = c.toNat := by
  cases open? with
  | none => exact eq_toNat_of_mem_start hpos hc h
  | some p =>
      have hbits := (hopen p rfl).bits_ge
      obtain ⟨bits, low, high, more⟩ := p
      rw [step] at h
      split at h
      · next hb =>
          cases more with
          | zero =>
              have hnumber := eq_toNat_of_ofNat hpos (List.mem_singleton.mp h).symm
              rw [Nat.pow_zero, Nat.mul_one] at hbits
              dsimp only at hb hbits hnumber
              omega
          | succ more => cases h
      · rcases List.mem_cons.mp h with hreplaced | hstart
        · rw [hreplaced] at hc
          exact absurd hc (by decide)
        · exact eq_toNat_of_mem_start hpos hc hstart

/-- **An ASCII character is read only where its octet stands.** -/
theorem exists_octet_of_mem_decodeFrom {open? : Option Pending} (hopen : SoundOpen open?)
    {octets : Octets} (h : c ∈ decodeFrom open? octets) : ∃ b ∈ octets, b.toNat = c.toNat := by
  induction octets generalizing open? with
  | nil =>
      have hreplaced : c = replacement := by
        cases open? with
        | none => cases h
        | some p => exact List.mem_singleton.mp h
      rw [hreplaced] at hc
      exact absurd hc (by decide)
  | cons b octets ih =>
      rcases List.mem_append.mp h with hstep | hrest
      · exact ⟨b, List.mem_cons_self, eq_toNat_of_mem_step hpos hc hopen hstep⟩
      · obtain ⟨a, ha, hac⟩ := ih (soundOpen_step hopen b.toNat) hrest
        exact ⟨a, List.mem_cons_of_mem b ha, hac⟩

end Ascii

theorem newline_not_mem_decode {octets : Octets} (h : 0x0A ∉ octets) : '\n' ∉ decode octets := by
  intro hmem
  obtain ⟨b, hb, heq⟩ :=
    exists_octet_of_mem_decodeFrom (by decide) (by decide) soundOpen_none hmem
  obtain rfl : b = 0x0A := UInt8.toNat_inj.mp heq
  exact h hb

/-! ## What is written -/

theorem decodeFrom_opening {n : Nat} (hn : n < 256) {p : Pending} (h : lead n = .opening p)
    (rest : Octets) : decodeFrom none (UInt8.ofNat n :: rest) = decodeFrom (some p) rest := by
  rw [decodeFrom, UInt8.toNat_ofNat_of_lt' hn, step, start, h]
  rfl

/-- The last octets of a character, each with six bits of its number. -/
def tail (n : Nat) : Nat → Octets
  | 0 => []
  | k + 1 => UInt8.ofNat (0x80 + n / 64 ^ k % 64) :: tail n k

theorem encodeCode_two {n : Nat} (hlow : 0x80 ≤ n) (hhigh : n < 0x800) :
    encodeCode n = UInt8.ofNat (0xC0 + n / 64) :: tail n 1 := by
  rw [encodeCode, if_neg (by omega), if_pos hhigh]
  simp [tail]

theorem encodeCode_three {n : Nat} (hlow : 0x800 ≤ n) (hhigh : n < 0x10000) :
    encodeCode n = UInt8.ofNat (0xE0 + n / 4096) :: tail n 2 := by
  rw [encodeCode, if_neg (by omega), if_neg (by omega), if_pos hhigh]
  simp [tail]

theorem encodeCode_four {n : Nat} (hlow : 0x10000 ≤ n) :
    encodeCode n = UInt8.ofNat (0xF0 + n / 262144) :: tail n 3 := by
  rw [encodeCode, if_neg (by omega), if_neg (by omega), if_neg (by omega)]
  simp [tail]

/-- A character that has begun may have a number: the bits so far are its first, and
the next of its octets is in range. -/
structure Pending.Allows (p : Pending) (n : Nat) : Prop where
  bits_eq : n / 64 ^ (p.more + 1) = p.bits
  low_le : p.low ≤ 0x80 + n / 64 ^ p.more % 64
  le_high : 0x80 + n / 64 ^ p.more % 64 ≤ p.high

theorem exists_lead_of_encodeCode {n : Nat} (hn : n.isValidChar) (hlong : 0x80 ≤ n) :
    ∃ b p, b < 256 ∧ lead b = .opening p ∧ p.Allows n ∧
      encodeCode n = UInt8.ofNat b :: tail n (p.more + 1) := by
  have hvalid : n < 0xD800 ∨ 0xDFFF < n ∧ n < 0x110000 := hn
  rcases Nat.lt_or_ge n 0x800 with htwo | htwo
  · refine ⟨0xC0 + n / 64, _, by omega, lead_two (by omega) (by omega), ⟨rfl, ?_, ?_⟩,
      encodeCode_two hlong htwo⟩
    all_goals dsimp only; omega
  rcases Nat.lt_or_ge n 0x10000 with hthree | hthree
  · refine ⟨0xE0 + n / 4096, _, by omega, lead_three _ (by omega), ⟨rfl, ?_, ?_⟩,
      encodeCode_three htwo hthree⟩
    all_goals dsimp only; split <;> omega
  · refine ⟨0xF0 + n / 262144, _, by omega, lead_four _ (by omega), ⟨rfl, ?_, ?_⟩,
      encodeCode_four hthree⟩
    all_goals dsimp only; split <;> omega

theorem div_pow_eq (n k : Nat) : n / 64 ^ k = n / 64 ^ (k + 1) * 64 + n / 64 ^ k % 64 := by
  rw [Nat.pow_succ, ← Nat.div_div_eq_div_mul, Nat.div_add_mod']

theorem toNat_ofNat_add_mod (x : Nat) : (UInt8.ofNat (0x80 + x % 64)).toNat = 0x80 + x % 64 :=
  UInt8.toNat_ofNat_of_lt' (show 0x80 + x % 64 < 256 by omega)

section Allows

variable {bits low high more n : Nat}

/-- The octet that an allowed number has next leaves it allowed. -/
theorem Pending.Allows.next (h : Pending.Allows ⟨bits, low, high, more + 1⟩ n) :
    Pending.Allows ⟨bits * 64 + n / 64 ^ (more + 1) % 64, 0x80, 0xBF, more⟩ n := by
  have hbits : n / 64 ^ (more + 1 + 1) = bits := h.bits_eq
  have hnext := div_pow_eq n (more + 1)
  rw [hbits] at hnext
  exact ⟨hnext, by dsimp only; omega, by dsimp only; omega⟩

theorem Pending.Allows.eq_of_last (h : Pending.Allows ⟨bits, low, high, 0⟩ n) :
    bits * 64 + n / 64 ^ 0 % 64 = n := by
  have hbits : n / 64 ^ (0 + 1) = bits := h.bits_eq
  rw [← hbits, ← div_pow_eq, Nat.pow_zero, Nat.div_one]

theorem decodeFrom_tail (h : Pending.Allows ⟨bits, low, high, more⟩ n) (rest : Octets) :
    decodeFrom (some ⟨bits, low, high, more⟩) (tail n (more + 1) ++ rest) =
      Char.ofNat n :: decode rest := by
  induction more generalizing bits low high with
  | zero =>
      rw [tail, List.cons_append, decodeFrom, toNat_ofNat_add_mod, step,
        if_pos ⟨h.low_le, h.le_high⟩, Nat.add_sub_cancel_left, h.eq_of_last]
      rfl
  | succ more ih =>
      rw [tail, List.cons_append, decodeFrom, toNat_ofNat_add_mod, step,
        if_pos ⟨h.low_le, h.le_high⟩, Nat.add_sub_cancel_left]
      exact ih h.next

end Allows

theorem decode_encodeCode_append (c : Char) (rest : Octets) :
    decode (encodeCode c.toNat ++ rest) = c :: decode rest := by
  rcases Nat.lt_or_ge c.toNat 0x80 with hone | hlong
  · rw [encodeCode, if_pos hone, List.singleton_append, decode, decodeFrom,
      UInt8.toNat_ofNat_of_lt' (Nat.lt_trans hone (by decide)), step, start_of_lt hone,
      Char.ofNat_toNat]
    rfl
  · obtain ⟨b, p, hb, hlead, hallows, hcode⟩ :=
      exists_lead_of_encodeCode (show c.toNat.isValidChar from c.valid) hlong
    rw [hcode, List.cons_append, decode, decodeFrom_opening hb hlead, decodeFrom_tail hallows,
      Char.ofNat_toNat]

/-- **What is written is read back.** -/
theorem decode_encode (cs : List Char) : decode (encode cs) = cs := by
  induction cs with
  | nil => rfl
  | cons c cs ih =>
      rw [encode, List.flatMap_cons, decode_encodeCode_append]
      exact congrArg (c :: ·) ih

theorem encodeCode_eq_utf8EncodeChar (c : Char) :
    encodeCode c.toNat = String.utf8EncodeChar c := by
  have hvalid : c.toNat < 0xD800 ∨ 0xDFFF < c.toNat ∧ c.toNat < 0x110000 := c.valid
  have hval : c.val.toNat = c.toNat := rfl
  rw [String.utf8EncodeChar, hval, encodeCode]
  generalize c.toNat = n at hvalid
  -- The bits that the core library masks in a first octet are not there.
  rcases Nat.lt_or_ge n 0x80 with hone | hone
  · rw [if_pos hone, if_pos (by omega)]
  rcases Nat.lt_or_ge n 0x800 with htwo | htwo
  · have hlead : n / 64 % 32 = n / 64 := by omega
    rw [if_neg (by omega), if_pos htwo, if_neg (by omega), if_pos (by omega), hlead]
    simp only [Nat.add_comm]
  rcases Nat.lt_or_ge n 0x10000 with hthree | hthree
  · have hlead : n / 4096 % 16 = n / 4096 := by omega
    rw [if_neg (by omega), if_neg (by omega), if_pos hthree, if_neg (by omega),
      if_neg (by omega), if_pos (by omega), hlead]
    simp only [Nat.add_comm]
  · have hlead : n / 262144 % 8 = n / 262144 := by omega
    rw [if_neg (by omega), if_neg (by omega), if_neg (by omega), if_neg (by omega),
      if_neg (by omega), if_neg (by omega), hlead]
    simp only [Nat.add_comm]

/-- **What is written is the UTF-8 of the text.** -/
theorem toByteArray_encode (s : String) : (encode s.toList).toByteArray = s.toUTF8 := by
  have hcode : (fun c : Char => encodeCode c.toNat) = String.utf8EncodeChar :=
    funext encodeCode_eq_utf8EncodeChar
  rw [encode, hcode]
  show s.toList.utf8Encode = s.toByteArray
  rw [← String.toByteArray_ofList, String.ofList_toList]

end Typeahead.Text.Utf8
