import Typeahead.Proofs.Text.Utf8

/-!
# What is replaced

Where no character is written, the longest part that begins one is replaced as a
whole, or a single octet if none does. The relation `Reads` says so by what characters
are written as, without the machine that reads. Main statement: `reads_iff`. The
invariant is `Opened`: what is open says which octets may follow those that opened it.
-/

namespace Typeahead.Text.Utf8

def Begins (part : Octets) : Prop :=
  ∃ c : Char, part <+: encodeCode c.toNat

/-- A part at the front of some octets that cannot be longer: an octet, or what begins
a character. -/
structure Subpart (part octets : Octets) : Prop where
  front : part <+: octets
  ne_nil : part ≠ []
  begins : part.length = 1 ∨ Begins part
  maximal : ∀ longer, longer <+: octets → Begins longer → longer.length ≤ part.length

/-! ## First octets -/

theorem encodeCode_of_lead {b n : Nat} {p : Pending} (h : lead b = .opening p) (hn : p.Allows n) :
    n.isValidChar ∧ encodeCode n = UInt8.ofNat b :: tail n (p.more + 1) := by
  obtain ⟨hbits, hlow, hhigh⟩ := hn
  have hvalid (hrange : n < 0xD800 ∨ 0xDFFF < n ∧ n < 0x110000) : n.isValidChar := hrange
  obtain ⟨k, ⟨hk, hk', rfl, rfl⟩ | ⟨hk, rfl, rfl⟩ | ⟨hk, rfl, rfl⟩⟩ := of_lead_eq_opening h
  · obtain rfl : n / 64 = k := hbits
    exact ⟨hvalid (by omega), encodeCode_two (by omega) (by omega)⟩
  · obtain rfl : n / 4096 = k := hbits
    dsimp only at hlow hhigh
    refine ⟨hvalid ?_, encodeCode_three ?_ (by omega)⟩ <;> split_ifs at hlow hhigh <;> omega
  · obtain rfl : n / 262144 = k := hbits
    dsimp only at hlow hhigh
    refine ⟨hvalid ?_, encodeCode_four ?_⟩ <;> split_ifs at hlow hhigh <;> omega

theorem encodeCode_of_whole {b : UInt8} {c : Char} (h : lead b.toNat = .whole c) :
    encodeCode c.toNat = [b] := by
  have hlt := lt_of_lead_eq_whole h
  rw [lead, if_pos hlt] at h
  obtain rfl := Lead.whole.inj h
  have hvalid : b.toNat.isValidChar := .inl (Nat.lt_trans hlt (by decide))
  rw [toNat_ofNat_of_isValidChar hvalid, encodeCode, if_pos hlt, UInt8.ofNat_toNat]

theorem lead_of_encodeCode {c : Char} {b : UInt8} {rest rest' : Octets}
    (h : encodeCode c.toNat ++ rest = b :: rest') :
    lead b.toNat = .whole c ∨ ∃ p, lead b.toNat = .opening p ∧ p.Allows c.toNat := by
  rcases Nat.lt_or_ge c.toNat 0x80 with hone | hlong
  · have hcode : encodeCode c.toNat = [UInt8.ofNat c.toNat] := if_pos hone
    rw [hcode] at h
    obtain rfl : UInt8.ofNat c.toNat = b := (List.cons.inj h).1
    left
    rw [UInt8.toNat_ofNat_of_lt' (Nat.lt_trans hone (by decide)), lead, if_pos hone,
      Char.ofNat_toNat]
  · obtain ⟨a, p, ha, hlead, hallows, hcode⟩ :=
      exists_lead_of_encodeCode (show c.toNat.isValidChar from c.valid) hlong
    rw [hcode] at h
    obtain rfl : UInt8.ofNat a = b := (List.cons.inj h).1
    rw [UInt8.toNat_ofNat_of_lt' ha]
    exact .inr ⟨p, hlead, hallows⟩

/-! ## Open characters -/

/-- What some octets have opened: whatever the open character allows is a character
that begins with them, and no other character agrees with them. -/
structure Opened (part : Octets) (p : Pending) : Prop where
  sound : p.Sound
  encodes : ∀ n, p.Allows n → n.isValidChar ∧ encodeCode n = part ++ tail n (p.more + 1)
  allows : ∀ (c : Char) (rest rest' : Octets),
    encodeCode c.toNat ++ rest = part ++ rest' → p.Allows c.toNat

theorem opened_of_lead {b : UInt8} {p : Pending} (h : lead b.toNat = .opening p) :
    Opened [b] p := by
  refine ⟨sound_of_lead h, fun n hn => ?_, fun c rest rest' hsame => ?_⟩
  · have hcode := encodeCode_of_lead h hn
    rwa [UInt8.ofNat_toNat] at hcode
  · rcases lead_of_encodeCode hsame with hwhole | ⟨q, hopening, hallows⟩
    · rw [h] at hwhole
      cases hwhole
    · rw [h] at hopening
      obtain rfl := Lead.opening.inj hopening
      exact hallows

section Opened

variable {part : Octets} {p : Pending}

theorem Opened.range_of_append_cons (h : Opened part p) {c : Char} {b : UInt8}
    {rest rest' : Octets} (hsame : encodeCode c.toNat ++ rest = part ++ b :: rest') :
    p.Allows c.toNat ∧ b.toNat = 0x80 + c.toNat / 64 ^ p.more % 64 := by
  have hallows := h.allows c rest (b :: rest') hsame
  obtain ⟨-, hcode⟩ := h.encodes c.toNat hallows
  rw [hcode, List.append_assoc, List.append_cancel_left_eq, tail, List.cons_append] at hsame
  rw [← (List.cons.inj hsame).1, toNat_ofNat_add_mod]
  exact ⟨hallows, rfl⟩

/-- No character ends with what is open. -/
theorem Opened.append_ne (h : Opened part p) (c : Char) (rest : Octets) :
    encodeCode c.toNat ++ rest ≠ part := by
  intro hsame
  have hallows := h.allows c rest [] (by rw [hsame, List.append_nil])
  obtain ⟨-, hcode⟩ := h.encodes c.toNat hallows
  have hlength := congrArg List.length hsame
  rw [hcode, List.length_append, List.length_append, tail, List.length_cons] at hlength
  omega

theorem Opened.begins (h : Opened part p) : Begins part := by
  have hlow := h.sound.low_ge
  have hle := h.sound.low_le_high
  have hhigh := h.sound.high_le
  -- The least number that is allowed.
  obtain ⟨n, hn⟩ : ∃ n, n / 64 ^ p.more = p.bits * 64 + (p.low - 0x80) :=
    ⟨(p.bits * 64 + (p.low - 0x80)) * 64 ^ p.more,
      Nat.mul_div_cancel _ (Nat.pow_pos (by decide))⟩
  have hallows : p.Allows n := by
    refine ⟨?_, by omega, by omega⟩
    rw [Nat.pow_succ, ← Nat.div_div_eq_div_mul, hn]
    omega
  obtain ⟨hvalid, hcode⟩ := h.encodes n hallows
  refine ⟨Char.ofNat n, ?_⟩
  rw [toNat_ofNat_of_isValidChar hvalid, hcode]
  exact List.prefix_append _ _

variable {bits low high more : Nat} {b : UInt8}

/-- An octet in range goes on with what is open: all numbers that have it next are
characters that begin so. -/
theorem Opened.encodes_append (h : Opened part ⟨bits, low, high, more⟩) (hlow : low ≤ b.toNat)
    (hhigh : b.toNat ≤ high) {n : Nat} (hn : n / 64 ^ more = bits * 64 + (b.toNat - 0x80)) :
    n.isValidChar ∧ encodeCode n = part ++ b :: tail n more := by
  have hlowest : 0x80 ≤ low := h.sound.low_ge
  have hhighest : high ≤ 0xBF := h.sound.high_le
  have hdiv := div_pow_eq n more
  have hallows : Pending.Allows ⟨bits, low, high, more⟩ n :=
    ⟨by dsimp only; omega, by dsimp only; omega, by dsimp only; omega⟩
  obtain ⟨hvalid, hcode⟩ := h.encodes n hallows
  have hoctet : UInt8.ofNat (0x80 + n / 64 ^ more % 64) = b := by
    rw [show 0x80 + n / 64 ^ more % 64 = b.toNat by omega, UInt8.ofNat_toNat]
  refine ⟨hvalid, ?_⟩
  rw [hcode, tail, hoctet]

theorem Opened.next (h : Opened part ⟨bits, low, high, more + 1⟩) (hlow : low ≤ b.toNat)
    (hhigh : b.toNat ≤ high) :
    Opened (part ++ [b]) ⟨bits * 64 + (b.toNat - 0x80), 0x80, 0xBF, more⟩ := by
  refine ⟨h.sound.next hlow, fun n hn => ?_, fun c rest rest' hsame => ?_⟩
  · rw [List.append_assoc]
    exact h.encodes_append hlow hhigh hn.bits_eq
  · rw [List.append_assoc, List.singleton_append] at hsame
    obtain ⟨hallows, hb⟩ := h.range_of_append_cons hsame
    rw [hb, Nat.add_sub_cancel_left]
    exact hallows.next

theorem Opened.complete (h : Opened part ⟨bits, low, high, 0⟩) (hlow : low ≤ b.toNat)
    (hhigh : b.toNat ≤ high) :
    encodeCode (Char.ofNat (bits * 64 + (b.toNat - 0x80))).toNat = part ++ [b] := by
  obtain ⟨hvalid, hcode⟩ := h.encodes_append hlow hhigh (Nat.div_one _)
  rw [toNat_ofNat_of_isValidChar hvalid, hcode]
  rfl

end Opened

/-! ## What octets are read as -/

/-- What octets are read as: the character at their front if there is one, and one
replacement character for a part there that cannot be longer if there is none. -/
inductive Reads : Octets → List Char → Prop where
  | nil : Reads [] []
  | character (c : Char) {rest : Octets} {chars : List Char} (hrest : Reads rest chars) :
      Reads (encodeCode c.toNat ++ rest) (c :: chars)
  | replaced {part rest : Octets} {chars : List Char} (hpart : Subpart part (part ++ rest))
      (hnone : ∀ c : Char, ¬ encodeCode c.toNat <+: part ++ rest) (hrest : Reads rest chars) :
      Reads (part ++ rest) (replacement :: chars)

/-- A part is replaced if no character agrees with it and with what comes next. -/
theorem Reads.of_stop {part rest : Octets} {chars : List Char} (hne : part ≠ [])
    (hbegins : part.length = 1 ∨ Begins part)
    (hstop : ∀ (c : Char) (front back : Octets), back.head? = rest.head? →
      encodeCode c.toNat ++ front ≠ part ++ back) (hrest : Reads rest chars) :
    Reads (part ++ rest) (replacement :: chars) := by
  refine .replaced ⟨List.prefix_append _ _, hne, hbegins, ?_⟩ ?_ hrest
  · rintro longer hlonger ⟨c, behind, hcode⟩
    by_contra hlt
    obtain ⟨more, rfl⟩ : part <+: longer :=
      List.prefix_of_prefix_length_le (List.prefix_append part rest) hlonger (by omega)
    cases more with
    | nil => simp at hlt
    | cons b more =>
        obtain ⟨beyond, rfl⟩ := (List.prefix_append_right_inj part).mp hlonger
        refine hstop c [] (b :: more ++ behind) rfl ?_
        rw [List.append_nil, ← hcode, List.append_assoc]
  · rintro c ⟨front, hfront⟩
    exact hstop c front rest rfl hfront

theorem Opened.reads {part rest : Octets} {p : Pending} (h : Opened part p) (hne : part ≠ [])
    (hrest : ∀ back, back <:+ rest → Reads back (decode back)) :
    Reads (part ++ rest) (decodeFrom (some p) rest) := by
  induction rest generalizing part p with
  | nil =>
      refine Reads.of_stop hne (.inr h.begins) (fun c front back hback => ?_) .nil
      obtain rfl : back = [] := List.head?_eq_none_iff.mp hback
      rw [List.append_nil]
      exact h.append_ne c front
  | cons b rest ih =>
      obtain ⟨bits, low, high, more⟩ := p
      rw [decodeFrom, step]
      by_cases hb : low ≤ b.toNat ∧ b.toNat ≤ high
      · rw [if_pos hb, List.append_cons]
        cases more with
        | zero =>
            rw [← h.complete hb.1 hb.2]
            exact .character _ (hrest rest (List.suffix_cons b rest))
        | succ more =>
            refine ih (h.next hb.1 hb.2) (by simp) fun back hback => ?_
            exact hrest back (hback.trans (List.suffix_cons b rest))
      · rw [if_neg hb]
        refine Reads.of_stop hne (.inr h.begins) (fun c front back hback hsame => ?_)
          (hrest (b :: rest) (List.suffix_refl _))
        cases back with
        | nil => cases hback
        | cons a back =>
            -- A character that goes on with `b` would have it in range.
            obtain rfl : a = b := Option.some.inj hback
            obtain ⟨hallows, ha⟩ := h.range_of_append_cons hsame
            have hlow := hallows.low_le
            have hhigh := hallows.le_high
            rw [← ha] at hlow hhigh
            exact hb ⟨hlow, hhigh⟩

theorem reads_decode (octets : Octets) : Reads octets (decode octets) := by
  induction hlen : octets.length using Nat.strongRecOn generalizing octets with
  | ind len ih =>
      subst hlen
      cases octets with
      | nil => exact .nil
      | cons b rest =>
          have hrest : ∀ back, back <:+ rest → Reads back (decode back) :=
            fun back hback => ih _ (Nat.lt_succ_of_le hback.length_le) back rfl
          rw [decode, decodeFrom, step, start]
          cases hlead : lead b.toNat with
          | whole c =>
              have hread := Reads.character c (hrest rest (List.suffix_refl _))
              rwa [encodeCode_of_whole hlead] at hread
          | opening p => exact (opened_of_lead hlead).reads (by simp) hrest
          | stray =>
              show Reads ([b] ++ rest) (replacement :: decode rest)
              refine Reads.of_stop (by simp) (.inl rfl) (fun c front back _ hsame => ?_)
                (hrest rest (List.suffix_refl _))
              rcases lead_of_encodeCode hsame with hwhole | ⟨p, hopening, -⟩
              · rw [hlead] at hwhole
                cases hwhole
              · rw [hlead] at hopening
                cases hopening

/-! ## Only one way to read -/

theorem encodeCode_append_ne_nil (c : Char) (rest : Octets) : encodeCode c.toNat ++ rest ≠ [] := by
  intro h
  have hread := decode_encodeCode_append c rest
  rw [h] at hread
  cases hread

theorem encodeCode_append_inj {c d : Char} {rest rest' : Octets}
    (h : encodeCode c.toNat ++ rest = encodeCode d.toNat ++ rest') : c = d ∧ rest = rest' := by
  have hread := congrArg decode h
  rw [decode_encodeCode_append, decode_encodeCode_append] at hread
  obtain rfl := (List.cons.inj hread).1
  exact ⟨rfl, List.append_cancel_left h⟩

theorem Subpart.length_le {part other octets : Octets} (h : Subpart part octets)
    (hother : Subpart other octets) : part.length ≤ other.length := by
  rcases h.begins with hone | hbegins
  · rw [hone]
    exact List.length_pos_iff.mpr hother.ne_nil
  · exact hother.maximal part h.front hbegins

theorem Reads.unique {octets : Octets} {chars chars' : List Char} (h : Reads octets chars)
    (h' : Reads octets chars') : chars = chars' := by
  induction h generalizing chars' with
  | nil =>
      generalize hoctets : ([] : Octets) = octets at h'
      cases h' with
      | nil => rfl
      | @character c rest chars hrest =>
          exact absurd hoctets.symm (encodeCode_append_ne_nil c rest)
      | replaced hpart hnone hrest =>
          exact absurd (List.append_eq_nil_iff.mp hoctets.symm).1 hpart.ne_nil
  | @character c rest chars hrest ih =>
      generalize hoctets : encodeCode c.toNat ++ rest = octets at h'
      cases h' with
      | nil => exact absurd hoctets (encodeCode_append_ne_nil c rest)
      | character d hrest' =>
          obtain ⟨rfl, rfl⟩ := encodeCode_append_inj hoctets
          rw [ih hrest']
      | replaced hpart hnone hrest' => exact absurd ⟨rest, hoctets⟩ (hnone c)
  | @replaced part rest chars hpart hnone hrest ih =>
      generalize hoctets : part ++ rest = octets at h'
      cases h' with
      | nil => exact absurd (List.append_eq_nil_iff.mp hoctets).1 hpart.ne_nil
      | @character c rest' chars' hrest' => exact absurd ⟨rest', hoctets.symm⟩ (hnone c)
      | @replaced part' rest' chars' hpart' hnone' hrest' =>
          rw [hoctets] at hpart
          have hlength := Nat.le_antisymm (hpart.length_le hpart') (hpart'.length_le hpart)
          obtain ⟨rfl, rfl⟩ := List.append_inj hoctets hlength
          rw [ih hrest']

/-- **What octets are read as**, by the characters that are written with them: one
replacement character stands for each part that cannot be longer. -/
theorem reads_iff {octets : Octets} {chars : List Char} :
    Reads octets chars ↔ chars = decode octets := by
  constructor
  · intro h
    exact h.unique (reads_decode octets)
  · rintro rfl
    exact reads_decode octets

end Typeahead.Text.Utf8
