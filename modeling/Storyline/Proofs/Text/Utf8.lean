/-
Decoding UTF-8 takes back encoding and nothing else: bytes are decoded to
a text just when they are the bytes of that text. Which bytes belong
together is decided by the first of them, so there is one lemma for each
width in either direction, about bytes in the ranges that the width
allows.

* `decodeUtf8From_utf8Char`: the bytes of a character are taken together;
* `decodeUtf8From_cons_ok`: bytes that are decoded begin with those of a
  character.

Main statement: `decodeUtf8_eq_ok_iff`.
-/
import Storyline.Text.Utf8

namespace Storyline.Text

variable {position : Nat} {done cs : List Char} {rest bytes : List UInt8}
  {a b c d : UInt8}

-- =============================================================== bytes

theorem lt_byte {bound : UInt8} (h : a.toNat < bound.toNat) : a < bound :=
  UInt8.lt_iff_toNat_lt.2 h

theorem not_lt_byte {bound : UInt8} (h : bound.toNat ≤ a.toNat) :
    ¬a < bound :=
  fun hlt => Nat.not_lt.2 h (UInt8.lt_iff_toNat_lt.1 hlt)

theorem toNat_byte {n : Nat} (h : n < 0x100) : n.toUInt8.toNat = n :=
  Nat.mod_eq_of_lt h

theorem toUInt8_eq {n : Nat} (byte : UInt8) (h : n = byte.toNat) :
    n.toUInt8 = byte := by
  rw [h]
  exact UInt8.ofNat_toNat

/-- A byte that goes on with a sequence. -/
abbrev IsTail (b : UInt8) : Prop := 0x80 ≤ b.toNat ∧ b.toNat < 0xC0

theorem isContinuation_iff : isContinuation b = true ↔ IsTail b := by
  unfold isContinuation
  rw [Bool.and_eq_true, decide_eq_true_iff, decide_eq_true_iff,
    UInt8.le_iff_toNat_le, UInt8.lt_iff_toNat_lt]
  rfl

theorem lowBits_of_isTail (h : IsTail b) : lowBits b = b.toNat - 0x80 := by
  unfold lowBits
  omega

/-- The second of three bytes: the sequence is no longer than it has to be
and names no surrogate. -/
theorem secondOfThree_iff :
    secondOfThree a b = true
      ↔ IsTail b ∧ (a.toNat = 0xE0 → 0xA0 ≤ b.toNat)
          ∧ (a.toNat = 0xED → b.toNat < 0xA0) := by
  unfold secondOfThree
  rw [Bool.and_eq_true, Bool.and_eq_true, isContinuation_iff, and_assoc]
  simp only [Bool.not_eq_true', Bool.and_eq_false_imp, beq_iff_eq,
    decide_eq_false_iff_not, Nat.not_lt, Nat.not_le,
    UInt8.le_iff_toNat_le, UInt8.lt_iff_toNat_lt, ← UInt8.toNat_inj]
  rfl

/-- The second of four bytes: the sequence is no longer than it has to be
and does not go beyond the last code point. -/
theorem secondOfFour_iff :
    secondOfFour a b = true
      ↔ IsTail b ∧ (a.toNat = 0xF0 → 0x90 ≤ b.toNat)
          ∧ (a.toNat = 0xF4 → b.toNat < 0x90) := by
  unfold secondOfFour
  rw [Bool.and_eq_true, Bool.and_eq_true, isContinuation_iff, and_assoc]
  simp only [Bool.not_eq_true', Bool.and_eq_false_imp, beq_iff_eq,
    decide_eq_false_iff_not, Nat.not_lt, Nat.not_le,
    UInt8.le_iff_toNat_le, UInt8.lt_iff_toNat_lt, ← UInt8.toNat_inj]
  rfl

-- ============================================================== widths

theorem decode_one (ha : a.toNat < 0x80) :
    decodeUtf8From position done (a :: rest)
      = decodeUtf8From (position + 1) (Char.ofNat a.toNat :: done) rest := by
  rw [decodeUtf8From.eq_def]
  exact if_pos (lt_byte ha)

theorem decode_two (ha : 0xC2 ≤ a.toNat ∧ a.toNat < 0xE0) (hb : IsTail b) :
    decodeUtf8From position done (a :: b :: rest)
      = decodeUtf8From (position + 2)
          (Char.ofNat ((a.toNat - 0xC0) * 0x40 + lowBits b) :: done) rest := by
  have hone : ¬a < 0x80 := not_lt_byte (Nat.le_trans (by decide) ha.1)
  have hgap : ¬a < 0xC2 := not_lt_byte ha.1
  have htwo : a < 0xE0 := lt_byte ha.2
  simp only [decodeUtf8From, if_neg hone, if_neg hgap, if_pos htwo,
    isContinuation_iff.2 hb, if_true]

theorem decode_three (ha : 0xE0 ≤ a.toNat ∧ a.toNat < 0xF0)
    (hb : secondOfThree a b = true) (hc : IsTail c) :
    decodeUtf8From position done (a :: b :: c :: rest)
      = decodeUtf8From (position + 3)
          (Char.ofNat (((a.toNat - 0xE0) * 0x40 + lowBits b) * 0x40
            + lowBits c) :: done) rest := by
  have hone : ¬a < 0x80 := not_lt_byte (Nat.le_trans (by decide) ha.1)
  have hgap : ¬a < 0xC2 := not_lt_byte (Nat.le_trans (by decide) ha.1)
  have htwo : ¬a < 0xE0 := not_lt_byte ha.1
  have hthree : a < 0xF0 := lt_byte ha.2
  simp [decodeUtf8From, if_neg hone, if_neg hgap, if_neg htwo, if_pos hthree,
    hb, isContinuation_iff.2 hc]

theorem decode_four (ha : 0xF0 ≤ a.toNat ∧ a.toNat < 0xF5)
    (hb : secondOfFour a b = true) (hc : IsTail c) (hd : IsTail d) :
    decodeUtf8From position done (a :: b :: c :: d :: rest)
      = decodeUtf8From (position + 4)
          (Char.ofNat ((((a.toNat - 0xF0) * 0x40 + lowBits b) * 0x40
            + lowBits c) * 0x40 + lowBits d) :: done) rest := by
  have hone : ¬a < 0x80 := not_lt_byte (Nat.le_trans (by decide) ha.1)
  have hgap : ¬a < 0xC2 := not_lt_byte (Nat.le_trans (by decide) ha.1)
  have htwo : ¬a < 0xE0 := not_lt_byte (Nat.le_trans (by decide) ha.1)
  have hthree : ¬a < 0xF0 := not_lt_byte ha.1
  have hfour : a < 0xF5 := lt_byte ha.2
  simp [decodeUtf8From, if_neg hone, if_neg hgap, if_neg htwo, if_neg hthree,
    if_pos hfour, hb, isContinuation_iff.2 hc, isContinuation_iff.2 hd]

-- ========================================================== characters

/-- The decoder takes the bytes of a character together. -/
theorem decodeUtf8From_utf8Char (char : Char) :
    decodeUtf8From position done (utf8Char char ++ rest)
      = decodeUtf8From (position + (utf8Char char).length) (char :: done)
          rest := by
  have hvalid : char.toNat < 0xD800
      ∨ 0xDFFF < char.toNat ∧ char.toNat < 0x110000 := char.valid
  have hchar {n : Nat} (h : n = char.toNat) : Char.ofNat n = char := by
    rw [h, Char.ofNat_toNat]
  unfold utf8Char
  simp only
  generalize char.toNat = n at hvalid hchar
  split
  · next hone =>
    have hbyte : n.toUInt8.toNat = n := toNat_byte (by omega)
    rw [List.singleton_append, decode_one (by omega), hchar hbyte]
    rfl
  · split
    · have ha := toNat_byte (show 0xC0 + n / 0x40 < 0x100 by omega)
      have hb := toNat_byte (show 0x80 + n % 0x40 < 0x100 by omega)
      rw [List.cons_append, List.singleton_append,
        decode_two (by omega) (by omega), hchar]
      · rfl
      · unfold lowBits
        omega
    · split
      · have ha := toNat_byte (show 0xE0 + n / 0x1000 < 0x100 by omega)
        have hb := toNat_byte (show 0x80 + n / 0x40 % 0x40 < 0x100 by omega)
        have hc := toNat_byte (show 0x80 + n % 0x40 < 0x100 by omega)
        rw [List.cons_append, List.cons_append, List.singleton_append,
          decode_three (by omega) (secondOfThree_iff.2 (by omega))
            (by omega), hchar]
        · rfl
        · unfold lowBits
          omega
      · have ha := toNat_byte (show 0xF0 + n / 0x40000 < 0x100 by omega)
        have hb := toNat_byte (show 0x80 + n / 0x1000 % 0x40 < 0x100 by omega)
        have hc := toNat_byte (show 0x80 + n / 0x40 % 0x40 < 0x100 by omega)
        have hd := toNat_byte (show 0x80 + n % 0x40 < 0x100 by omega)
        rw [List.cons_append, List.cons_append, List.cons_append,
          List.singleton_append,
          decode_four (by omega) (secondOfFour_iff.2 (by omega)) (by omega)
            (by omega), hchar]
        · rfl
        · unfold lowBits
          omega

theorem decodeUtf8From_flatMap (cs : List Char) :
    decodeUtf8From position done (cs.flatMap utf8Char)
      = .ok (done.reverse ++ cs) := by
  induction cs generalizing position done with
  | nil =>
      rw [List.flatMap_nil, List.append_nil]
      rfl
  | cons char cs ih =>
      rw [List.flatMap_cons, decodeUtf8From_utf8Char, ih,
        List.reverse_cons, List.append_assoc]
      rfl

/-- What was encoded is decoded to the same text. -/
theorem decodeUtf8_utf8Bytes (s : String) :
    decodeUtf8 (utf8Bytes s) = .ok s.toList :=
  decodeUtf8From_flatMap s.toList

-- ========================================================= and backwards

theorem length_utf8Char_pos (c : Char) : 0 < (utf8Char c).length := by
  unfold utf8Char
  simp only
  split
  · exact Nat.zero_lt_succ _
  · split
    · exact Nat.zero_lt_succ _
    · split <;> exact Nat.zero_lt_succ _

/-- A number that is no surrogate is that of a character. -/
theorem toNat_ofNat_of_valid {n : Nat}
    (h : n < 0xD800 ∨ 0xDFFF < n ∧ n < 0x110000) :
    (Char.ofNat n).toNat = n := by
  unfold Char.ofNat
  rw [dif_pos h]
  rfl

theorem utf8Char_one (ha : a.toNat < 0x80) :
    utf8Char (Char.ofNat a.toNat) = [a] := by
  unfold utf8Char
  rw [toNat_ofNat_of_valid (Or.inl (by omega))]
  simp only
  rw [if_pos ha, toUInt8_eq a rfl]

theorem utf8Char_two (ha : 0xC2 ≤ a.toNat ∧ a.toNat < 0xE0)
    (hb : IsTail b) :
    utf8Char (Char.ofNat ((a.toNat - 0xC0) * 0x40 + lowBits b)) = [a, b] := by
  unfold utf8Char
  rw [lowBits_of_isTail hb, toNat_ofNat_of_valid (Or.inl (by omega))]
  simp only
  rw [if_neg (by omega), if_pos (by omega), toUInt8_eq a (by omega),
    toUInt8_eq b (by omega)]

theorem utf8Char_three (ha : 0xE0 ≤ a.toNat ∧ a.toNat < 0xF0)
    (hb : secondOfThree a b = true) (hc : IsTail c) :
    utf8Char (Char.ofNat (((a.toNat - 0xE0) * 0x40 + lowBits b) * 0x40
      + lowBits c)) = [a, b, c] := by
  obtain ⟨hb, hlong, hsurrogate⟩ := secondOfThree_iff.1 hb
  unfold utf8Char
  rw [lowBits_of_isTail hb, lowBits_of_isTail hc,
    toNat_ofNat_of_valid (by omega)]
  simp only
  rw [if_neg (by omega), if_neg (by omega), if_pos (by omega),
    toUInt8_eq a (by omega), toUInt8_eq b (by omega),
    toUInt8_eq c (by omega)]

theorem utf8Char_four (ha : 0xF0 ≤ a.toNat ∧ a.toNat < 0xF5)
    (hb : secondOfFour a b = true) (hc : IsTail c) (hd : IsTail d) :
    utf8Char (Char.ofNat ((((a.toNat - 0xF0) * 0x40 + lowBits b) * 0x40
      + lowBits c) * 0x40 + lowBits d)) = [a, b, c, d] := by
  obtain ⟨hb, hlong, hlast⟩ := secondOfFour_iff.1 hb
  unfold utf8Char
  rw [lowBits_of_isTail hb, lowBits_of_isTail hc, lowBits_of_isTail hd,
    toNat_ofNat_of_valid (by omega)]
  simp only
  rw [if_neg (by omega), if_neg (by omega), if_neg (by omega),
    toUInt8_eq a (by omega), toUInt8_eq b (by omega),
    toUInt8_eq c (by omega), toUInt8_eq d (by omega)]

theorem decode_two_ok (ha : 0xC2 ≤ a.toNat ∧ a.toNat < 0xE0)
    (h : decodeUtf8From position done (a :: rest) = .ok cs) :
    ∃ b after char, rest = b :: after ∧ utf8Char char = [a, b]
      ∧ decodeUtf8From (position + 2) (char :: done) after = .ok cs := by
  have hone : ¬a < 0x80 := not_lt_byte (Nat.le_trans (by decide) ha.1)
  have hgap : ¬a < 0xC2 := not_lt_byte ha.1
  have htwo : a < 0xE0 := lt_byte ha.2
  rw [decodeUtf8From.eq_def] at h
  simp only [if_neg hone, if_neg hgap, if_pos htwo] at h
  split at h
  · cases h
  · next b after =>
    split at h
    · next hb =>
      have hchar := utf8Char_two ha (isContinuation_iff.1 hb)
      exact ⟨b, after, _, rfl, hchar, h⟩
    · cases h

theorem decode_three_ok (ha : 0xE0 ≤ a.toNat ∧ a.toNat < 0xF0)
    (h : decodeUtf8From position done (a :: rest) = .ok cs) :
    ∃ b c after char, rest = b :: c :: after
      ∧ utf8Char char = [a, b, c]
      ∧ decodeUtf8From (position + 3) (char :: done) after = .ok cs := by
  have hone : ¬a < 0x80 := not_lt_byte (Nat.le_trans (by decide) ha.1)
  have hgap : ¬a < 0xC2 := not_lt_byte (Nat.le_trans (by decide) ha.1)
  have htwo : ¬a < 0xE0 := not_lt_byte ha.1
  have hthree : a < 0xF0 := lt_byte ha.2
  rw [decodeUtf8From.eq_def] at h
  simp only [if_neg hone, if_neg hgap, if_neg htwo, if_pos hthree] at h
  split at h
  · cases h
  · split at h <;> cases h
  · next b c after =>
    by_cases hgood : secondOfThree a b = true ∧ isContinuation c = true
    · obtain ⟨hb, hc⟩ := hgood
      simp only [hb, hc, Bool.not_true, Bool.false_eq_true, if_false] at h
      have hchar := utf8Char_three ha hb (isContinuation_iff.1 hc)
      exact ⟨b, c, after, _, rfl, hchar, h⟩
    · cases hb : secondOfThree a b <;> simp_all

theorem decode_four_ok (ha : 0xF0 ≤ a.toNat ∧ a.toNat < 0xF5)
    (h : decodeUtf8From position done (a :: rest) = .ok cs) :
    ∃ b c d after char, rest = b :: c :: d :: after
      ∧ utf8Char char = [a, b, c, d]
      ∧ decodeUtf8From (position + 4) (char :: done) after = .ok cs := by
  have hone : ¬a < 0x80 := not_lt_byte (Nat.le_trans (by decide) ha.1)
  have hgap : ¬a < 0xC2 := not_lt_byte (Nat.le_trans (by decide) ha.1)
  have htwo : ¬a < 0xE0 := not_lt_byte (Nat.le_trans (by decide) ha.1)
  have hthree : ¬a < 0xF0 := not_lt_byte ha.1
  have hfour : a < 0xF5 := lt_byte ha.2
  rw [decodeUtf8From.eq_def] at h
  simp only [if_neg hone, if_neg hgap, if_neg htwo, if_neg hthree,
    if_pos hfour] at h
  split at h
  · cases h
  · split at h <;> cases h
  · next b c =>
    cases hb : secondOfFour a b <;> cases hc : isContinuation c <;>
      simp [hb, hc] at h
  · next b c d after =>
    by_cases hgood : secondOfFour a b = true ∧ isContinuation c = true
        ∧ isContinuation d = true
    · obtain ⟨hb, hc, hd⟩ := hgood
      simp only [hb, hc, hd, Bool.not_true, Bool.false_eq_true, if_false]
        at h
      have hchar := utf8Char_four ha hb (isContinuation_iff.1 hc)
        (isContinuation_iff.1 hd)
      exact ⟨b, c, d, after, _, rfl, hchar, h⟩
    · cases hb : secondOfFour a b <;> cases hc : isContinuation c <;>
        simp_all

/-- No sequence begins with a byte between the widths or behind them. -/
theorem decode_badStart
    (ha : 0x80 ≤ a.toNat ∧ a.toNat < 0xC2 ∨ 0xF5 ≤ a.toNat) :
    decodeUtf8From position done (a :: rest)
      = .error ⟨position, a, 1, .startByte⟩ := by
  rw [decodeUtf8From.eq_def]
  rcases ha with ⟨hone, hgap⟩ | hfive
  · have hone : ¬a < 0x80 := not_lt_byte hone
    have hgap : a < 0xC2 := lt_byte hgap
    simp only [if_neg hone, if_pos hgap]
  · have hone : ¬a < 0x80 := not_lt_byte (Nat.le_trans (by decide) hfive)
    have hgap : ¬a < 0xC2 := not_lt_byte (Nat.le_trans (by decide) hfive)
    have htwo : ¬a < 0xE0 := not_lt_byte (Nat.le_trans (by decide) hfive)
    have hthree : ¬a < 0xF0 := not_lt_byte (Nat.le_trans (by decide) hfive)
    have hfour : ¬a < 0xF5 := not_lt_byte hfive
    simp only [if_neg hone, if_neg hgap, if_neg htwo, if_neg hthree,
      if_neg hfour]

/-- Bytes that are decoded begin with those of a character. -/
theorem decodeUtf8From_cons_ok
    (h : decodeUtf8From position done (a :: rest) = .ok cs) :
    ∃ char after next, a :: rest = utf8Char char ++ after
      ∧ decodeUtf8From next (char :: done) after = .ok cs := by
  by_cases hone : a.toNat < 0x80
  · rw [decode_one hone] at h
    exact ⟨_, rest, _, by rw [utf8Char_one hone]; rfl, h⟩
  by_cases hbad : a.toNat < 0xC2 ∨ 0xF5 ≤ a.toNat
  · rw [decode_badStart (by omega)] at h
    cases h
  by_cases htwo : a.toNat < 0xE0
  · obtain ⟨b, after, char, rfl, hchar, h⟩ :=
      decode_two_ok ⟨by omega, htwo⟩ h
    exact ⟨char, after, _, by rw [hchar]; rfl, h⟩
  by_cases hthree : a.toNat < 0xF0
  · obtain ⟨b, c, after, char, rfl, hchar, h⟩ :=
      decode_three_ok ⟨by omega, hthree⟩ h
    exact ⟨char, after, _, by rw [hchar]; rfl, h⟩
  · obtain ⟨b, c, d, after, char, rfl, hchar, h⟩ :=
      decode_four_ok ⟨by omega, by omega⟩ h
    exact ⟨char, after, _, by rw [hchar]; rfl, h⟩

/-- A pass that takes the code of one character after the other off the
front of what it decodes comes to the text that it was the code of. The
induction is on the length of the code, of which a character may take more
than one element. -/
theorem flatMap_of_pass {α : Type} {code : Char → List α}
    {P : List Char → List α → Prop}
    (hcode : ∀ char, 0 < (code char).length)
    (hnil : ∀ done, P done [] → cs = done.reverse)
    (hcons : ∀ done a rest, P done (a :: rest) →
      ∃ char after, a :: rest = code char ++ after
        ∧ P (char :: done) after)
    {coded : List α} (h : P done coded) :
    ∃ more, cs = done.reverse ++ more ∧ coded = more.flatMap code := by
  induction hn : coded.length using Nat.strongRecOn
    generalizing done coded with
  | ind n ih =>
      cases coded with
      | nil =>
          exact ⟨[], by rw [List.append_nil, hnil done h], rfl⟩
      | cons a rest =>
          obtain ⟨char, after, hcoded, hafter⟩ := hcons done a rest h
          have hshort : after.length < n := by
            have hwidth := hcode char
            rw [← hn, hcoded, List.length_append]
            omega
          obtain ⟨more, hcs, rfl⟩ := ih _ hshort hafter rfl
          refine ⟨char :: more, ?_, ?_⟩
          · rw [hcs, List.reverse_cons, List.append_assoc]
            rfl
          · rw [hcoded, List.flatMap_cons]

/-- Bytes are decoded to a text just when they are the bytes of its
characters. -/
theorem decodeUtf8_eq_ok_iff :
    decodeUtf8 bytes = .ok cs ↔ bytes = cs.flatMap utf8Char := by
  constructor
  · intro h
    have hcons : ∀ (done : List Char) (a : UInt8) (rest : List UInt8),
        (∃ position, decodeUtf8From position done (a :: rest) = .ok cs) →
          ∃ char after, a :: rest = utf8Char char ++ after
            ∧ ∃ position,
              decodeUtf8From position (char :: done) after = .ok cs := by
      intro done a rest hpass
      obtain ⟨position, hdecode⟩ := hpass
      obtain ⟨char, after, next, hsplit, hafter⟩ :=
        decodeUtf8From_cons_ok hdecode
      exact ⟨char, after, hsplit, next, hafter⟩
    obtain ⟨more, hcs, hbytes⟩ := flatMap_of_pass
      (P := fun done rest =>
        ∃ position, decodeUtf8From position done rest = .ok cs)
      length_utf8Char_pos
      (fun done ⟨_, hdone⟩ => (Except.ok.inj hdone).symm) hcons ⟨0, h⟩
    rw [hbytes, hcs]
    rfl
  · rintro rfl
    exact decodeUtf8From_flatMap cs

end Storyline.Text
