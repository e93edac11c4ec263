/-
What the encodings of sheets stand for. Every decoder is written as a pass
over bytes that gives up somewhere; here each encoding is said the other
way round, by the bytes that it writes for a text (`Encoding.Writes`), and
decoding is shown to take back exactly that: bytes are decoded to a text
just when they are written for it, and are malformed when they are written
for none. The one exception is UTF-16 of either byte order, where a text
without a mark is recognised and yet not decoded (`Encoding.LacksMark`).

# What carries it

* single bytes: a decoder that looks at one byte after the other takes
  back what a table writes (`mapM_eq_some_iff`);
* UTF-8: `decodeUtf8_eq_ok_iff`, and the three forms of its mark;
* UTF-16: code units from bytes (`flatMap_of_codeUnits`) and characters
  from code units (`eq_flatMap_of_decodeUnits`), each with what is done
  already in front.

Main statements: `decode_eq_text_iff`, `decode_eq_unmarked_iff`.
-/
import Mathlib.Data.List.Forall2
import Mathlib.Data.List.Infix
import Storyline.Proofs.Steps
import Storyline.Proofs.Text.Utf8
import Storyline.Text.Encoding

namespace Storyline.Text

-- ===================================================== what is written

/-- The two bytes of a code unit. -/
def ByteOrder.bytes : ByteOrder → Nat → List UInt8
  | .little, unit => [(unit % 0x100).toUInt8, (unit / 0x100).toUInt8]
  | .big, unit => [(unit / 0x100).toUInt8, (unit % 0x100).toUInt8]

/-- The mark of a byte order. -/
def ByteOrder.mark : ByteOrder → List UInt8
  | .little => [0xFF, 0xFE]
  | .big => [0xFE, 0xFF]

/-- The code units of a character: its number, or a pair of surrogates. -/
def utf16Units (c : Char) : List Nat :=
  if c.toNat < 0x10000 then [c.toNat]
  else [0xD800 + (c.toNat - 0x10000) / 0x400,
    0xDC00 + (c.toNat - 0x10000) % 0x400]

/-- The bytes of a text in UTF-16 without a mark. -/
def utf16Bytes (order : ByteOrder) (cs : List Char) : List UInt8 :=
  (cs.flatMap utf16Units).flatMap order.bytes

/-- The mark that may stand in front of a text in UTF-8. -/
def utf8Mark : List UInt8 := [0xEF, 0xBB, 0xBF]

/-- An encoding writes a text as some bytes. -/
def Encoding.Writes (cs : List Char) (bytes : List UInt8) :
    Encoding → Prop
  | .utf8 => bytes = cs.flatMap utf8Char
  /- the text behind the mark, a text that does not begin with the mark, or
  no more than a piece of the mark -/
  | .utf8Marked =>
    bytes = utf8Mark ++ cs.flatMap utf8Char
      ∨ (bytes = cs.flatMap utf8Char ∧ ¬utf8Mark <+: bytes)
      ∨ (bytes <+: utf8Mark ∧ cs = [])
  | .ascii =>
    (∀ c ∈ cs, c.toNat < 0x80) ∧ bytes = cs.map (·.toNat.toUInt8)
  | .latin1 =>
    (∀ c ∈ cs, c.toNat < 0x100) ∧ bytes = cs.map (·.toNat.toUInt8)
  | .windows1252 => List.Forall₂ (windows1252Char? · = some ·) bytes cs
  /- nothing at all, or the text behind a mark in the order of the mark -/
  | .utf16 =>
    (bytes = [] ∧ cs = []) ∨ ∃ order, bytes = order.mark ++ utf16Bytes order cs
  | .utf16Little => bytes = utf16Bytes .little cs
  | .utf16Big => bytes = utf16Bytes .big cs

/-- A text in UTF-16 in the common byte order that has no mark. -/
def Encoding.LacksMark (bytes : List UInt8) (encoding : Encoding) : Prop :=
  encoding = .utf16 ∧ bytes ≠ [] ∧ (∀ order, ¬ByteOrder.mark order <+: bytes)
    ∧ ∃ cs, bytes = utf16Bytes .little cs

variable {order : ByteOrder} {bytes : List UInt8} {units : List Nat}
  {cs done : List Char}

-- ======================================================== single bytes

/-- A byte stands for a character with its number when the number is that
of a byte. -/
theorem ofNat_byte_iff {b : UInt8} {c : Char} :
    Char.ofNat b.toNat = c ↔ c.toNat < 0x100 ∧ b = c.toNat.toUInt8 := by
  constructor
  · rintro rfl
    have hlt := b.toNat_lt
    rw [toNat_ofNat_of_valid (Or.inl (by omega))]
    exact ⟨hlt, (toUInt8_eq b rfl).symm⟩
  · rintro ⟨hlt, rfl⟩
    rw [toNat_byte hlt, Char.ofNat_toNat]

/-- Bytes that stand for the characters with their numbers. -/
theorem forall₂_ofNat_iff {bound : Nat} (hbound : bound ≤ 0x100) :
    List.Forall₂ (fun (b : UInt8) c => b.toNat < bound
        ∧ Char.ofNat b.toNat = c) bytes cs
      ↔ (∀ c ∈ cs, c.toNat < bound) ∧ bytes = cs.map (·.toNat.toUInt8) := by
  have hbyte : ∀ (b : UInt8) (c : Char),
      (b.toNat < bound ∧ Char.ofNat b.toNat = c)
        ↔ c.toNat < bound ∧ b = c.toNat.toUInt8 := by
    intro b c
    rw [ofNat_byte_iff]
    constructor
    · rintro ⟨hlt, hc, rfl⟩
      rw [toNat_byte hc] at hlt
      exact ⟨hlt, rfl⟩
    · rintro ⟨hlt, rfl⟩
      have hc : c.toNat < 0x100 := by omega
      rw [toNat_byte hc]
      exact ⟨hlt, hc, rfl⟩
  simp only [hbyte]
  induction cs generalizing bytes with
  | nil => simp
  | cons c cs ih =>
      rw [List.forall₂_cons_right_iff, List.forall_mem_cons, List.map_cons]
      simp only [ih]
      constructor
      · rintro ⟨b, rest, ⟨hc, rfl⟩, ⟨hcs, rfl⟩, rfl⟩
        exact ⟨⟨hc, hcs⟩, rfl⟩
      · rintro ⟨⟨hc, hcs⟩, rfl⟩
        exact ⟨_, _, ⟨hc, rfl⟩, ⟨hcs, rfl⟩, rfl⟩

-- ============================================================== UTF-16

section Units

variable {a b : UInt8} {unit : Nat}

theorem ByteOrder.unit_lt (order : ByteOrder) (a b : UInt8) :
    order.unit a b < 0x10000 := by
  have ha := a.toNat_lt
  have hb := b.toNat_lt
  cases order with
  | little =>
      show a.toNat + 0x100 * b.toNat < 0x10000
      omega
  | big =>
      show 0x100 * a.toNat + b.toNat < 0x10000
      omega

/-- The two bytes that a code unit is made of are its bytes. -/
theorem ByteOrder.bytes_unit (order : ByteOrder) (a b : UInt8) :
    order.bytes (order.unit a b) = [a, b] := by
  have ha := a.toNat_lt
  have hb := b.toNat_lt
  cases order with
  | little =>
      simp only [ByteOrder.bytes, ByteOrder.unit]
      rw [toUInt8_eq a (by omega), toUInt8_eq b (by omega)]
  | big =>
      simp only [ByteOrder.bytes, ByteOrder.unit]
      rw [toUInt8_eq a (by omega), toUInt8_eq b (by omega)]

/-- A code unit is read off its two bytes. -/
theorem codeUnits_bytes (order : ByteOrder) (done : List Nat)
    (hunit : unit < 0x10000) (rest : List UInt8) :
    codeUnits order done (order.bytes unit ++ rest)
      = codeUnits order (unit :: done) rest := by
  have hlow := toNat_byte (show unit % 0x100 < 0x100 by omega)
  have hhigh := toNat_byte (show unit / 0x100 < 0x100 by omega)
  cases order with
  | little =>
      show codeUnits .little (ByteOrder.unit .little _ _ :: done) rest = _
      simp only [ByteOrder.unit]
      rw [hlow, hhigh, Nat.mod_add_div]
  | big =>
      show codeUnits .big (ByteOrder.unit .big _ _ :: done) rest = _
      simp only [ByteOrder.unit]
      rw [hlow, hhigh, Nat.div_add_mod]

theorem codeUnits_flatMap (hunits : ∀ unit ∈ units, unit < 0x10000) :
    ∀ done, codeUnits order done (units.flatMap order.bytes)
      = some (done.reverse ++ units) := by
  induction units with
  | nil =>
      intro done
      rw [List.flatMap_nil, List.append_nil]
      rfl
  | cons unit units ih =>
      intro done
      rw [List.forall_mem_cons] at hunits
      rw [List.flatMap_cons, codeUnits_bytes order done hunits.1,
        ih hunits.2, List.reverse_cons, List.append_assoc]
      rfl

/-- Code units that are read are those that the bytes are made of. -/
theorem flatMap_of_codeUnits {done : List Nat}
    (h : codeUnits order done bytes = some units) :
    ∃ more, units = done.reverse ++ more
      ∧ (∀ unit ∈ more, unit < 0x10000)
      ∧ bytes = more.flatMap order.bytes := by
  induction done, bytes using codeUnits.induct order with
  | case1 done =>
      cases h
      exact ⟨[], by rw [List.append_nil], nofun, rfl⟩
  | case2 done b => cases h
  | case3 done a b rest ih =>
      obtain ⟨more, rfl, hmore, rfl⟩ := ih h
      refine ⟨order.unit a b :: more, ?_, ?_, ?_⟩
      · rw [List.reverse_cons, List.append_assoc]
        rfl
      · exact List.forall_mem_cons.2 ⟨order.unit_lt a b, hmore⟩
      · rw [List.flatMap_cons, order.bytes_unit]
        rfl

end Units

theorem lt_of_mem_utf16Units {c : Char} :
    ∀ unit ∈ utf16Units c, unit < 0x10000 := by
  have hvalid : c.toNat < 0xD800
      ∨ 0xDFFF < c.toNat ∧ c.toNat < 0x110000 := c.valid
  intro unit hunit
  unfold utf16Units at hunit
  split at hunit
  · rw [List.mem_singleton] at hunit
    omega
  · rcases List.mem_cons.1 hunit with rfl | hunit
    · omega
    · rw [List.mem_singleton] at hunit
      omega

section Surrogates

variable {unit high low : Nat} {rest : List Nat}

/-- A code unit that is no surrogate is a character. -/
theorem decodeUnits_plain (hunit : unit < 0xD800 ∨ 0xE000 ≤ unit) :
    decodeUnits done (unit :: rest)
      = decodeUnits (Char.ofNat unit :: done) rest := by
  rw [decodeUnits.eq_def]
  simp only [← Bool.decide_and, decide_eq_true_eq]
  rw [if_neg (by omega), if_neg (by omega)]

/-- The two code units of a pair of surrogates are one character. -/
theorem decodeUnits_pair (hhigh : 0xD800 ≤ high ∧ high < 0xDC00)
    (hlow : 0xDC00 ≤ low ∧ low < 0xE000) :
    decodeUnits done (high :: low :: rest)
      = decodeUnits (Char.ofNat (0x10000 + (high - 0xD800) * 0x400
          + (low - 0xDC00)) :: done) rest := by
  rw [decodeUnits.eq_def]
  simp only [← Bool.decide_and, decide_eq_true_eq]
  rw [if_pos hhigh, if_pos hlow]

theorem utf16Units_plain (hunit : unit < 0xD800 ∨ 0xE000 ≤ unit)
    (hbound : unit < 0x10000) : utf16Units (Char.ofNat unit) = [unit] := by
  unfold utf16Units
  rw [toNat_ofNat_of_valid (by omega), if_pos hbound]

theorem utf16Units_pair (hhigh : 0xD800 ≤ high ∧ high < 0xDC00)
    (hlow : 0xDC00 ≤ low ∧ low < 0xE000) :
    utf16Units (Char.ofNat (0x10000 + (high - 0xD800) * 0x400
      + (low - 0xDC00))) = [high, low] := by
  unfold utf16Units
  rw [toNat_ofNat_of_valid (by omega), if_neg (by omega)]
  simp only [List.cons.injEq, and_true]
  omega

/-- The code units of a character are taken together. -/
theorem decodeUnits_utf16Units (c : Char) (rest : List Nat) :
    decodeUnits done (utf16Units c ++ rest)
      = decodeUnits (c :: done) rest := by
  have hvalid : c.toNat < 0xD800
      ∨ 0xDFFF < c.toNat ∧ c.toNat < 0x110000 := c.valid
  have hchar {n : Nat} (h : n = c.toNat) : Char.ofNat n = c := by
    rw [h, Char.ofNat_toNat]
  unfold utf16Units
  split
  · rw [List.singleton_append, decodeUnits_plain (by omega), hchar rfl]
  · rw [List.cons_append, List.singleton_append,
      decodeUnits_pair (by omega) (by omega), hchar (by omega)]

theorem decodeUnits_flatMap (cs : List Char) :
    ∀ done, decodeUnits done (cs.flatMap utf16Units)
      = some (done.reverse ++ cs) := by
  induction cs with
  | nil =>
      intro done
      rw [List.flatMap_nil, List.append_nil]
      rfl
  | cons c cs ih =>
      intro done
      rw [List.flatMap_cons, decodeUnits_utf16Units, ih, List.reverse_cons,
        List.append_assoc]
      rfl

/-- Code units that are decoded begin with those of a character. -/
theorem decodeUnits_cons_some (hbound : unit < 0x10000)
    (h : decodeUnits done (unit :: rest) = some cs) :
    ∃ c after, unit :: rest = utf16Units c ++ after
      ∧ decodeUnits (c :: done) after = some cs := by
  by_cases hplain : unit < 0xD800 ∨ 0xE000 ≤ unit
  · rw [decodeUnits_plain hplain] at h
    refine ⟨_, rest, ?_, h⟩
    rw [utf16Units_plain hplain hbound]
    rfl
  · rw [decodeUnits.eq_def] at h
    simp only [← Bool.decide_and, decide_eq_true_eq] at h
    by_cases hhigh : 0xD800 ≤ unit ∧ unit < 0xDC00
    · rw [if_pos hhigh] at h
      cases rest with
      | nil => cases h
      | cons low after =>
          by_cases hlow : 0xDC00 ≤ low ∧ low < 0xE000
          · simp only [if_pos hlow] at h
            refine ⟨_, after, ?_, h⟩
            rw [utf16Units_pair hhigh hlow]
            rfl
          · simp only [if_neg hlow] at h
            cases h
    · rw [if_neg hhigh, if_pos (by omega)] at h
      cases h

theorem length_utf16Units_pos (c : Char) : 0 < (utf16Units c).length := by
  unfold utf16Units
  split <;> exact Nat.zero_lt_succ _

/-- Characters that are decoded have the code units that they are decoded
from. -/
theorem eq_flatMap_of_decodeUnits (hunits : ∀ unit ∈ units, unit < 0x10000)
    (h : decodeUnits [] units = some cs) :
    units = cs.flatMap utf16Units := by
  have hcons : ∀ (done : List Char) (unit : Nat) (rest : List Nat),
      (∀ other ∈ unit :: rest, other < 0x10000)
          ∧ decodeUnits done (unit :: rest) = some cs →
        ∃ c after, unit :: rest = utf16Units c ++ after
          ∧ (∀ other ∈ after, other < 0x10000)
          ∧ decodeUnits (c :: done) after = some cs := by
    intro done unit rest hpass
    obtain ⟨hbounds, hdecode⟩ := hpass
    obtain ⟨c, after, hsplit, hafter⟩ :=
      decodeUnits_cons_some (hbounds unit List.mem_cons_self) hdecode
    refine ⟨c, after, hsplit, fun other hother => hbounds other ?_, hafter⟩
    rw [hsplit]
    exact List.mem_append_right _ hother
  obtain ⟨more, rfl, hmore⟩ := flatMap_of_pass
    (P := fun done units => (∀ other ∈ units, other < 0x10000)
      ∧ decodeUnits done units = some cs)
    length_utf16Units_pos
    (fun done hdone => (Option.some.inj hdone.2).symm) hcons ⟨hunits, h⟩
  exact hmore

end Surrogates

/-- Bytes are decoded to a text in a known byte order just when they are
the bytes of the code units of its characters. -/
theorem decodeUtf16_eq_some_iff :
    decodeUtf16 order bytes = some cs ↔ bytes = utf16Bytes order cs := by
  unfold decodeUtf16 utf16Bytes
  rw [Option.bind_eq_some_iff]
  constructor
  · rintro ⟨units, hunits, hcs⟩
    obtain ⟨more, hmore, hbound, rfl⟩ := flatMap_of_codeUnits hunits
    rw [List.reverse_nil, List.nil_append] at hmore
    subst hmore
    rw [eq_flatMap_of_decodeUnits hbound hcs]
  · rintro rfl
    have hbound : ∀ unit ∈ cs.flatMap utf16Units, unit < 0x10000 := by
      intro unit hunit
      obtain ⟨c, -, hc⟩ := List.mem_flatMap.1 hunit
      exact lt_of_mem_utf16Units unit hc
    exact ⟨_, codeUnits_flatMap hbound [], decodeUnits_flatMap cs []⟩

-- =========================================================== the marks

theorem Decoded.ofOption_eq_text_iff {value : Option (List Char)} :
    Decoded.ofOption value = .text cs ↔ value = some cs := by
  cases value <;> simp [Decoded.ofOption]

theorem Decoded.ofOption_ne_unmarked (value : Option (List Char)) :
    Decoded.ofOption value ≠ .unmarked := by
  cases value <;> exact nofun

theorem utf8Text?_eq_some_iff :
    utf8Text? bytes = some cs ↔ bytes = cs.flatMap utf8Char := by
  rw [← decodeUtf8_eq_ok_iff]
  unfold utf8Text?
  cases decodeUtf8 bytes <;> simp [Except.toOption]

/-- A piece of the mark is an empty text, although in UTF-8 it would be no
text at all, unless it is empty. -/
theorem decodeUtf8Marked_of_piece (h : bytes <+: utf8Mark) :
    decodeUtf8Marked bytes = some []
      ∧ (bytes ≠ utf8Mark → ∀ cs, utf8Text? bytes = some cs → cs = []) := by
  have hpieces : bytes ∈ utf8Mark.inits := (List.mem_inits _ _).2 h
  have hall : ∀ piece ∈ utf8Mark.inits, decodeUtf8Marked piece = some []
      ∧ (piece = [] ∨ piece = utf8Mark ∨ utf8Text? piece = none) := by
    decide +kernel
  obtain ⟨hempty, hplain⟩ := hall bytes hpieces
  refine ⟨hempty, fun hne cs hcs => ?_⟩
  rcases hplain with rfl | hmark | hnone
  · exact (Option.some.inj hcs).symm
  · exact absurd hmark hne
  · rw [hnone] at hcs
    cases hcs

/-- What does not begin with the mark and is no piece of it is a text. -/
theorem decodeUtf8Marked_of_plain (hpiece : ¬bytes <+: utf8Mark)
    (hmark : ¬utf8Mark <+: bytes) :
    decodeUtf8Marked bytes = utf8Text? bytes := by
  unfold decodeUtf8Marked
  split
  · exact absurd (by decide) hpiece
  · exact absurd (by decide) hpiece
  · exact absurd (by decide) hpiece
  · exact absurd ⟨_, rfl⟩ hmark
  · rfl

/-- UTF-8 behind an optional mark. -/
theorem decodeUtf8Marked_eq_some_iff :
    decodeUtf8Marked bytes = some cs
      ↔ Encoding.utf8Marked.Writes cs bytes := by
  unfold Encoding.Writes
  by_cases hmark : utf8Mark <+: bytes
  · obtain ⟨rest, rfl⟩ := hmark
    have hdecode : decodeUtf8Marked (utf8Mark ++ rest) = utf8Text? rest := rfl
    rw [hdecode, utf8Text?_eq_some_iff]
    constructor
    · rintro rfl
      exact Or.inl rfl
    · rintro (hsame | ⟨-, hplain⟩ | ⟨hpiece, rfl⟩)
      · exact List.append_cancel_left hsame
      · exact absurd ⟨rest, rfl⟩ hplain
      · have hlength := hpiece.length_le
        rw [List.length_append] at hlength
        exact List.length_eq_zero_iff.1 (by omega)
  · have hbehind : bytes ≠ utf8Mark ++ cs.flatMap utf8Char := by
      rintro rfl
      exact hmark ⟨_, rfl⟩
    by_cases hpiece : bytes <+: utf8Mark
    · obtain ⟨hempty, hplain⟩ := decodeUtf8Marked_of_piece hpiece
      rw [hempty]
      constructor
      · intro h
        exact Or.inr (Or.inr ⟨hpiece, (Option.some.inj h).symm⟩)
      · rintro (hsame | ⟨hbytes, -⟩ | ⟨-, rfl⟩)
        · exact absurd hsame hbehind
        · have hne : bytes ≠ utf8Mark := by
            rintro rfl
            exact hmark List.prefix_rfl
          rw [hplain hne cs (utf8Text?_eq_some_iff.2 hbytes)]
        · rfl
    · rw [decodeUtf8Marked_of_plain hpiece hmark, utf8Text?_eq_some_iff]
      constructor
      · intro hbytes
        exact Or.inr (Or.inl ⟨hbytes, hmark⟩)
      · rintro (hsame | ⟨hbytes, -⟩ | ⟨hother, -⟩)
        · exact absurd hsame hbehind
        · exact hbytes
        · exact absurd hother hpiece

/-- UTF-16 without a mark of either order, and not empty. -/
theorem decodeUtf16Marked_of_plain (hnonempty : bytes ≠ [])
    (hmark : ∀ order, ¬ByteOrder.mark order <+: bytes) :
    decodeUtf16Marked bytes
      = match decodeUtf16 .little bytes with
        | some _ => .unmarked
        | none => .malformed := by
  unfold decodeUtf16Marked
  split
  · exact absurd rfl hnonempty
  · exact absurd ⟨_, rfl⟩ (hmark .little)
  · exact absurd ⟨_, rfl⟩ (hmark .big)
  · rfl

/-- UTF-16 behind its mark. -/
theorem decodeUtf16Marked_mark (order : ByteOrder) (rest : List UInt8) :
    decodeUtf16Marked (order.mark ++ rest)
      = .ofOption (decodeUtf16 order rest) := by
  cases order <;> rfl

/-- A text in UTF-16 is empty, has one of the two marks, or neither. -/
theorem utf16_cases (bytes : List UInt8) :
    bytes = [] ∨ (∃ order rest, bytes = ByteOrder.mark order ++ rest)
      ∨ bytes ≠ [] ∧ ∀ order, ¬ByteOrder.mark order <+: bytes := by
  by_cases hempty : bytes = []
  · exact Or.inl hempty
  · by_cases hmark : ∃ order, ByteOrder.mark order <+: bytes
    · obtain ⟨order, rest, hrest⟩ := hmark
      exact Or.inr (Or.inl ⟨order, rest, hrest.symm⟩)
    · exact Or.inr (Or.inr ⟨hempty, not_exists.1 hmark⟩)

theorem ByteOrder.mark_append_ne_nil (order : ByteOrder)
    (rest : List UInt8) : order.mark ++ rest ≠ [] := by
  cases order <;> exact nofun

theorem ByteOrder.eq_of_mark_append {order other : ByteOrder}
    {rest after : List UInt8} (h : order.mark ++ rest = other.mark ++ after) :
    order = other ∧ rest = after := by
  cases order <;> cases other <;> simp_all [ByteOrder.mark]

/-- UTF-16 in the byte order of its mark. -/
theorem decodeUtf16Marked_eq_text_iff :
    decodeUtf16Marked bytes = .text cs ↔ Encoding.utf16.Writes cs bytes := by
  unfold Encoding.Writes
  rcases utf16_cases bytes with rfl | ⟨order, rest, rfl⟩ | ⟨hempty, hmark⟩
  · constructor
    · intro h
      cases h
      exact Or.inl ⟨rfl, rfl⟩
    · rintro (⟨-, rfl⟩ | ⟨order, h⟩)
      · rfl
      · exact absurd h (order.mark_append_ne_nil _).symm
  · rw [decodeUtf16Marked_mark, Decoded.ofOption_eq_text_iff,
      decodeUtf16_eq_some_iff]
    constructor
    · rintro rfl
      exact Or.inr ⟨order, rfl⟩
    · rintro (⟨h, -⟩ | ⟨other, h⟩)
      · exact absurd h (order.mark_append_ne_nil _)
      · obtain ⟨rfl, rfl⟩ := ByteOrder.eq_of_mark_append h
        rfl
  · rw [decodeUtf16Marked_of_plain hempty hmark]
    refine iff_of_false ?_ ?_
    · cases decodeUtf16 .little bytes <;> exact nofun
    · rintro (⟨h, -⟩ | ⟨order, h⟩)
      · exact hempty h
      · exact hmark order ⟨_, h.symm⟩

/-- Of UTF-16 that is neither empty nor marked it is looked whether it
would be a text in the common byte order. -/
theorem decodeUtf16Marked_eq_unmarked_iff :
    decodeUtf16Marked bytes = .unmarked ↔ Encoding.utf16.LacksMark bytes := by
  unfold Encoding.LacksMark
  rcases utf16_cases bytes with rfl | ⟨order, rest, rfl⟩ | ⟨hempty, hmark⟩
  · exact iff_of_false nofun fun h => h.2.1 rfl
  · rw [decodeUtf16Marked_mark]
    exact iff_of_false (Decoded.ofOption_ne_unmarked _)
      fun h => h.2.2.1 order ⟨rest, rfl⟩
  · rw [decodeUtf16Marked_of_plain hempty hmark]
    constructor
    · intro h
      cases hdecode : decodeUtf16 .little bytes with
      | none =>
          rw [hdecode] at h
          cases h
      | some cs =>
          exact ⟨rfl, hempty, hmark, cs, decodeUtf16_eq_some_iff.1 hdecode⟩
    · rintro ⟨-, -, -, cs, hcs⟩
      rw [decodeUtf16_eq_some_iff.2 hcs]

-- ========================================================= all of them

theorem asciiChar?_eq_some_iff {b : UInt8} {c : Char} :
    asciiChar? b = some c ↔ b.toNat < 0x80 ∧ Char.ofNat b.toNat = c := by
  unfold asciiChar?
  rw [Option.ite_none_right_eq_some, UInt8.lt_iff_toNat_lt, Option.some.injEq]
  rfl

/-- Only a text in UTF-16 of either byte order has to be marked. -/
theorem Encoding.decode_ne_unmarked {encoding : Encoding}
    (h : encoding ≠ .utf16) (bytes : List UInt8) :
    encoding.decode bytes ≠ .unmarked := by
  cases encoding with
  | utf16 => exact absurd rfl h
  | latin1 => exact nofun
  | utf8 | utf8Marked | ascii | windows1252 | utf16Little | utf16Big =>
      exact Decoded.ofOption_ne_unmarked _

/-- Bytes are decoded to a text just when the encoding writes them for
it. -/
theorem decode_eq_text_iff (encoding : Encoding) :
    encoding.decode bytes = .text cs ↔ encoding.Writes cs bytes := by
  cases encoding with
  | utf8 => exact Decoded.ofOption_eq_text_iff.trans utf8Text?_eq_some_iff
  | utf8Marked =>
      exact Decoded.ofOption_eq_text_iff.trans decodeUtf8Marked_eq_some_iff
  | ascii =>
      refine (Decoded.ofOption_eq_text_iff.trans mapM_eq_some_iff).trans ?_
      simp only [asciiChar?_eq_some_iff]
      exact forall₂_ofNat_iff (by decide)
  | latin1 =>
      have hmap : Encoding.latin1.decode bytes = .text cs
          ↔ List.Forall₂ (fun (b : UInt8) c => b.toNat < 0x100
              ∧ Char.ofNat b.toNat = c) bytes cs := by
        have hbyte : ∀ b : UInt8, b.toNat < 0x100 := UInt8.toNat_lt
        simp only [hbyte, true_and]
        rw [← List.forall₂_map_left_iff (R := (· = ·)), List.forall₂_eq_eq_eq]
        exact ⟨Decoded.text.inj, congrArg Decoded.text⟩
      exact hmap.trans (forall₂_ofNat_iff (Nat.le_refl _))
  | windows1252 =>
      exact Decoded.ofOption_eq_text_iff.trans mapM_eq_some_iff
  | utf16 => exact decodeUtf16Marked_eq_text_iff
  | utf16Little | utf16Big =>
      exact Decoded.ofOption_eq_text_iff.trans decodeUtf16_eq_some_iff

/-- Only a text in UTF-16 of either byte order can be recognised and not
decoded: when it has no mark. -/
theorem decode_eq_unmarked_iff (encoding : Encoding) :
    encoding.decode bytes = .unmarked ↔ encoding.LacksMark bytes := by
  by_cases hutf16 : encoding = .utf16
  · subst hutf16
    exact decodeUtf16Marked_eq_unmarked_iff
  · exact iff_of_false (Encoding.decode_ne_unmarked hutf16 bytes)
      fun h => hutf16 h.1

end Storyline.Text
