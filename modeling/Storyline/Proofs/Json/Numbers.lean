/-
Numbers that are written read back. A whole number stands as its digits; a
double stands as its shortest decimal in one of five layouts, each of
which shows a point or an exponent. Either way the word, cut into its
parts again (`written?`), gives the number.

* digits read as the number they spell (`asciiNumber_natChars`), also with
  zeros behind or in front of them;
* a word put together from its parts is cut into these parts
  (`written?_chars`);
* every layout is such a word, and its parts say the decimal that it was
  made from (`exists_spells`).

Main statements: `word?_intChars` and `word?_finiteChars`.
-/
import Mathlib.Data.List.TakeWhile
import Storyline.Json.Scalar
import Storyline.Json.Writer
import Storyline.Proofs.Double.Shortest
import Storyline.Proofs.Numeral

namespace Storyline

-- ============================================================= digits

namespace Json

open Numeral (natChars intChars digits ofDigits)

/-- The character of a digit, and back. -/
theorem digitChar_spec :
    ∀ d < 10, isAsciiDigit (Char.ofNat (48 + d)) = true
      ∧ (Char.ofNat (48 + d)).toNat - 48 = d
      ∧ (Char.ofNat (48 + d) = '0' → d = 0) := by
  decide

theorem isAsciiDigit_of_mem_natChars {n : Nat} {c : Char}
    (h : c ∈ natChars n) : isAsciiDigit c = true := by
  obtain ⟨d, hd, rfl⟩ := List.mem_map.1 h
  exact (digitChar_spec d (Numeral.digits_lt n d hd)).1

theorem asciiNumber_natChars (n : Nat) : asciiNumber (natChars n) = n := by
  unfold asciiNumber natChars
  rw [List.map_map]
  conv => rhs; rw [← Numeral.ofDigits_digits n]
  congr 1
  conv => rhs; rw [← List.map_id (digits n)]
  exact List.map_congr_left fun d hd =>
    (digitChar_spec d (Numeral.digits_lt n d hd)).2.1

theorem asciiNumber_append_zeros (cs : List Char) (k : Nat) :
    asciiNumber (cs ++ Double.zeros k) = asciiNumber cs * 10 ^ k := by
  induction k with
  | zero => simp [Double.zeros]
  | succ k ih =>
      have hzeros : Double.zeros (k + 1) = Double.zeros k ++ ['0'] :=
        List.replicate_succ'
      unfold asciiNumber at ih ⊢
      rw [hzeros, ← List.append_assoc, List.map_append, List.map_singleton,
        Numeral.ofDigits_append_single, ih, Nat.pow_succ]
      simp only [Char.reduceToNat]
      ring

theorem asciiNumber_zeros_append (k : Nat) (cs : List Char) :
    asciiNumber (Double.zeros k ++ cs) = asciiNumber cs := by
  induction k with
  | zero => rfl
  | succ k ih => exact ih

/-- Digits without a zero in front can begin a number. -/
theorem isWholePart_of_digits {cs : List Char} (hne : cs ≠ [])
    (hdigits : ∀ c ∈ cs, isAsciiDigit c = true)
    (hhead : cs.head? ≠ some '0') : isWholePart cs = true := by
  unfold isWholePart
  split
  · exact absurd rfl hne
  · rfl
  · next first rest _ =>
      have hfirst : first ≠ '0' := by simpa using hhead
      simp only [List.forall_mem_cons] at hdigits
      simp [hfirst, hdigits.1, List.all_eq_true.2 hdigits.2]

theorem head?_natChars_ne {n : Nat} (h : 0 < n) :
    (natChars n).head? ≠ some '0' := by
  unfold natChars
  rw [List.head?_map]
  intro hhead
  obtain ⟨d, hd, hchar⟩ := Option.map_eq_some_iff.1 hhead
  have hlt := Numeral.digits_lt n d (List.mem_of_head? hd)
  have := (digitChar_spec d hlt).2.2 hchar
  exact Numeral.head?_digits_ne h (this ▸ hd)

-- ============================================== words and their parts

/-- A sign in front of a number. -/
def signThen (negative : Bool) (body : List Char) : List Char :=
  if negative then '-' :: body else body

/-- The digits behind the point, with the point. -/
def pointThen : Option (List Char) → List Char → List Char
  | none, rest => rest
  | some digits, rest => '.' :: (digits ++ rest)

/-- A power of ten with its sign. -/
def powerChars : Option (Bool × List Char) → List Char
  | none => []
  | some (negative, digits) => 'e' :: (if negative then '-' else '+') :: digits

/-- A number put together from its parts. -/
def Written.chars (w : Written) : List Char :=
  signThen w.negative (w.whole ++ pointThen w.fraction (powerChars w.exponent))

/-- Parts that a number can have. -/
structure Written.Sound (w : Written) : Prop where
  whole : isWholePart w.whole = true
  wholeDigits : ∀ c ∈ w.whole, isAsciiDigit c = true
  fraction : ∀ digits, w.fraction = some digits →
    digits ≠ [] ∧ ∀ c ∈ digits, isAsciiDigit c = true
  exponent : ∀ negative digits, w.exponent = some (negative, digits) →
    digits ≠ [] ∧ ∀ c ∈ digits, isAsciiDigit c = true

theorem whole_ne_nil {cs : List Char} (h : isWholePart cs = true) :
    cs ≠ [] := by
  rintro rfl
  cases h

theorem cutMinus_signThen (negative : Bool) {body : List Char}
    (h : ∀ c ∈ body.head?, isAsciiDigit c = true) :
    cutMinus (signThen negative body) = (negative, body) := by
  cases negative with
  | true => rfl
  | false =>
      cases body with
      | nil => rfl
      | cons c rest =>
          have hc : c ≠ '-' := by
            rintro rfl
            exact absurd (h '-' rfl) (by decide)
          unfold signThen cutMinus
          simp only [Bool.false_eq_true, if_false]
          split
          · next hcs => exact absurd (List.cons.inj hcs).1 hc
          · rfl

/-- Reading digits stops where no digit follows. -/
theorem cut_digits {ds rest : List Char}
    (hdigits : ∀ c ∈ ds, isAsciiDigit c = true)
    (hrest : ∀ c ∈ rest.head?, isAsciiDigit c = false) :
    (ds ++ rest).takeWhile isAsciiDigit = ds
      ∧ (ds ++ rest).dropWhile isAsciiDigit = rest := by
  rw [List.takeWhile_append_of_pos hdigits,
    List.dropWhile_append_of_pos hdigits]
  cases rest with
  | nil => simp
  | cons c rest =>
      have := hrest c rfl
      simp [this]

theorem head?_powerChars (exponent : Option (Bool × List Char)) :
    ∀ c ∈ (powerChars exponent).head?, c = 'e' := by
  cases exponent with
  | none => simp [powerChars]
  | some power =>
      intro c hc
      exact (Option.some.inj hc).symm

theorem exponentPart_powerChars {exponent : Option (Bool × List Char)}
    (h : ∀ negative digits, exponent = some (negative, digits) →
      digits ≠ [] ∧ ∀ c ∈ digits, isAsciiDigit c = true) :
    exponentPart (powerChars exponent) = some exponent := by
  cases exponent with
  | none => rfl
  | some power =>
      obtain ⟨negative, digits⟩ := power
      obtain ⟨hne, hdigits⟩ := h negative digits rfl
      have hsplit : Numeral.splitSign
          ((if negative then '-' else '+') :: digits)
            = (negative, digits) := by
        cases negative <;> rfl
      unfold powerChars exponentPart
      simp [hsplit, hne, List.all_eq_true.2 hdigits]

theorem cutFraction_pointThen {fraction : Option (List Char)}
    (h : ∀ digits, fraction = some digits →
      digits ≠ [] ∧ ∀ c ∈ digits, isAsciiDigit c = true)
    (exponent : Option (Bool × List Char)) :
    cutFraction (pointThen fraction (powerChars exponent))
      = some (fraction, powerChars exponent) := by
  have hpower : ∀ c ∈ (powerChars exponent).head?,
      isAsciiDigit c = false := by
    intro c hc
    rw [head?_powerChars exponent c hc]
    decide
  cases fraction with
  | none =>
      show cutFraction (powerChars exponent) = _
      unfold cutFraction
      split
      · next rest hcs =>
          have := head?_powerChars exponent '.' (by rw [hcs]; rfl)
          exact absurd this (by decide)
      · rfl
  | some digits =>
      obtain ⟨hne, hdigits⟩ := h digits rfl
      obtain ⟨htake, hdrop⟩ := cut_digits hdigits hpower
      unfold pointThen cutFraction
      simp [htake, hdrop, hne]

theorem head?_pointThen (fraction : Option (List Char))
    (exponent : Option (Bool × List Char)) :
    ∀ c ∈ (pointThen fraction (powerChars exponent)).head?,
      isAsciiDigit c = false := by
  cases fraction with
  | none =>
      intro c hc
      rw [head?_powerChars exponent c hc]
      decide
  | some digits =>
      intro c hc
      rw [← Option.some.inj hc]
      decide

/-- A number is cut into the parts that it was put together from. -/
theorem written?_chars {w : Written} (h : w.Sound) :
    written? w.chars = some w := by
  obtain ⟨htake, hdrop⟩ :=
    cut_digits h.wholeDigits (head?_pointThen w.fraction w.exponent)
  have hhead : ∀ c ∈ (w.whole ++ pointThen w.fraction
      (powerChars w.exponent)).head?, isAsciiDigit c = true := by
    intro c hc
    rw [List.head?_append_of_ne_nil _ (whole_ne_nil h.whole)] at hc
    exact h.wholeDigits c (List.mem_of_head? hc)
  unfold written? Written.chars
  rw [cutMinus_signThen w.negative hhead]
  simp [htake, hdrop, h.whole, cutFraction_pointThen h.fraction,
    exponentPart_powerChars h.exponent]

-- ============================================================= words

theorem written?_constants :
    ∀ constant ∈ constants, (written? constant.1.toList).isNone = true := by
  decide

/-- A number is none of the words that stand for themselves. -/
theorem word?_of_written {tolerance : Tolerance} {cs : List Char}
    {w : Written} (h : written? cs = some w) :
    word? tolerance cs = w.value? tolerance := by
  have hnone : constants.lookup (String.ofList cs) = none := by
    rw [List.lookup_eq_none_iff]
    intro constant hconstant
    rw [bne_iff_ne]
    intro heq
    have := written?_constants constant hconstant
    rw [← heq, String.toList_ofList, h] at this
    cases this
  unfold word?
  rw [hnone, h]
  rfl

/-- The parts of a whole number. -/
def wholeParts (z : Int) : Written :=
  ⟨z < 0, natChars z.natAbs, none, none⟩

theorem wholePart_natChars (n : Nat) : isWholePart (natChars n) = true := by
  rcases Nat.eq_zero_or_pos n with rfl | h
  · decide +kernel
  · exact isWholePart_of_digits (Numeral.natChars_ne_nil n)
      (fun _ => isAsciiDigit_of_mem_natChars) (head?_natChars_ne h)

theorem sound_wholeParts (z : Int) : (wholeParts z).Sound where
  whole := wholePart_natChars _
  wholeDigits := fun _ => isAsciiDigit_of_mem_natChars
  fraction := fun _ h => nomatch h
  exponent := fun _ _ h => nomatch h

theorem chars_wholeParts (z : Int) : (wholeParts z).chars = intChars z := by
  unfold wholeParts Written.chars pointThen powerChars
  rw [List.append_nil]
  cases z with
  | ofNat n => rfl
  | negSucc n => simp [signThen, intChars]

/-- A whole number with not too many digits reads back. -/
theorem word?_intChars (tolerance : Tolerance) {z : Int}
    (h : (natChars z.natAbs).length ≤ numberLimit) :
    word? tolerance (intChars z) = some (.integer z) := by
  rw [← chars_wholeParts,
    word?_of_written (written?_chars (sound_wholeParts z))]
  unfold Written.value?
  have hshort : ¬ numberLimit < (wholeParts z).whole.length := Nat.not_lt.2 h
  have hwhole : (wholeParts z).isWhole = true := rfl
  simp only [hshort, hwhole, decide_false, Bool.false_and, Bool.false_eq_true,
    if_false, if_true]
  unfold wholeParts
  rw [asciiNumber_natChars, Numeral.signed_natAbs]

-- ============================================================ layouts

open Double (Decimal zeros exponentChars)

theorem zeros_digits (k : Nat) : ∀ c ∈ zeros k, isAsciiDigit c = true := by
  intro c hc
  rw [List.eq_of_mem_replicate hc]
  decide

/-- A word that a decimal may be written as: its parts say a double, and
reading them gives what the decimal reads as. -/
structure Spells (d : Decimal) (negative : Bool) (w : Written) : Prop where
  sound : w.Sound
  isDouble : w.isWhole = false
  short : w.whole.length ≤ numberLimit
  reads : w.double = d.read negative

/-- The power of ten behind a decimal. -/
def powerOf (z : Int) : Bool × List Char := (z < 0, natChars z.natAbs)

theorem powerChars_powerOf (z : Int) :
    powerChars (some (powerOf z)) = 'e' :: exponentChars z := by
  unfold powerChars powerOf exponentChars
  cases z with
  | ofNat n => rfl
  | negSucc n => simp [intChars]

section Layouts

variable {d : Decimal} (negative : Bool)

/-- Digits, zeros, and a zero behind the point. -/
theorem spells_whole (hpositive : 0 < d.digits) (hexponent : 0 ≤ d.exponent)
    (hpoint : ((natChars d.digits).length : Int) + d.exponent ≤ 16) :
    Spells d negative ⟨negative, natChars d.digits ++ zeros d.exponent.toNat,
      some ['0'], none⟩ := by
  have hdigits : ∀ c ∈ natChars d.digits ++ zeros d.exponent.toNat,
      isAsciiDigit c = true := by
    intro c hc
    rcases List.mem_append.1 hc with hc | hc
    · exact isAsciiDigit_of_mem_natChars hc
    · exact zeros_digits _ c hc
  have hne : natChars d.digits ++ zeros d.exponent.toNat ≠ [] := by
    simp [Numeral.natChars_ne_nil]
  refine ⟨⟨?_, hdigits, ?_, by simp⟩, rfl, ?_, ?_⟩
  · apply isWholePart_of_digits hne hdigits
    rw [List.head?_append_of_ne_nil _ (Numeral.natChars_ne_nil _)]
    exact head?_natChars_ne hpositive
  · rintro digits h
    cases h
    exact ⟨List.cons_ne_nil _ _, List.all_eq_true.1 rfl⟩
  · simp only [List.length_append, zeros, List.length_replicate, numberLimit]
    omega
  · have hzeros : zeros d.exponent.toNat ++ ['0']
        = zeros (d.exponent.toNat + 1) := List.replicate_succ'.symm
    unfold Written.double
    simp only [Option.getD_some, List.append_assoc, hzeros,
      asciiNumber_append_zeros, asciiNumber_natChars]
    rw [Double.ofDecimal_shift_many]
    unfold Decimal.read
    congr 1
    simp only [List.length_singleton]
    omega

/-- The point among the digits. -/
theorem spells_pointed (hpositive : 0 < d.digits)
    (hlow : 0 < ((natChars d.digits).length : Int) + d.exponent)
    (hhigh : ((natChars d.digits).length : Int) + d.exponent ≤ 16)
    (hexponent : d.exponent < 0) :
    Spells d negative ⟨negative,
      (natChars d.digits).take
        ((natChars d.digits).length + d.exponent : Int).toNat,
      some ((natChars d.digits).drop
        ((natChars d.digits).length + d.exponent : Int).toNat), none⟩ := by
  generalize hk : ((natChars d.digits).length + d.exponent : Int).toNat = k
  have hkpos : 0 < k := by omega
  have hklt : k < (natChars d.digits).length := by omega
  have htake : ∀ c ∈ (natChars d.digits).take k, isAsciiDigit c = true :=
    fun c hc => isAsciiDigit_of_mem_natChars (List.mem_of_mem_take hc)
  refine ⟨⟨?_, htake, ?_, by simp⟩, rfl, ?_, ?_⟩
  · apply isWholePart_of_digits _ htake
    · rw [List.head?_take, if_neg hkpos.ne']
      exact head?_natChars_ne hpositive
    · simp [hkpos.ne', Numeral.natChars_ne_nil]
  · rintro digits h
    cases h
    refine ⟨by simpa using hklt, fun c hc => ?_⟩
    exact isAsciiDigit_of_mem_natChars (List.mem_of_mem_drop hc)
  · simp only [List.length_take, numberLimit]
    omega
  · unfold Written.double Decimal.read
    simp only [Option.getD_some, List.take_append_drop, asciiNumber_natChars,
      List.length_drop]
    congr 1
    omega

/-- Nothing but zeros in front of the digits. -/
theorem spells_small
    (hpoint : ((natChars d.digits).length : Int) + d.exponent ≤ 0) :
    Spells d negative ⟨negative, ['0'],
      some (zeros (-((natChars d.digits).length + d.exponent : Int)).toNat
        ++ natChars d.digits), none⟩ := by
  have hwhole : ∀ c ∈ ['0'], isAsciiDigit c = true :=
    List.all_eq_true.1 rfl
  refine ⟨⟨rfl, hwhole, ?_, by simp⟩, rfl, by simp [numberLimit], ?_⟩
  · rintro digits h
    cases h
    refine ⟨by simp [Numeral.natChars_ne_nil], fun c hc => ?_⟩
    rcases List.mem_append.1 hc with hc | hc
    · exact zeros_digits _ c hc
    · exact isAsciiDigit_of_mem_natChars hc
  · have hzero : asciiNumber (['0'] ++ (zeros
          (-((natChars d.digits).length + d.exponent : Int)).toNat
            ++ natChars d.digits)) = d.digits := by
      rw [← List.append_assoc]
      exact (asciiNumber_zeros_append (_ + 1) _).trans
        (asciiNumber_natChars _)
    unfold Written.double Decimal.read
    simp only [Option.getD_some, hzero, List.length_append]
    simp only [zeros, List.length_replicate]
    congr 1
    omega

/-- One digit, further digits behind the point, and a power of ten. -/
theorem spells_scientific (hpositive : 0 < d.digits) {lead : Char}
    {rest : List Char} (hdigits : natChars d.digits = lead :: rest) :
    Spells d negative ⟨negative, [lead],
      if rest = [] then none else some rest,
      some (powerOf ((natChars d.digits).length + d.exponent - 1))⟩ := by
  have hall : ∀ c ∈ lead :: rest, isAsciiDigit c = true :=
    fun c hc => isAsciiDigit_of_mem_natChars (hdigits ▸ hc)
  rw [List.forall_mem_cons] at hall
  have hlead : ∀ c ∈ [lead], isAsciiDigit c = true := by simpa using hall.1
  refine ⟨⟨?_, hlead, ?_, ?_⟩, ?_, by simp [numberLimit], ?_⟩
  · apply isWholePart_of_digits (List.cons_ne_nil _ _) hlead
    have := head?_natChars_ne hpositive
    rwa [hdigits] at this
  · intro digits h
    split at h
    · cases h
    · next hne =>
        cases h
        exact ⟨hne, hall.2⟩
  · intro negative digits h
    cases h
    exact ⟨Numeral.natChars_ne_nil _, fun _ => isAsciiDigit_of_mem_natChars⟩
  · simp [Written.isWhole]
  · have hfraction :
        (if rest = [] then none else some rest).getD [] = rest := by
      split
      · next hnil => exact hnil.symm
      · rfl
    have hnumber : asciiNumber ([lead] ++ rest) = d.digits := by
      rw [List.singleton_append, ← hdigits, asciiNumber_natChars]
    have hlength := congrArg List.length hdigits
    unfold Written.double Decimal.read powerOf
    simp only [hfraction, hnumber, asciiNumber_natChars, Numeral.signed_natAbs]
    congr 1
    rw [List.length_cons] at hlength
    omega

end Layouts

/-- Every decimal is written as a word that spells it. -/
theorem exists_spells {d : Decimal} (hpositive : 0 < d.digits)
    (negative : Bool) :
    ∃ w : Written, w.chars = signThen negative d.chars
      ∧ Spells d negative w := by
  unfold Decimal.chars
  simp only [Bool.and_eq_true, decide_eq_true_eq]
  split
  · next h =>
      refine ⟨_, ?_, spells_whole negative hpositive h.1 h.2⟩
      simp [Written.chars, pointThen, powerChars]
  · next h =>
      split
      · next hpoint =>
          refine ⟨_, ?_, spells_pointed negative hpositive hpoint.1 hpoint.2
            (by omega)⟩
          simp [Written.chars, pointThen, powerChars]
      · split
        · next hsmall =>
            refine ⟨_, ?_, spells_small negative hsmall.2⟩
            simp [Written.chars, pointThen, powerChars]
        · cases hdigits : natChars d.digits with
          | nil => exact absurd hdigits (Numeral.natChars_ne_nil _)
          | cons lead rest =>
              refine ⟨_, ?_, spells_scientific negative hpositive hdigits⟩
              rw [hdigits]
              unfold Written.chars
              cases rest with
              | nil => simp [pointThen, powerChars_powerOf]
              | cons next rest => simp [pointThen, powerChars_powerOf]

theorem value?_of_double {w : Written} (hdouble : w.isWhole = false)
    (hshort : w.whole.length ≤ numberLimit) (tolerance : Tolerance) :
    w.value? tolerance = some (.double w.double) := by
  unfold Written.value?
  simp [hdouble, Nat.not_lt.2 hshort]

/-- Zero has digits of its own, in front of the point and behind it. -/
theorem exists_written_zero (negative : Bool) :
    ∃ w : Written, w.Sound ∧ w.chars = signThen negative ['0', '.', '0']
      ∧ ∀ tolerance,
          w.value? tolerance = some (.double (Double.zero negative)) := by
  have hzero : ∀ c ∈ ['0'], isAsciiDigit c = true := List.all_eq_true.1 rfl
  refine ⟨⟨negative, ['0'], some ['0'], none⟩, ⟨rfl, hzero, ?_, by simp⟩,
    rfl, fun tolerance => ?_⟩
  · rintro digits h
    cases h
    exact ⟨List.cons_ne_nil _ _, hzero⟩
  · rw [value?_of_double rfl (by simp [numberLimit])]
    show some (Json.double (Double.ofDecimal negative
      (asciiNumber ['0', '0']) (0 - 1))) = _
    rw [show asciiNumber ['0', '0'] = 0 from rfl, Double.ofDecimal_zero]

/-- A double in normal form is written as a number with its value. -/
theorem exists_written_double {significand : Nat} {exponent : Int}
    (h : Double.Normal significand exponent) (negative : Bool) :
    ∃ w : Written, w.Sound
      ∧ w.chars = Double.finiteChars negative significand exponent
      ∧ ∀ tolerance, w.value? tolerance
          = some (.double (.finite negative significand exponent)) := by
  by_cases hzero : significand = 0
  · subst hzero
    have hleast := h.full.resolve_left (by decide)
    subst hleast
    exact exists_written_zero negative
  · have hpositive := Nat.pos_of_ne_zero hzero
    have hread := (Double.read_reduce negative _).trans
      (Double.read_shortest h hpositive negative)
    obtain ⟨w, hw, hspells⟩ := exists_spells
      (Double.digits_pos_of_read hpositive hread) negative
    refine ⟨w, hspells.sound, ?_, fun tolerance => ?_⟩
    · rw [hw]
      unfold Double.finiteChars
      simp only [if_neg hzero]
      rfl
    · rw [value?_of_double hspells.isDouble hspells.short, hspells.reads,
        hread]

/-- A double in normal form reads back. -/
theorem word?_finiteChars {significand : Nat} {exponent : Int}
    (h : Double.Normal significand exponent) (tolerance : Tolerance)
    (negative : Bool) :
    word? tolerance (Double.finiteChars negative significand exponent)
      = some (.double (.finite negative significand exponent)) := by
  obtain ⟨w, hsound, hw, hvalue⟩ := exists_written_double h negative
  rw [← hw, word?_of_written (written?_chars hsound), hvalue]

end Json

end Storyline
