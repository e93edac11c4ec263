/-
What rounding to a double depends on. `Double.ofQuotient` works with one
numerator and one denominator, but only the value of the quotient counts
(`rounded_congr`); and `Double.ofDecimal` works with digits and a
power of ten, but zeros may be moved from the one to the other
(`ofDecimal_shift`).

* the power of two is the one in which the value has 53 binary digits, or
  the least (`exponentFor_eq`), so it can be said by a logarithm;
* rounding a quotient to a whole number depends on its value only
  (`roundDiv_congr`);
* what comes out is in normal form (`Normal`), and a value that is a
  double in normal form comes out as it is (`rounded_exact`).

Consumed by the proof that the text of a double reads back.
-/
import Mathlib.Data.Int.Log
import Mathlib.Data.Rat.Floor
import Mathlib.Tactic.FieldSimp
import Mathlib.Tactic.Linarith
import Mathlib.Tactic.Positivity
import Storyline.Double

namespace Storyline.Double

variable {num den num' den' : Nat}

-- ============================================================ scaling

/-- A quotient scaled by a power of two has the value divided by it. -/
theorem scaleDown_spec (hden : 0 < den) (exponent : Int) :
    0 < (scaleDown num den exponent).2
      ∧ ((scaleDown num den exponent).1 : ℚ) / (scaleDown num den exponent).2
          = (num : ℚ) / den / 2 ^ exponent := by
  have hden' : (den : ℚ) ≠ 0 := by positivity
  cases exponent with
  | ofNat e =>
      unfold scaleDown
      simp only [Nat.pow_eq, Int.ofNat_eq_natCast, zpow_natCast]
      refine ⟨by positivity, ?_⟩
      push_cast
      field_simp
  | negSucc e =>
      unfold scaleDown
      simp only [Nat.pow_eq, zpow_negSucc]
      refine ⟨hden, ?_⟩
      push_cast
      field_simp

/-- Comparing the parts of a scaled quotient compares its value. -/
theorem scaleDown_lt_iff (hden : 0 < den) (exponent : Int) (k : Nat) :
    (scaleDown num den exponent).1 < 2 ^ k * (scaleDown num den exponent).2
      ↔ (num : ℚ) / den < 2 ^ (exponent + k) := by
  obtain ⟨hpositive, hvalue⟩ := @scaleDown_spec num den hden exponent
  have hd : (0 : ℚ) < (scaleDown num den exponent).2 := by
    exact_mod_cast hpositive
  have hpow : (0 : ℚ) < 2 ^ exponent := zpow_pos two_pos exponent
  rw [zpow_add₀ two_ne_zero, zpow_natCast, mul_comm ((2 : ℚ) ^ exponent),
    ← div_lt_iff₀ hpow, ← hvalue, div_lt_iff₀ hd]
  exact_mod_cast Iff.rfl

theorem lt_zpow_iff {q : ℚ} (hq : 0 < q) (z : Int) :
    q < 2 ^ z ↔ Int.log 2 q < z := by
  rw [← Int.lt_zpow_iff_log_lt Nat.one_lt_two hq, Nat.cast_two]

/-- A power of two below and above the value is its logarithm. -/
theorem log_eq {q : ℚ} (hq : 0 < q) {z : Int} (hle : (2 : ℚ) ^ z ≤ q)
    (hlt : q < 2 ^ (z + 1)) : Int.log 2 q = z := by
  rw [← not_lt, lt_zpow_iff hq] at hle
  rw [lt_zpow_iff hq] at hlt
  omega

/-- The logarithms of both parts give that of a quotient up to one. -/
theorem quotient_bounds (hnum : 0 < num) (hden : 0 < den) :
    (2 : ℚ) ^ ((num.log2 : Int) - den.log2 - 1) < (num : ℚ) / den
      ∧ (num : ℚ) / den < 2 ^ ((num.log2 : Int) - den.log2 + 1) := by
  have hdenQ : (0 : ℚ) < den := by exact_mod_cast hden
  have hnumle : (2 : ℚ) ^ num.log2 ≤ num := by
    exact_mod_cast Nat.log2_self_le hnum.ne'
  have hnumlt : (num : ℚ) < 2 ^ (num.log2 + 1) := by
    exact_mod_cast Nat.lt_log2_self
  have hdenle : (2 : ℚ) ^ den.log2 ≤ den := by
    exact_mod_cast Nat.log2_self_le hden.ne'
  have hdenlt : (den : ℚ) < 2 ^ (den.log2 + 1) := by
    exact_mod_cast Nat.lt_log2_self
  have hlow : (2 : ℚ) ^ ((num.log2 : Int) - den.log2 - 1)
      = 2 ^ num.log2 / 2 ^ (den.log2 + 1) := by
    rw [show (num.log2 : Int) - den.log2 - 1
      = (num.log2 : Int) - (den.log2 + 1 : Nat) by push_cast; ring,
      zpow_sub₀ two_ne_zero, zpow_natCast, zpow_natCast]
  have hhigh : (2 : ℚ) ^ ((num.log2 : Int) - den.log2 + 1)
      = 2 ^ (num.log2 + 1) / 2 ^ den.log2 := by
    rw [show (num.log2 : Int) - den.log2 + 1
      = ((num.log2 + 1 : Nat) : Int) - den.log2 by push_cast; ring,
      zpow_sub₀ two_ne_zero, zpow_natCast, zpow_natCast]
  rw [hlow, hhigh, div_lt_div_iff₀ (by positivity) hdenQ,
    div_lt_div_iff₀ hdenQ (by positivity)]
  constructor
  · calc (2 : ℚ) ^ num.log2 * den ≤ num * den := by gcongr
      _ < num * 2 ^ (den.log2 + 1) := by gcongr
  · calc (num : ℚ) * 2 ^ den.log2 ≤ num * den := by gcongr
      _ < 2 ^ (num.log2 + 1) * den := by gcongr

/-- The power of two for a positive quotient: its value has 53 binary
digits in front of the point, if that is not below the least. -/
theorem exponentFor_eq (hnum : 0 < num) (hden : 0 < den) :
    exponentFor num den
      = max leastExponent (Int.log 2 ((num : ℚ) / den) - 52) := by
  have hnumQ : (0 : ℚ) < num := by exact_mod_cast hnum
  have hdenQ : (0 : ℚ) < den := by exact_mod_cast hden
  have hquotient : (0 : ℚ) < (num : ℚ) / den := by positivity
  obtain ⟨hlow, hhigh⟩ := quotient_bounds hnum hden
  unfold exponentFor
  -- one comparison tells which of the two logarithms it is
  have htest := @scaleDown_lt_iff num den hden
    ((num.log2 : Int) - den.log2 - 52) 52
  rw [Nat.cast_ofNat, sub_add_cancel] at htest
  simp only [Nat.pow_eq]
  by_cases hsmall : (num : ℚ) / den < 2 ^ ((num.log2 : Int) - den.log2)
  · rw [if_pos (htest.2 hsmall), log_eq hquotient hlow.le (by
      rwa [sub_add_cancel])]
    congr 1
    ring
  · rw [if_neg (mt htest.1 hsmall),
      log_eq hquotient (not_lt.1 hsmall) hhigh]

-- =========================================================== rounding

/-- Rounding is between the two whole numbers around a quotient. -/
theorem div_le_roundDiv (num den : Nat) :
    num / den ≤ roundDiv num den ∧ roundDiv num den ≤ num / den + 1 := by
  unfold roundDiv
  simp only
  split <;> omega

/-- A whole number is rounded to itself. -/
theorem roundDiv_mul (n : Nat) (hden : 0 < den) :
    roundDiv (n * den) den = n := by
  unfold roundDiv
  rw [Nat.mul_div_cancel n hden, Nat.mul_mod_left]
  simp [hden]

/-- Rounding depends on the value of a quotient only. -/
theorem roundDiv_congr (hden : 0 < den) (hden' : 0 < den')
    (h : num * den' = num' * den) : roundDiv num den = roundDiv num' den' := by
  have hdiv : num / den = num' / den' := by
    rw [← Nat.mul_div_mul_right num den hden', h, Nat.mul_comm den den',
      Nat.mul_div_mul_right num' den' hden]
  have hmod : num % den * den' = num' % den' * den := by
    rw [← Nat.mul_mod_mul_right, h, Nat.mul_comm den den',
      Nat.mul_mod_mul_right]
  have hless : 2 * (num % den) < den ↔ 2 * (num' % den') < den' := by
    calc 2 * (num % den) < den
        ↔ 2 * (num % den) * den' < den * den' :=
          (Nat.mul_lt_mul_right hden').symm
      _ ↔ 2 * (num' % den') * den < den' * den := by
          rw [Nat.mul_assoc, hmod, ← Nat.mul_assoc, Nat.mul_comm den den']
      _ ↔ 2 * (num' % den') < den' := Nat.mul_lt_mul_right hden
  have hequal : 2 * (num % den) = den ↔ 2 * (num' % den') = den' := by
    calc 2 * (num % den) = den
        ↔ 2 * (num % den) * den' = den * den' :=
          (Nat.mul_left_inj hden'.ne').symm
      _ ↔ 2 * (num' % den') * den = den' * den := by
          rw [Nat.mul_assoc, hmod, ← Nat.mul_assoc, Nat.mul_comm den den']
      _ ↔ 2 * (num' % den') = den' := Nat.mul_left_inj hden.ne'
  unfold roundDiv
  simp only [hdiv, hless, beq_iff_eq, Bool.or_eq_true, decide_eq_true_eq,
    Bool.and_eq_true, hequal]

-- ======================================================= normal form

/-- The power of two of a finite double and its significand, which has 53
binary digits unless the power is the least. -/
structure Normal (significand : Nat) (exponent : Int) : Prop where
  significand_lt : significand < 2 ^ 53
  least_le : leastExponent ≤ exponent
  le_greatest : exponent ≤ greatestExponent
  full : 2 ^ 52 ≤ significand ∨ exponent = leastExponent

theorem normal_zero : Normal 0 leastExponent :=
  ⟨by decide, by decide, by decide, Or.inr rfl⟩

/-- The rounded value of a quotient, with its power of two. -/
def rounded (num den : Nat) : Nat × Int :=
  let exponent := exponentFor num den
  let (n, d) := scaleDown num den exponent
  carry (roundDiv n d) exponent

theorem rounded_eq (num den : Nat) :
    rounded num den
      = carry (roundDiv (scaleDown num den (exponentFor num den)).1
          (scaleDown num den (exponentFor num den)).2)
            (exponentFor num den) := by
  unfold rounded
  rfl

theorem ofQuotient_eq (negative : Bool) (num den : Nat) :
    ofQuotient negative num den
      = if greatestExponent < (rounded num den).2 then .infinite negative
        else .finite negative (rounded num den).1 (rounded num den).2 := by
  unfold ofQuotient rounded
  rfl

/-- The rounded value depends on the value of a quotient only. -/
theorem rounded_congr (hnum : 0 < num) (hden : 0 < den) (hnum' : 0 < num')
    (hden' : 0 < den') (h : (num : ℚ) / den = num' / den') :
    rounded num den = rounded num' den' := by
  have hexponent : exponentFor num den = exponentFor num' den' := by
    rw [exponentFor_eq hnum hden, exponentFor_eq hnum' hden', h]
  obtain ⟨hd, hscaled⟩ := @scaleDown_spec num den hden (exponentFor num den)
  obtain ⟨hd', hscaled'⟩ :=
    @scaleDown_spec num' den' hden' (exponentFor num den)
  have hround := roundDiv_congr hd hd' (by
    rw [← h, ← hscaled, div_eq_div_iff (by positivity) (by positivity)]
      at hscaled'
    exact_mod_cast hscaled'.symm)
  rw [rounded_eq, rounded_eq, ← hexponent, hround]

/-- A digit too many is there only when rounding has reached the next
power of two. -/
theorem carry_eq {significand : Nat} (h : significand ≤ 2 ^ 53)
    (exponent : Int) :
    carry significand exponent
      = if significand = 2 ^ 53 then (2 ^ 52, exponent + 1)
        else (significand, exponent) := by
  unfold carry
  by_cases htop : significand = 2 ^ 53
  · rw [if_pos htop, if_pos (by rw [htop, Nat.log2_two_pow]), htop,
      Nat.pow_succ, Nat.mul_div_cancel _ Nat.two_pos]
  · rw [if_neg htop, if_neg]
    intro hlog
    have hpositive : significand ≠ 0 := by
      rintro rfl
      cases hlog
    have := Nat.log2_self_le hpositive
    rw [hlog] at this
    omega

/-- Scaled for its power of two, a quotient has 53 binary digits in front
of the point, or fewer if the power is the least. -/
theorem scaleDown_exponentFor (hnum : 0 < num) (hden : 0 < den) :
    (scaleDown num den (exponentFor num den)).1
        < 2 ^ 53 * (scaleDown num den (exponentFor num den)).2
      ∧ (exponentFor num den = leastExponent
        ∨ 2 ^ 52 * (scaleDown num den (exponentFor num den)).2
            ≤ (scaleDown num den (exponentFor num den)).1) := by
  have hquotient : (0 : ℚ) < (num : ℚ) / den := by positivity
  have hexponent := exponentFor_eq hnum hden
  have htop := @scaleDown_lt_iff num den hden (exponentFor num den) 53
  have hlow := @scaleDown_lt_iff num den hden (exponentFor num den) 52
  rw [lt_zpow_iff hquotient] at htop hlow
  constructor
  · apply htop.2
    omega
  · by_cases hclamped : exponentFor num den = leastExponent
    · exact Or.inl hclamped
    · refine Or.inr (not_lt.1 (mt hlow.1 ?_))
      omega

/-- Rounding a quotient gives a significand and a power of two in normal
form, unless the power is too large. -/
theorem normal_rounded (hnum : 0 < num) (hden : 0 < den)
    (hle : (rounded num den).2 ≤ greatestExponent) :
    Normal (rounded num den).1 (rounded num den).2 := by
  have hleast : leastExponent ≤ exponentFor num den := by
    rw [exponentFor_eq hnum hden]
    exact le_max_left _ _
  obtain ⟨htop, hfull⟩ := scaleDown_exponentFor hnum hden
  obtain ⟨hd, -⟩ := @scaleDown_spec num den hden (exponentFor num den)
  rw [rounded_eq] at hle ⊢
  generalize scaleDown num den (exponentFor num den) = scaled
    at htop hfull hd hle
  generalize exponentFor num den = exponent at *
  obtain ⟨n, d⟩ := scaled
  simp only at htop hfull hd hle ⊢
  obtain ⟨hfloor, hceil⟩ := div_le_roundDiv n d
  have hdiv : n / d < 2 ^ 53 := Nat.div_lt_of_lt_mul (by rwa [mul_comm])
  rw [carry_eq (by omega)] at hle ⊢
  by_cases hcarried : roundDiv n d = 2 ^ 53
  · rw [if_pos hcarried] at hle ⊢
    refine ⟨by simp only; omega, ?_, hle, Or.inl (Nat.le_refl _)⟩
    simp only
    omega
  · rw [if_neg hcarried] at hle ⊢
    refine ⟨by simp only; omega, hleast, hle, ?_⟩
    rcases hfull with hclamped | hfull
    · exact Or.inr hclamped
    · have := (Nat.le_div_iff_mul_le hd).2 hfull
      exact Or.inl (this.trans hfloor)

/-- The logarithm of a value in normal form. -/
theorem log_normal {significand : Nat} {exponent : Int}
    (h : 0 < significand) :
    Int.log 2 ((significand : ℚ) * 2 ^ exponent)
      = (significand.log2 : Int) + exponent := by
  have hpow : (0 : ℚ) < 2 ^ exponent := zpow_pos two_pos exponent
  have hle : (2 : ℚ) ^ significand.log2 ≤ significand := by
    exact_mod_cast Nat.log2_self_le h.ne'
  have hlt : (significand : ℚ) < 2 ^ (significand.log2 + 1) := by
    exact_mod_cast Nat.lt_log2_self
  apply log_eq (by positivity)
  · rw [zpow_add₀ two_ne_zero, zpow_natCast]
    gcongr
  · rw [add_right_comm, zpow_add₀ two_ne_zero, ← Nat.cast_succ, zpow_natCast]
    gcongr

/-- A value in normal form is rounded to itself. -/
theorem rounded_exact {significand : Nat} {exponent : Int}
    (h : Normal significand exponent) (hpositive : 0 < significand)
    (hnum : 0 < num) (hden : 0 < den)
    (hvalue : (num : ℚ) / den = significand * 2 ^ exponent) :
    rounded num den = (significand, exponent) := by
  have hexponent : exponentFor num den = exponent := by
    have hlog : significand.log2 < 53 :=
      (Nat.log2_lt hpositive.ne').2 h.significand_lt
    have hleast := h.least_le
    rw [exponentFor_eq hnum hden, hvalue, log_normal hpositive]
    rcases h.full with hfull | hclamped
    · have := (Nat.le_log2 hpositive.ne').2 hfull
      omega
    · omega
  obtain ⟨hd, hscaled⟩ := @scaleDown_spec num den hden exponent
  have hexact : (scaleDown num den exponent).1
      = significand * (scaleDown num den exponent).2 := by
    rw [hvalue, mul_div_cancel_right₀ _ (zpow_ne_zero _ two_ne_zero),
      div_eq_iff (by positivity)] at hscaled
    exact_mod_cast hscaled
  rw [rounded_eq, hexponent, hexact, roundDiv_mul _ hd,
    carry_eq h.significand_lt.le, if_neg h.significand_lt.ne]

-- ============================================================ decimals

/-- The value of a decimal as a quotient. -/
def decimalQuotient (digits : Nat) (exponent : Int) : Nat × Nat :=
  match exponent with
  | .ofNat e => (digits * 10 ^ e, 1)
  | .negSucc e => (digits, 10 ^ (e + 1))

theorem decimalQuotient_spec {digits : Nat} (hdigits : 0 < digits)
    (exponent : Int) :
    0 < (decimalQuotient digits exponent).1
      ∧ 0 < (decimalQuotient digits exponent).2
      ∧ ((decimalQuotient digits exponent).1 : ℚ)
          / (decimalQuotient digits exponent).2 = digits * 10 ^ exponent := by
  cases exponent with
  | ofNat e =>
      unfold decimalQuotient
      simp only [Int.ofNat_eq_natCast, zpow_natCast]
      refine ⟨by positivity, by positivity, ?_⟩
      push_cast
      field_simp
  | negSucc e =>
      unfold decimalQuotient
      simp only [zpow_negSucc]
      refine ⟨by positivity, by positivity, ?_⟩
      push_cast
      field_simp

theorem decimalWidth_eq (n : Nat) : decimalWidth n = Nat.log 10 n + 1 := by
  fun_induction decimalWidth n with
  | case1 n hsmall => rw [Nat.log_of_lt hsmall]
  | case2 n hlarge ih =>
      have : 0 < Nat.log 10 n := Nat.log_pos (by decide) (by omega)
      rw [ih, Nat.log_div_base]
      omega

/-- Where the leading digit of a decimal stands. -/
def topOf (digits : Nat) (exponent : Int) : Int :=
  (decimalWidth digits : Int) + exponent

/-- Between which powers of ten the value of a decimal is. -/
theorem topOf_bounds {digits : Nat} (hdigits : 0 < digits) (exponent : Int) :
    (10 : ℚ) ^ (topOf digits exponent - 1) ≤ digits * 10 ^ exponent
      ∧ (digits : ℚ) * 10 ^ exponent < 10 ^ topOf digits exponent := by
  have hpow : (0 : ℚ) < 10 ^ exponent := zpow_pos (by norm_num) exponent
  have hle : (10 : ℚ) ^ Nat.log 10 digits ≤ digits := by
    exact_mod_cast Nat.pow_log_le_self 10 hdigits.ne'
  have hlt : (digits : ℚ) < 10 ^ (Nat.log 10 digits + 1) := by
    exact_mod_cast Nat.lt_pow_succ_log_self (by decide) digits
  unfold topOf
  rw [decimalWidth_eq]
  constructor
  · rw [show ((Nat.log 10 digits + 1 : Nat) : Int) + exponent - 1
        = (Nat.log 10 digits : Int) + exponent by push_cast; ring,
      zpow_add₀ (by norm_num), zpow_natCast]
    gcongr
  · rw [zpow_add₀ (by norm_num), zpow_natCast]
    gcongr

theorem ofDecimal_eq (negative : Bool) (digits : Nat) (exponent : Int) :
    ofDecimal negative digits exponent
      = if digits = 0 ∨ topOf digits exponent < -330 then zero negative
        else if 320 < topOf digits exponent then .infinite negative
        else ofQuotient negative (decimalQuotient digits exponent).1
          (decimalQuotient digits exponent).2 := by
  unfold ofDecimal topOf decimalQuotient
  simp only [Bool.or_eq_true, decide_eq_true_eq, Nat.pow_eq]
  cases exponent <;> rfl

theorem ofDecimal_zero (negative : Bool) (exponent : Int) :
    ofDecimal negative 0 exponent = zero negative := by
  rw [ofDecimal_eq, if_pos (Or.inl rfl)]

/-- A zero at the end of the digits may be moved into the exponent. -/
theorem ofDecimal_shift (negative : Bool) (digits : Nat) (exponent : Int) :
    ofDecimal negative (digits * 10) exponent
      = ofDecimal negative digits (exponent + 1) := by
  rcases Nat.eq_zero_or_pos digits with rfl | hdigits
  · rw [Nat.zero_mul, ofDecimal_zero, ofDecimal_zero]
  · have htop : topOf (digits * 10) exponent
        = topOf digits (exponent + 1) := by
      unfold topOf
      rw [decimalWidth_eq, decimalWidth_eq,
        Nat.log_mul_base (by decide) hdigits.ne']
      omega
    obtain ⟨hnum, hden, hvalue⟩ :=
      decimalQuotient_spec (Nat.mul_pos hdigits (by decide : 0 < 10)) exponent
    obtain ⟨hnum', hden', hvalue'⟩ :=
      decimalQuotient_spec hdigits (exponent + 1)
    have hsame : rounded _ _ = rounded _ _ :=
      rounded_congr hnum hden hnum' hden' (by
        rw [hvalue, hvalue', zpow_add_one₀ (by norm_num)]
        push_cast
        ring)
    rw [ofDecimal_eq, ofDecimal_eq, htop, ofQuotient_eq, ofQuotient_eq,
      hsame]
    simp [hdigits.ne']

/-- Many zeros may be moved. -/
theorem ofDecimal_shift_many (negative : Bool) (digits n : Nat)
    (exponent : Int) :
    ofDecimal negative (digits * 10 ^ n) exponent
      = ofDecimal negative digits (exponent + n) := by
  induction n generalizing exponent with
  | zero => simp
  | succ n ih =>
      rw [Nat.pow_succ, ← Nat.mul_assoc, ofDecimal_shift, ih]
      congr 1
      push_cast
      ring

/-- The leading digit of a double in normal form stands in the range of
doubles. -/
theorem topOf_range {digits significand : Nat} {x exponent : Int}
    (h : Normal significand exponent) (hpositive : 0 < significand)
    (hdigits : 0 < digits)
    (hvalue : (digits : ℚ) * 10 ^ x = significand * 2 ^ exponent) :
    -330 ≤ topOf digits x ∧ topOf digits x ≤ 320 := by
  have hten : (1 : ℚ) < 10 := by norm_num
  obtain ⟨hlow, hhigh⟩ := topOf_bounds hdigits x
  rw [hvalue] at hlow hhigh
  constructor
  · have hleast : (2 : ℚ) ^ (-1074 : Int) ≤ significand * 2 ^ exponent := by
      calc (2 : ℚ) ^ (-1074 : Int) ≤ 2 ^ exponent :=
            zpow_le_zpow_right₀ one_le_two h.least_le
        _ ≤ significand * 2 ^ exponent :=
            le_mul_of_one_le_left (zpow_pos two_pos exponent).le
              (by exact_mod_cast hpositive)
    have hsmall : (10 : ℚ) ^ (-324 : Int) < 2 ^ (-1074 : Int) := by
      have : 2 ^ 1074 < 10 ^ 324 := by decide +kernel
      rw [zpow_neg, zpow_neg]
      apply inv_strictAnti₀ (zpow_pos two_pos _)
      exact_mod_cast this
    have := (zpow_lt_zpow_iff_right₀ hten).1
      (hsmall.trans_le (hleast.trans hhigh.le))
    omega
  · have hgreatest : (significand : ℚ) * 2 ^ exponent < 2 ^ (1024 : Int) := by
      calc (significand : ℚ) * 2 ^ exponent
          < 2 ^ 53 * 2 ^ exponent := by
            have hlt : (significand : ℚ) < 2 ^ 53 := by
              exact_mod_cast h.significand_lt
            have := zpow_pos (show (0 : ℚ) < 2 from two_pos) exponent
            gcongr
        _ ≤ 2 ^ 53 * 2 ^ greatestExponent := by
            have := zpow_le_zpow_right₀ (show (1 : ℚ) ≤ 2 from one_le_two)
              h.le_greatest
            gcongr
        _ = 2 ^ (1024 : Int) := by
            rw [← zpow_natCast (2 : ℚ) 53, ← zpow_add₀ two_ne_zero]
            rfl
    have hlarge : (2 : ℚ) ^ (1024 : Int) < 10 ^ (309 : Int) := by
      have : 2 ^ 1024 < 10 ^ 309 := by decide +kernel
      exact_mod_cast this
    have := (zpow_lt_zpow_iff_right₀ hten).1
      (hlow.trans_lt (hgreatest.trans hlarge))
    omega

/-- A decimal whose value is a double in normal form is that double. -/
theorem ofDecimal_exact (negative : Bool) {digits significand : Nat}
    {x exponent : Int} (h : Normal significand exponent)
    (hpositive : 0 < significand)
    (hvalue : (digits : ℚ) * 10 ^ x = significand * 2 ^ exponent) :
    ofDecimal negative digits x = .finite negative significand exponent := by
  have hdigits : 0 < digits := by
    rcases Nat.eq_zero_or_pos digits with rfl | hdigits
    · have : (0 : ℚ) < significand * 2 ^ exponent :=
        mul_pos (by exact_mod_cast hpositive) (zpow_pos two_pos exponent)
      rw [← hvalue] at this
      simp at this
    · exact hdigits
  obtain ⟨hlow, hhigh⟩ := topOf_range h hpositive hdigits hvalue
  obtain ⟨hnum, hden, hquotient⟩ := decimalQuotient_spec hdigits x
  rw [ofDecimal_eq, if_neg (by omega), if_neg (by omega), ofQuotient_eq,
    rounded_exact h hpositive hnum hden (hquotient.trans hvalue),
    if_neg (not_lt.2 h.le_greatest)]

/-- A finite double that is read is in normal form, and with another sign
it is read as the same double with that sign. -/
theorem ofDecimal_eq_finite {negative sign : Bool} {digits significand : Nat}
    {x exponent : Int}
    (h : ofDecimal negative digits x = .finite sign significand exponent) :
    sign = negative ∧ Normal significand exponent
      ∧ ∀ other,
          ofDecimal other digits x = .finite other significand exponent := by
  rw [ofDecimal_eq] at h
  simp only [ofDecimal_eq]
  by_cases hzero : digits = 0 ∨ topOf digits x < -330
  · rw [if_pos hzero] at h
    simp only [if_pos hzero]
    cases h
    exact ⟨rfl, normal_zero, fun _ => rfl⟩
  · rw [if_neg hzero] at h
    simp only [if_neg hzero]
    by_cases hlarge : 320 < topOf digits x
    · rw [if_pos hlarge] at h
      cases h
    · rw [if_neg hlarge, ofQuotient_eq] at h
      simp only [if_neg hlarge, ofQuotient_eq]
      obtain ⟨hnum, hden, -⟩ :=
        decimalQuotient_spec (Nat.pos_of_ne_zero fun h => hzero (Or.inl h)) x
      split at h
      · cases h
      · next hle =>
          cases h
          exact ⟨rfl, normal_rounded hnum hden (not_lt.1 hle),
            fun _ => if_neg hle⟩

end Storyline.Double
