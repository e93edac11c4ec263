/-
The shortest decimal of a double reads back. Either it was found on one of
the decimal grids, where it was tried (`onGrid?`), or it is the exact
expansion, whose value is the double itself; and taking zeros off its end
does not change what it reads as.

Consumed by the proof that the text of a double reads back.
-/
import Storyline.Double.Shortest
import Storyline.Proofs.Double.Rounding

namespace Storyline.Double

/-- What a decimal reads as. -/
def Decimal.read (negative : Bool) (d : Decimal) : Double :=
  ofDecimal negative d.digits d.exponent

/-- A decimal that was tried with a plus reads back with any sign. -/
theorem read_of_readsBack {significand : Nat} {exponent : Int} {d : Decimal}
    (h : readsBack significand exponent d = true) (negative : Bool) :
    d.read negative = .finite negative significand exponent := by
  unfold readsBack at h
  exact (ofDecimal_eq_finite (beq_iff_eq.1 h)).2.2 negative

/-- What is found on a grid was tried. -/
theorem readsBack_of_onGrid? {significand : Nat} {exponent unit : Int}
    {d : Decimal} (h : onGrid? significand exponent unit = some d) :
    readsBack significand exponent d = true := by
  unfold onGrid? at h
  simp only at h
  split at h
  · next hlow hhigh =>
      cases h
      split
      · exact hlow
      · exact hhigh
  · next hlow _ =>
      cases h
      exact hlow
  · next _ hhigh =>
      cases h
      exact hhigh
  · cases h

/-- The exact expansion has the value of the double. -/
theorem exactDecimal_value (significand : Nat) (exponent : Int) :
    ((exactDecimal significand exponent).digits : ℚ)
        * 10 ^ (exactDecimal significand exponent).exponent
      = significand * 2 ^ exponent := by
  unfold exactDecimal
  cases exponent with
  | ofNat e => simp
  | negSucc e =>
      have hten : (10 : ℚ) ^ (e + 1) = 2 ^ (e + 1) * 5 ^ (e + 1) := by
        rw [← mul_pow]
        norm_num
      simp only [Nat.pow_eq, zpow_negSucc, Nat.cast_mul, Nat.cast_pow,
        Nat.cast_ofNat, hten]
      field_simp

/-- The shortest decimal of a positive double reads back. -/
theorem read_shortest {significand : Nat} {exponent : Int}
    (h : Normal significand exponent) (hpositive : 0 < significand)
    (negative : Bool) :
    (shortest significand exponent).read negative
      = .finite negative significand exponent := by
  unfold shortest
  simp only
  generalize hfound : (List.range 17).findSome? _ = found
  cases found with
  | none =>
      exact ofDecimal_exact negative h hpositive
        (exactDecimal_value significand exponent)
  | some d =>
      obtain ⟨k, -, hgrid⟩ := List.exists_of_findSome?_eq_some hfound
      exact read_of_readsBack (readsBack_of_onGrid? hgrid) negative

/-- Zeros at the end do not matter. -/
theorem read_reduce (negative : Bool) (d : Decimal) :
    d.reduce.read negative = d.read negative := by
  fun_induction Decimal.reduce d with
  | case1 d h ih =>
      have hdigits : d.digits / 10 * 10 = d.digits := by omega
      rw [ih]
      unfold Decimal.read
      rw [← ofDecimal_shift, hdigits]
  | case2 d h => rfl

theorem digits_pos_of_read {negative : Bool} {d : Decimal}
    {significand : Nat} {exponent : Int} (hpositive : 0 < significand)
    (h : d.read negative = .finite negative significand exponent) :
    0 < d.digits := by
  rcases Nat.eq_zero_or_pos d.digits with hzero | hdigits
  · unfold Decimal.read at h
    rw [hzero, ofDecimal_zero] at h
    cases h
    omega
  · exact hdigits

end Storyline.Double
