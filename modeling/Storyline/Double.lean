/-
Double precision numbers as exact values: a sign, a significand below
2^53 and a power of two. Holding them this way keeps reading and writing
inside exact integer arithmetic: a decimal is rounded to the nearest
double, a half going to the even significand, by one division.
-/

namespace Storyline

/-- A double: zero or a finite value `significand * 2 ^ exponent`, an infinity,
or no number. -/
inductive Double where
  | finite (negative : Bool) (significand : Nat) (exponent : Int)
  | infinite (negative : Bool)
  | nan
deriving DecidableEq, Repr

namespace Double

-- ====================================================== the format

/-- The exponent of the smallest doubles. -/
def leastExponent : Int := -1074

/-- The exponent of the largest doubles. -/
def greatestExponent : Int := 971

/-- Zero with its sign. -/
def zero (negative : Bool) : Double := .finite negative 0 leastExponent

-- ======================================================== rounding

/-- The quotient rounded to the nearest whole number, a half to the even
neighbour. -/
def roundDiv (num den : Nat) : Nat :=
  let floor := num / den
  let twice := 2 * (num % den)
  if twice < den || (twice == den && floor % 2 == 0) then floor else floor + 1

/-- A quotient scaled by a power of two, as a quotient again. -/
def scaleDown (num den : Nat) (exponent : Int) : Nat × Nat :=
  match exponent with
  | .ofNat e => (num, den * Nat.pow 2 e)
  | .negSucc e => (num * Nat.pow 2 (e + 1), den)

/-- The power of two in which a positive quotient has a significand of 53 bits,
or the least one. -/
def exponentFor (num den : Nat) : Int :=
  let guess : Int := (num.log2 : Int) - den.log2 - 52
  let (n, d) := scaleDown num den guess
  max leastExponent (if n < Nat.pow 2 52 * d then guess - 1 else guess)

/-- A significand that was rounded up to 54 binary digits, the last of them
zero, loses that one. -/
def carry (significand : Nat) (exponent : Int) : Nat × Int :=
  if significand.log2 = 53 then (significand / 2, exponent + 1)
  else (significand, exponent)

/-- The double nearest to a positive quotient. -/
def ofQuotient (negative : Bool) (num den : Nat) : Double :=
  let exponent := exponentFor num den
  let (n, d) := scaleDown num den exponent
  let (significand, exponent) := carry (roundDiv n d) exponent
  if greatestExponent < exponent then .infinite negative
  else .finite negative significand exponent

/-- The number of decimal digits of a number, one for zero. -/
def decimalWidth (n : Nat) : Nat :=
  if n < 10 then 1 else decimalWidth (n / 10) + 1

/-- The double nearest to `digits * 10 ^ exponent`. Values whose leading digit
stands beyond the range of doubles are settled without computing the power. -/
def ofDecimal (negative : Bool) (digits : Nat) (exponent : Int) : Double :=
  let top := (decimalWidth digits : Int) + exponent
  if digits = 0 || top < -330 then zero negative
  else if 320 < top then .infinite negative
  else
    match exponent with
    | .ofNat e => ofQuotient negative (digits * Nat.pow 10 e) 1
    | .negSucc e => ofQuotient negative digits (Nat.pow 10 (e + 1))

-- ===================================================== whole values

/-- The whole number that a double is, if it is one. -/
def toInt? : Double → Option Int
  | .finite negative significand exponent =>
    match exponent with
    | .ofNat e =>
      let n : Int := (significand * Nat.pow 2 e : Nat)
      some (if negative then -n else n)
    | .negSucc e =>
      let divisor := Nat.pow 2 (e + 1)
      if significand % divisor = 0 then
        let n : Int := (significand / divisor : Nat)
        some (if negative then -n else n)
      else none
  | .infinite _ | .nan => none

end Double

end Storyline
