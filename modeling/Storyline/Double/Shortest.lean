/-
The shortest decimal text of a double: the fewest digits that read back
as the same double, and of those the nearest to it. For each count of
digits the two neighbours of the value on that decimal grid are tried, by
reading them back; the first count with a hit wins. Every double has a
finite decimal expansion, which stands in should no short text be found,
so whatever is written reads back.

The layout is positional from 10^-5 up to below 10^16 and scientific
beyond. It always shows that the number is a double: by a point, or by an
exponent with its sign.
-/
import Storyline.Double
import Storyline.Numeral

namespace Storyline.Double

-- ===================================================== the digits

/-- A decimal value: `digits * 10 ^ exponent`. -/
structure Decimal where
  digits : Nat
  exponent : Int
deriving DecidableEq, Repr

/-- A double's absolute value as a quotient. -/
def quotientOf (significand : Nat) (exponent : Int) : Nat × Nat :=
  match exponent with
  | .ofNat e => (significand * Nat.pow 2 e, 1)
  | .negSucc e => (significand, Nat.pow 2 (e + 1))

/-- How many digits a quotient has before the decimal point; negative counts
are zeros behind it. The smallest double still has digits after a shift by 340
places. -/
def pointPosition (num den : Nat) : Int :=
  (decimalWidth (Nat.pow 10 340 * num / den) : Int) - 340

/-- A quotient in units of `10 ^ exponent`, as a quotient again. -/
def inUnits (num den : Nat) (exponent : Int) : Nat × Nat :=
  match exponent with
  | .ofNat e => (num, den * Nat.pow 10 e)
  | .negSucc e => (num * Nat.pow 10 (e + 1), den)

/-- Whether a decimal reads back as the double. -/
def readsBack (significand : Nat) (exponent : Int) (d : Decimal) : Bool :=
  ofDecimal false d.digits d.exponent == .finite false significand exponent

/-- The neighbour on a decimal grid that reads back, the nearer one if both do
and the even one if they are equally near. -/
def onGrid? (significand : Nat) (exponent : Int) (unit : Int) :
    Option Decimal :=
  let (num, den) := quotientOf significand exponent
  let (n, d) := inUnits num den unit
  let low : Decimal := ⟨n / d, unit⟩
  let high : Decimal := ⟨n / d + 1, unit⟩
  match readsBack significand exponent low,
    readsBack significand exponent high with
  | true, true => some (if roundDiv n d = n / d then low else high)
  | true, false => some low
  | false, true => some high
  | false, false => none

/-- The exact expansion: a power of two below one is a power of five with
shifted point. -/
def exactDecimal (significand : Nat) (exponent : Int) : Decimal :=
  match exponent with
  | .ofNat e => ⟨significand * Nat.pow 2 e, 0⟩
  | .negSucc e => ⟨significand * Nat.pow 5 (e + 1), .negSucc e⟩

/-- The shortest decimal of a positive double. -/
def shortest (significand : Nat) (exponent : Int) : Decimal :=
  let (num, den) := quotientOf significand exponent
  let point := pointPosition num den
  ((List.range 17).findSome? fun (k : Nat) =>
    onGrid? significand exponent (point - (k + 1 : Nat))).getD
    (exactDecimal significand exponent)

/-- Moves the zeros at the end of the digits into the exponent. -/
def Decimal.reduce (d : Decimal) : Decimal :=
  if h : d.digits ≠ 0 ∧ d.digits % 10 = 0 then
    reduce ⟨d.digits / 10, d.exponent + 1⟩
  else d
termination_by d.digits
decreasing_by
  obtain ⟨pos, -⟩ := h
  exact Nat.div_lt_self (Nat.pos_of_ne_zero pos) (by decide)

-- ===================================================== the layout

/-- A run of zeros. -/
def zeros (n : Nat) : List Char := List.replicate n '0'

/-- A power of ten as text, always with its sign. -/
def exponentChars (z : Int) : List Char :=
  if z < 0 then Numeral.intChars z else '+' :: Numeral.intChars z

/-- A positive decimal as text. -/
def Decimal.chars (d : Decimal) : List Char :=
  let digits := Numeral.natChars d.digits
  let point : Int := digits.length + d.exponent
  if 0 ≤ d.exponent && point ≤ 16 then
    digits ++ zeros d.exponent.toNat ++ ['.', '0']
  else if 0 < point && point ≤ 16 then
    digits.take point.toNat ++ '.' :: digits.drop point.toNat
  else if -5 < point && point ≤ 0 then
    '0' :: '.' :: zeros (-point).toNat ++ digits
  else
    match digits with
    | [] => []
    | [single] => single :: 'e' :: exponentChars (point - 1)
    | lead :: rest => lead :: '.' :: rest ++ 'e' :: exponentChars (point - 1)

/-- The text of a finite double. -/
def finiteChars (negative : Bool) (significand : Nat) (exponent : Int) :
    List Char :=
  let body :=
    if significand = 0 then ['0', '.', '0']
    else (shortest significand exponent).reduce.chars
  if negative then '-' :: body else body

end Storyline.Double
