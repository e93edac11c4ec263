/-
Whole numbers that stand in a string where a model wants a number. Blanks
around the number do not count, and one sign may stand in front. Zeros in
front are dropped together with the underscores among them, and behind
them a minus is read as the sign of the number. Between digits single
underscores may stand, and a fraction of zeros may end the number.
-/
import Storyline.Numeral

namespace Storyline.Json.NumberText

-- ======================================================== the limit

/-- The most digits of a number, dropped zeros not counted. -/
def digitLimit : Nat := 4300

/-- A text that is nothing but a number at its beginning, with too many digits.
Such a text is refused by its length, whatever follows the digits. -/
def isOverlong (cs : List Char) : Bool :=
  let digits :=
    (if cs.head? = some '-' then cs.drop 1 else cs).takeWhile Char.isDigit
  digits.head? ≠ some '0' && digitLimit < digits.length

-- ========================================================= the parts

/-- The blanks that may stand around a number. -/
def isNumberBlank (c : Char) : Bool :=
  Text.isBlankChar c && !(0x1C ≤ c.toNat && c.toNat ≤ 0x1F)

/-- What follows the zeros and underscores in front. The last of them stays
when nothing else follows, or only a fraction. -/
def afterZeros (last : Char) : List Char → List Char
  | [] => [last]
  | c :: rest =>
    if c = '.' then last :: c :: rest
    else if c = '0' || c = '_' then afterZeros c rest
    else c :: rest

/-- Drops the zeros in front of a text that begins with a digit. -/
def dropZeros? : List Char → Option (List Char)
  | [] => none
  | c :: rest =>
    if c = '0' then some (afterZeros c rest)
    else if c.isDigit then some (c :: rest)
    else none

/-- Drops a fraction of zeros alone. -/
def dropFraction (cs : List Char) : List Char :=
  match cs.dropWhile (· ≠ '.') with
  | '.' :: '0' :: fraction =>
    if fraction.all (· = '0') then cs.takeWhile (· ≠ '.') else cs
  | _ => cs

/-- A run of digits in which single underscores may stand between two digits,
without the underscores. -/
def digitGroups? : List Char → Option (List Char)
  | [] => none
  | [c] => if c.isDigit then some [c] else none
  | c :: '_' :: rest =>
    if c.isDigit then (digitGroups? rest).map (c :: ·) else none
  | c :: rest => if c.isDigit then (digitGroups? rest).map (c :: ·) else none

-- ======================================================= the numbers

/-- Whether digits are too many, or a zero stands in front of others. -/
def isRefused (digits : List Char) : Bool :=
  digitLimit < digits.length || (digits.head? = some '0' && digits.length ≠ 1)

/-- Reads a number without a sign. -/
def natural? (cs : List Char) : Option Nat := do
  let digits ← digitGroups? cs
  if isRefused digits then none
  else return Numeral.ofDigits (digits.map fun c => c.toNat - 48)

/-- Reads what the zeros in front leave: a number that may have a minus. -/
def integer? : List Char → Option Int
  | '-' :: '_' :: rest | '-' :: rest => (natural? rest).map fun n => -(n : Int)
  | cs => (natural? cs).map fun n => (n : Int)

/-- Reads a number between its blanks. Behind a minus in front there is no
other. -/
def signed? : List Char → Option Int
  | '-' :: cs => do
    let n ← natural? (dropFraction (← dropZeros? cs))
    return -(n : Int)
  | '+' :: cs | cs => do integer? (dropFraction (← dropZeros? cs))

/-- Reads a number out of a text. -/
def read? (cs : List Char) : Option Int :=
  signed? (Text.dropEnds isNumberBlank cs)

end Storyline.Json.NumberText
