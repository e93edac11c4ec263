/-
Whole numbers as sheet authors write them: decimal digits of any script,
mixed freely, with an optional sign in front and whitespace around. More
than 4300 digits are refused, leading zeros counted, because a cell that
long is a mistake and not an id. Nor is a number of more digits put into a
message (`isPrintable`).
-/
import Storyline.Text.Blank

-- ======================================================== the digits

namespace Storyline.Text

/-- The code points of the digits zero. Each script that has decimal digits
has ten of them in a row, zero first. -/
def zeroDigits : List Nat :=
  [0x0030, 0x0660, 0x06F0, 0x07C0, 0x0966, 0x09E6, 0x0A66, 0x0AE6,
   0x0B66, 0x0BE6, 0x0C66, 0x0CE6, 0x0D66, 0x0DE6, 0x0E50, 0x0ED0,
   0x0F20, 0x1040, 0x1090, 0x17E0, 0x1810, 0x1946, 0x19D0, 0x1A80,
   0x1A90, 0x1B50, 0x1BB0, 0x1C40, 0x1C50, 0xA620, 0xA8D0, 0xA900,
   0xA9D0, 0xA9F0, 0xAA50, 0xABF0, 0xFF10, 0x104A0, 0x10D30, 0x11066,
   0x110F0, 0x11136, 0x111D0, 0x112F0, 0x11450, 0x114D0, 0x11650,
   0x116C0, 0x11730, 0x118E0, 0x11950, 0x11C50, 0x11D50, 0x11DA0,
   0x16A60, 0x16AC0, 0x16B50, 0x1D7CE, 0x1D7D8, 0x1D7E2, 0x1D7EC,
   0x1D7F6, 0x1E140, 0x1E2F0, 0x1E950, 0x1FBF0]

/-- The value of a decimal digit of any script. -/
def digitValue? (c : Char) : Option Nat :=
  (zeroDigits.find? fun start =>
    start ≤ c.toNat && c.toNat < start + 10).map (c.toNat - ·)

theorem digitValue?_lt {c : Char} {d : Nat} (h : digitValue? c = some d) :
    d < 10 := by
  unfold digitValue? at h
  obtain ⟨start, found, rfl⟩ := Option.map_eq_some_iff.1 h
  have bounds := List.find?_some found
  simp only [Bool.and_eq_true, decide_eq_true_eq] at bounds
  omega

end Storyline.Text

namespace Storyline.Numeral

-- ========================================================= the value

/-- What a cell says when it is read as a whole number. -/
inductive Reading where
  | integer (value : Int)
  | tooLong (digits : Nat)
  | notInteger
deriving DecidableEq, Repr

/-- The most digits that a number may be written with. -/
def digitLimit : Nat := 4300

/-- The number that a list of digits spells in base ten. -/
def ofDigits (digits : List Nat) : Nat :=
  digits.foldl (fun n d => 10 * n + d) 0

/-- Splits an optional sign off; the flag says that it is a minus. -/
def splitSign : List Char → Bool × List Char
  | '-' :: rest => (true, rest)
  | '+' :: rest => (false, rest)
  | cs => (false, cs)

/-- The number with the sign that was read. -/
def signed (negative : Bool) (n : Nat) : Int :=
  if negative then -(n : Int) else n

/-- Reads the characters of a cell. -/
def readChars (cs : List Char) : Reading :=
  let (negative, body) := splitSign (Text.trimChars cs)
  match body.mapM Text.digitValue? with
  | none | some [] => .notInteger
  | some digits =>
    if digitLimit < digits.length then .tooLong digits.length
    else .integer (signed negative (ofDigits digits))

/-- Reads a cell. -/
def read (cell : String) : Reading := readChars cell.toList

/-- The number in the cell, if it is one of acceptable length. -/
def Reading.value? : Reading → Option Int
  | .integer z => some z
  | .tooLong _ | .notInteger => none

-- ========================================================== the text

/-- The digits of a number in base ten, without leading zeros. -/
def digits (n : Nat) : List Nat :=
  if n < 10 then [n] else digits (n / 10) ++ [n % 10]

/-- The number in ASCII digits. -/
def natChars (n : Nat) : List Char :=
  (digits n).map fun d => Char.ofNat (48 + d)

/-- The number in ASCII digits, with a minus when it is below zero. -/
def intChars : Int → List Char
  | .ofNat n => natChars n
  | .negSucc n => '-' :: natChars (n + 1)

/-- The number as text, whatever its length. What it stands for in a message
or a comparison keeps to the limit of itself: lengths, numbers that were
counted up, and numbers that were read from a cell or a document. -/
def text (z : Int) : String := String.ofList (intChars z)

/-- Whether a number is short enough for a message: its digits, without
the sign, keep to the limit. -/
def isPrintable (z : Int) : Bool := (natChars z.natAbs).length ≤ digitLimit

theorem ofDigits_append_single (ds : List Nat) (d : Nat) :
    ofDigits (ds ++ [d]) = 10 * ofDigits ds + d := by
  simp [ofDigits]

/-- Writing a number in base ten and reading it back gives the number. -/
theorem ofDigits_digits (n : Nat) : ofDigits (digits n) = n := by
  fun_induction digits n with
  | case1 n h => simp [ofDigits]
  | case2 n h ih => rw [ofDigits_append_single, ih]; omega

end Storyline.Numeral
