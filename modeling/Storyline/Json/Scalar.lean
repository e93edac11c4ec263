/-
The scalars of JSON: what a quoted text says once its escapes are read,
and what a bare word means. Beside the three constants and the numbers
there are words for the doubles that are no numbers. How far a reader
goes along with unusual texts is up to its tolerance.
-/
import Storyline.Json
import Storyline.Numeral

namespace Storyline.Json

-- ========================================================= tolerance

/-- What a reader puts up with. -/
structure Tolerance where
  /-- How many containers that hold something may be open at once. -/
  depth : Nat
  /-- Whether half of a surrogate pair may stand alone. -/
  loneHalves : Bool
  /-- Whether a double may have any number of digits. -/
  longDoubles : Bool
deriving DecidableEq, Repr

/-- The tolerance of model documents. -/
def Tolerance.strict : Tolerance := ⟨200, false, false⟩

/-- The tolerance of settings. -/
def Tolerance.lenient : Tolerance := ⟨980, true, true⟩

-- ======================================================= quoted text

/-- The value of a digit of base sixteen. -/
def hexValue? (c : Char) : Option Nat :=
  if '0' ≤ c && c ≤ '9' then some (c.toNat - 48)
  else if 'a' ≤ c && c ≤ 'f' then some (c.toNat - 87)
  else if 'A' ≤ c && c ≤ 'F' then some (c.toNat - 55)
  else none

/-- The number that four digits of base sixteen spell. -/
def hexQuad? (a b c d : Char) : Option Nat := do
  let a ← hexValue? a
  let b ← hexValue? b
  let c ← hexValue? c
  let d ← hexValue? d
  return ((a * 16 + b) * 16 + c) * 16 + d

/-- The character that a short escape stands for. -/
def shortEscape? : Char → Option Char
  | '"' => some '"'
  | '\\' => some '\\'
  | '/' => some '/'
  | 'b' => some '\x08'
  | 'f' => some '\x0c'
  | 'n' => some '\n'
  | 'r' => some '\r'
  | 't' => some '\t'
  | _ => none

/-- Whether a code unit is the first of a surrogate pair. -/
def isHighSurrogate (n : Nat) : Bool := 0xD800 ≤ n && n < 0xDC00

/-- Whether a code unit is the second of a surrogate pair. -/
def isLowSurrogate (n : Nat) : Bool := 0xDC00 ≤ n && n < 0xE000

/-- The character of a surrogate pair. -/
def surrogatePair (high low : Nat) : Char :=
  Char.ofNat (0x10000 + (high - 0xD800) * 0x400 + (low - 0xDC00))

/-- What is written in one place of a quoted text: a character, or a code unit
by its number. -/
inductive Piece where
  | char (c : Char)
  | unit (n : Nat)
deriving DecidableEq, Repr

/-- Reads the escapes of a quoted text. Control characters have to be
escaped. -/
def pieces : List Char → Option (List Piece)
  | [] => some []
  | '\\' :: 'u' :: a :: b :: c :: d :: rest => do
    let unit ← hexQuad? a b c d
    return .unit unit :: (← pieces rest)
  | '\\' :: c :: rest => do
    let c ← shortEscape? c
    return .char c :: (← pieces rest)
  | c :: rest =>
    if c = '\\' || c.toNat < 0x20 then none
    else do return .char c :: (← pieces rest)

/-- The character of a code unit that is in no pair. Half of a pair has no
character of its own; where it may stand alone, the replacement character
stands for it. -/
def unitChar? (tolerance : Tolerance) (n : Nat) : Option Char :=
  if isHighSurrogate n || isLowSurrogate n then
    if tolerance.loneHalves then some '\uFFFD' else none
  else some (Char.ofNat n)

/-- The characters of pieces, with surrogate pairs put together. -/
def charsOf? (tolerance : Tolerance) : List Piece → Option (List Char)
  | [] => some []
  | .char c :: rest => (charsOf? tolerance rest).map (c :: ·)
  | .unit high :: .unit low :: rest =>
    if isHighSurrogate high && isLowSurrogate low then
      (charsOf? tolerance rest).map (surrogatePair high low :: ·)
    else do
      return (← unitChar? tolerance high)
        :: (← charsOf? tolerance (.unit low :: rest))
  | .unit n :: rest => do
    return (← unitChar? tolerance n) :: (← charsOf? tolerance rest)

/-- What a quoted text says. -/
def unescape (tolerance : Tolerance) (raw : List Char) : Option String := do
  return String.ofList (← charsOf? tolerance (← pieces raw))

-- =========================================================== numbers

/-- A number as it is written, cut into its parts. -/
structure Written where
  negative : Bool
  whole : List Char
  fraction : Option (List Char)
  exponent : Option (Bool × List Char)

/-- One of the ten ASCII digits. -/
def isAsciiDigit (c : Char) : Bool := '0' ≤ c && c ≤ '9'

/-- The value of a run of ASCII digits. -/
def asciiNumber (cs : List Char) : Nat :=
  Numeral.ofDigits (cs.map fun c => c.toNat - 48)

/-- Cuts a minus off. -/
def cutMinus : List Char → Bool × List Char
  | '-' :: rest => (true, rest)
  | cs => (false, cs)

/-- Cuts a fraction off: a point and the digits after it, at least one. -/
def cutFraction : List Char → Option (Option (List Char) × List Char)
  | '.' :: rest =>
    let digits := rest.takeWhile isAsciiDigit
    if digits.isEmpty then none
    else some (some digits, rest.dropWhile isAsciiDigit)
  | rest => some (none, rest)

/-- The exponent that ends a number, if there is one. -/
def exponentPart : List Char → Option (Option (Bool × List Char))
  | [] => some none
  | e :: rest =>
    if e = 'e' || e = 'E' then
      let (negative, digits) := Numeral.splitSign rest
      if digits.isEmpty || !digits.all isAsciiDigit then none
      else some (some (negative, digits))
    else none

/-- The whole part of a number has no leading zeros. -/
def isWholePart : List Char → Bool
  | [] => false
  | ['0'] => true
  | first :: rest => first ≠ '0' && isAsciiDigit first && rest.all isAsciiDigit

/-- Cuts a word into the parts of a number. -/
def written? (word : List Char) : Option Written := do
  let (negative, body) := cutMinus word
  let whole := body.takeWhile isAsciiDigit
  if !isWholePart whole then none
  let (fraction, rest) ← cutFraction (body.dropWhile isAsciiDigit)
  let exponent ← exponentPart rest
  return ⟨negative, whole, fraction, exponent⟩

/-- The most digits in front of the point of a number. -/
def numberLimit : Nat := 4300

/-- Whether the number has the form of a whole number. -/
def Written.isWhole (w : Written) : Bool :=
  w.fraction.isNone && w.exponent.isNone

/-- The double nearest to a number. -/
def Written.double (w : Written) : Double :=
  let fraction := w.fraction.getD []
  let scale : Int :=
    match w.exponent with
    | some (negative, digits) => Numeral.signed negative (asciiNumber digits)
    | none => 0
  Double.ofDecimal w.negative (asciiNumber (w.whole ++ fraction))
    (scale - fraction.length)

/-- The value of a number: whole numbers are exact, all others are doubles. -/
def Written.value? (tolerance : Tolerance) (w : Written) : Option Json :=
  if numberLimit < w.whole.length
      && !(tolerance.longDoubles && !w.isWhole) then none
  else if w.isWhole then
    some (.integer (Numeral.signed w.negative (asciiNumber w.whole)))
  else some (.double w.double)

-- ============================================================= words

/-- The words that stand for values of their own. -/
def constants : List (String × Json) :=
  [("null", .null), ("true", .bool true), ("false", .bool false),
   ("NaN", .double .nan), ("Infinity", .double (.infinite false)),
   ("-Infinity", .double (.infinite true))]

/-- The value of a bare word. -/
def word? (tolerance : Tolerance) (cs : List Char) : Option Json :=
  match constants.lookup (String.ofList cs) with
  | some value => some value
  | none => (written? cs).bind (·.value? tolerance)

end Storyline.Json
