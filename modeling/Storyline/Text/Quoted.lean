/-
Labels in quotes, so that a reader sees where a label ends and what it
holds. The quote is the apostrophe, unless that would have to be escaped
and the double quote would not. Line breaks and tabs have short escapes,
and what has no shape of its own is written by its code point.
-/
import Storyline.Text.Printable

namespace Storyline.Text

/-- The quote character around a label. -/
def labelQuote (cs : List Char) : Char :=
  if cs.contains '\'' && !cs.contains '"' then '"' else '\''

/-- A digit of base sixteen, small letters from ten on. -/
def hexDigit (d : Nat) : Char :=
  if d < 10 then Char.ofNat (48 + d) else Char.ofNat (87 + d)

/-- The low digits of a number in base sixteen, exactly `width` of them. -/
def hexDigits : (width : Nat) → Nat → List Char
  | 0, _ => []
  | width + 1, n => hexDigits width (n / 16) ++ [hexDigit (n % 16)]

/-- A character by its code point: two, four or eight digits. -/
def codeEscape (c : Char) : List Char :=
  if c.toNat < 0x100 then '\\' :: 'x' :: hexDigits 2 c.toNat
  else if c.toNat < 0x10000 then '\\' :: 'u' :: hexDigits 4 c.toNat
  else '\\' :: 'U' :: hexDigits 8 c.toNat

/-- A character of a label inside the given quotes. -/
def labelChar (quote c : Char) : List Char :=
  if c = quote || c = '\\' then ['\\', c]
  else if c = '\n' then ['\\', 'n']
  else if c = '\r' then ['\\', 'r']
  else if c = '\t' then ['\\', 't']
  else if isPrintable c then [c]
  else codeEscape c

/-- The label with its quotes. -/
def quotedLabel (s : String) : String :=
  let quote := labelQuote s.toList
  String.ofList (quote :: s.toList.flatMap (labelChar quote) ++ [quote])

end Storyline.Text
