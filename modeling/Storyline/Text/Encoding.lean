/-
The encodings in which a sheet may be stored, their names, and decoding
by them. Every decoder is a function on the bytes of the whole sheet; a
sheet that does not fit its encoding has no text.
-/
import Storyline.Text.Utf8

namespace Storyline.Text

-- ========================================================= the names

/-- The supported encodings. -/
inductive Encoding where
  | utf8
  /-- UTF-8 with an optional mark in front that is no part of the text. -/
  | utf8Marked
  | ascii
  | latin1
  | windows1252
  /-- UTF-16 in the byte order that its mark shows. -/
  | utf16
  | utf16Little
  | utf16Big
deriving DecidableEq, Repr

/-- A character that names are made of. -/
def isNameChar (c : Char) : Bool := c.isAlphanum || c = '.'

/-- A name in small letters, with one underscore for each run of other
characters inside. -/
def encodingKeyFrom (gap : Bool) : List Char → List Char
  | [] => []
  | c :: cs =>
    if isNameChar c then
      if gap then '_' :: c.toLower :: encodingKeyFrom false cs
      else c.toLower :: encodingKeyFrom false cs
    else encodingKeyFrom true cs

/-- The form in which names of encodings are compared. -/
def encodingKey (name : String) : String :=
  String.ofList
    (encodingKeyFrom false (name.toList.dropWhile fun c => !isNameChar c))

/-- The names that the encodings have of their own. -/
def encodingNames : List (String × Encoding) :=
  [("utf_8", .utf8), ("utf_8_sig", .utf8Marked), ("ascii", .ascii),
   ("latin_1", .latin1), ("cp1252", .windows1252), ("utf_16", .utf16),
   ("utf_16_le", .utf16Little), ("utf_16_be", .utf16Big)]

/-- Their other names. -/
def encodingAliases : List (String × Encoding) :=
  [("cp65001", .utf8), ("u8", .utf8), ("utf", .utf8), ("utf8", .utf8),
   ("utf8_ucs2", .utf8), ("utf8_ucs4", .utf8), ("646", .ascii),
   ("ansi_x3.4_1968", .ascii), ("ansi_x3.4_1986", .ascii),
   ("ansi_x3_4_1968", .ascii), ("cp367", .ascii), ("csascii", .ascii),
   ("ibm367", .ascii), ("iso646_us", .ascii),
   ("iso_646.irv_1991", .ascii), ("iso_ir_6", .ascii), ("us", .ascii),
   ("us_ascii", .ascii), ("8859", .latin1), ("cp819", .latin1),
   ("csisolatin1", .latin1), ("ibm819", .latin1), ("iso8859", .latin1),
   ("iso8859_1", .latin1), ("iso_8859_1", .latin1),
   ("iso_8859_1_1987", .latin1), ("iso_ir_100", .latin1),
   ("l1", .latin1), ("latin", .latin1), ("latin1", .latin1),
   ("1252", .windows1252), ("windows_1252", .windows1252),
   ("u16", .utf16), ("utf16", .utf16),
   ("unicodelittleunmarked", .utf16Little), ("utf_16le", .utf16Little),
   ("unicodebigunmarked", .utf16Big), ("utf_16be", .utf16Big)]

/-- The encoding of that name. In the other names a point counts as an
underscore, unless the name is known with the point. -/
def Encoding.ofName? (name : String) : Option Encoding :=
  let key := encodingKey name
  let pointless :=
    String.ofList (key.toList.map fun c => if c = '.' then '_' else c)
  encodingAliases.lookup key <|> encodingAliases.lookup pointless
    <|> encodingNames.lookup key

-- ====================================================== single bytes

/-- What the bytes from 0x80 to 0x9F mean on Windows in Western Europe. -/
def windows1252Table : List (Option Nat) :=
  [some 0x20AC, none, some 0x201A, some 0x0192, some 0x201E,
   some 0x2026, some 0x2020, some 0x2021, some 0x02C6, some 0x2030,
   some 0x0160, some 0x2039, some 0x0152, none, some 0x017D, none, none,
   some 0x2018, some 0x2019, some 0x201C, some 0x201D, some 0x2022,
   some 0x2013, some 0x2014, some 0x02DC, some 0x2122, some 0x0161,
   some 0x203A, some 0x0153, none, some 0x017E, some 0x0178]

/-- The character of a byte on Windows in Western Europe. -/
def windows1252Char? (b : UInt8) : Option Char :=
  if 0x80 ≤ b && b < 0xA0 then
    (windows1252Table[b.toNat - 0x80]?.getD none).map Char.ofNat
  else some (Char.ofNat b.toNat)

/-- The character of a seven bit byte. -/
def asciiChar? (b : UInt8) : Option Char :=
  if b < 0x80 then some (Char.ofNat b.toNat) else none

-- ============================================================ UTF-16

/-- The order of the two bytes of a code unit. -/
inductive ByteOrder where
  | little
  | big
deriving DecidableEq, Repr

/-- A code unit from its two bytes. -/
def ByteOrder.unit : ByteOrder → UInt8 → UInt8 → Nat
  | .little, a, b => a.toNat + 0x100 * b.toNat
  | .big, a, b => 0x100 * a.toNat + b.toNat

/-- The code units of a text; none when a byte is left over. -/
def codeUnits (order : ByteOrder) (done : List Nat) :
    List UInt8 → Option (List Nat)
  | [] => some done.reverse
  | [_] => none
  | a :: b :: rest => codeUnits order (order.unit a b :: done) rest

/-- The characters of code units; none when a surrogate stands alone. -/
def decodeUnits (done : List Char) : List Nat → Option (List Char)
  | [] => some done.reverse
  | unit :: rest =>
    if 0xD800 ≤ unit && unit < 0xDC00 then
      match rest with
      | [] => none
      | low :: rest =>
        if 0xDC00 ≤ low && low < 0xE000 then
          decodeUnits
            (Char.ofNat (0x10000 + (unit - 0xD800) * 0x400
              + (low - 0xDC00)) :: done) rest
        else none
    else if 0xDC00 ≤ unit && unit < 0xE000 then none
    else decodeUnits (Char.ofNat unit :: done) rest

/-- Decodes UTF-16 in a known byte order. -/
def decodeUtf16 (order : ByteOrder) (bytes : List UInt8) :
    Option (List Char) :=
  (codeUnits order [] bytes).bind (decodeUnits [])

-- ============================================================ decoding

/-- What decoding the bytes of a sheet comes to. -/
inductive Decoded where
  | text (cs : List Char)
  | malformed
  | unmarked
deriving DecidableEq, Repr

/-- A decoder's answer as an outcome. -/
def Decoded.ofOption : Option (List Char) → Decoded
  | some cs => .text cs
  | none => .malformed

/-- Decodes UTF-8; what exactly is malformed does not matter here. -/
def utf8Text? (bytes : List UInt8) : Option (List Char) :=
  (decodeUtf8 bytes).toOption

/-- Decodes UTF-8 behind an optional mark. An incomplete mark alone is an empty
text. -/
def decodeUtf8Marked : List UInt8 → Option (List Char)
  | [] | [0xEF] | [0xEF, 0xBB] => some []
  | 0xEF :: 0xBB :: 0xBF :: rest => utf8Text? rest
  | bytes => utf8Text? bytes

/-- Decodes UTF-16 by its mark. Without a mark the text is refused, but bytes
that would not even be UTF-16 in the common order are malformed first. -/
def decodeUtf16Marked : List UInt8 → Decoded
  | [] => .text []
  | 0xFF :: 0xFE :: rest => .ofOption (decodeUtf16 .little rest)
  | 0xFE :: 0xFF :: rest => .ofOption (decodeUtf16 .big rest)
  | bytes =>
    match decodeUtf16 .little bytes with
    | some _ => .unmarked
    | none => .malformed

/-- Decodes the bytes of a sheet. -/
def Encoding.decode (bytes : List UInt8) : Encoding → Decoded
  | .utf8 => .ofOption (utf8Text? bytes)
  | .utf8Marked => .ofOption (decodeUtf8Marked bytes)
  | .ascii => .ofOption (bytes.mapM asciiChar?)
  | .latin1 => .text (bytes.map fun b => Char.ofNat b.toNat)
  | .windows1252 => .ofOption (bytes.mapM windows1252Char?)
  | .utf16 => decodeUtf16Marked bytes
  | .utf16Little => .ofOption (decodeUtf16 .little bytes)
  | .utf16Big => .ofOption (decodeUtf16 .big bytes)

-- ======================================================= line breaks

/-- Each of the three line breaks, LF, CR and CRLF, as one LF; what is done
already is held last first. -/
def unifyBreaksFrom (done : List Char) : List Char → List Char
  | [] => done.reverse
  | '\r' :: '\n' :: cs => unifyBreaksFrom ('\n' :: done) cs
  | '\r' :: cs => unifyBreaksFrom ('\n' :: done) cs
  | c :: cs => unifyBreaksFrom (c :: done) cs

/-- The text with one kind of line break. -/
def unifyBreaks (cs : List Char) : List Char := unifyBreaksFrom [] cs

end Storyline.Text
