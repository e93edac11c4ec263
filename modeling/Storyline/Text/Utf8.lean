/-
UTF-8 as bytes. Decoding names the first malformed sequence: a byte that
starts nothing, the longest well-formed start of a sequence that goes on
wrongly, or the piece at the end that is not complete.
-/
import Storyline.Error

namespace Storyline.Text

-- ========================================================== encoding

/-- The bytes of a character. -/
def utf8Char (c : Char) : List UInt8 :=
  let n := c.toNat
  if n < 0x80 then [n.toUInt8]
  else if n < 0x800 then [(0xC0 + n / 0x40).toUInt8, (0x80 + n % 0x40).toUInt8]
  else if n < 0x10000 then
    [(0xE0 + n / 0x1000).toUInt8, (0x80 + n / 0x40 % 0x40).toUInt8,
     (0x80 + n % 0x40).toUInt8]
  else
    [(0xF0 + n / 0x40000).toUInt8, (0x80 + n / 0x1000 % 0x40).toUInt8,
     (0x80 + n / 0x40 % 0x40).toUInt8, (0x80 + n % 0x40).toUInt8]

/-- The bytes of a text. -/
def utf8Bytes (s : String) : List UInt8 := s.toList.flatMap utf8Char

-- ========================================================== decoding

/-- A byte that goes on with a sequence. -/
def isContinuation (b : UInt8) : Bool := 0x80 ≤ b && b < 0xC0

/-- A second byte that may follow the first byte of three: none that would make
the sequence too long or name a surrogate. -/
def secondOfThree (first second : UInt8) : Bool :=
  isContinuation second && !(first == 0xE0 && second < 0xA0)
    && !(first == 0xED && 0xA0 ≤ second)

/-- A second byte that may follow the first byte of four: none that would make
the sequence too long or name a code point beyond the last. -/
def secondOfFour (first second : UInt8) : Bool :=
  isContinuation second && !(first == 0xF0 && second < 0x90)
    && !(first == 0xF4 && 0x90 ≤ second)

/-- The six bits that a byte adds. -/
def lowBits (b : UInt8) : Nat := b.toNat % 0x40

/-- Decodes the rest of a text; what is decoded already is held last first. -/
def decodeUtf8From (position : Nat) (done : List Char) :
    List UInt8 → Except Utf8Error (List Char)
  | [] => .ok done.reverse
  | a :: rest =>
    let fail (width : Nat) (fault : Utf8Fault) :
        Except Utf8Error (List Char) :=
      .error ⟨position, a, width, fault⟩
    if a < 0x80 then
      decodeUtf8From (position + 1) (Char.ofNat a.toNat :: done) rest
    else if a < 0xC2 then fail 1 .startByte
    else if a < 0xE0 then
      match rest with
      | [] => fail 1 .endOfData
      | b :: rest =>
        if isContinuation b then
          decodeUtf8From (position + 2)
            (Char.ofNat ((a.toNat - 0xC0) * 0x40 + lowBits b) :: done) rest
        else fail 1 .continuationByte
    else if a < 0xF0 then
      match rest with
      | [] => fail 1 .endOfData
      | [b] =>
        if secondOfThree a b then fail 2 .endOfData
        else fail 1 .continuationByte
      | b :: c :: rest =>
        if !secondOfThree a b then fail 1 .continuationByte
        else if !isContinuation c then fail 2 .continuationByte
        else
          decodeUtf8From (position + 3)
            (Char.ofNat (((a.toNat - 0xE0) * 0x40 + lowBits b) * 0x40
              + lowBits c) :: done) rest
    else if a < 0xF5 then
      match rest with
      | [] => fail 1 .endOfData
      | [b] =>
        if secondOfFour a b then fail 2 .endOfData
        else fail 1 .continuationByte
      | [b, c] =>
        if !secondOfFour a b then fail 1 .continuationByte
        else if !isContinuation c then fail 2 .continuationByte
        else fail 3 .endOfData
      | b :: c :: d :: rest =>
        if !secondOfFour a b then fail 1 .continuationByte
        else if !isContinuation c then fail 2 .continuationByte
        else if !isContinuation d then fail 3 .continuationByte
        else
          decodeUtf8From (position + 4)
            (Char.ofNat
              ((((a.toNat - 0xF0) * 0x40 + lowBits b) * 0x40
                + lowBits c) * 0x40 + lowBits d)
              :: done) rest
    else fail 1 .startByte

/-- Decodes a text. -/
def decodeUtf8 (bytes : List UInt8) : Except Utf8Error (List Char) :=
  decodeUtf8From 0 [] bytes

end Storyline.Text
