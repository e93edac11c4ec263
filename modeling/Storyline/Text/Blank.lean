/-
Classes of characters as lists of code point ranges, and the two by which
texts are cut. Whitespace is cut off the ends of a text. A character is
blank when Unicode calls it a space separator or gives it a whitespace,
block or segment direction: that takes in the information separators
U+001C to U+001F and the no-break spaces, and it leaves out the zero
width space and the byte order mark. A displayed text breaks into lines at
the line feed and the carriage return, at the tabulation and page breaks,
at three of the information separators, at the next-line control and at
the two Unicode separators.
-/

namespace Storyline.Text

-- ============================================================ ranges

/-- Ranges of code points, both ends included, in ascending order. -/
abbrev Ranges := List (Nat × Nat)

/-- Whether some range holds the character. -/
def Ranges.holds (ranges : Ranges) (c : Char) : Bool :=
  ranges.any fun (first, last) => first ≤ c.toNat && c.toNat ≤ last

-- ======================================================== whitespace

/-- The ranges of whitespace. -/
def blankRanges : Ranges :=
  [(0x0009, 0x000D), (0x001C, 0x0020), (0x0085, 0x0085),
   (0x00A0, 0x00A0), (0x1680, 0x1680), (0x2000, 0x200A),
   (0x2028, 0x2029), (0x202F, 0x202F), (0x205F, 0x205F),
   (0x3000, 0x3000)]

/-- A whitespace character. -/
def isBlankChar (c : Char) : Bool := blankRanges.holds c

/-- A text of nothing but whitespace, the empty one included. -/
def isBlank (s : String) : Bool := s.toList.all isBlankChar

-- ========================================================= trimming

/-- Cuts the run of characters in the class off the end. -/
def dropEnd (p : Char → Bool) (cs : List Char) : List Char :=
  (cs.reverse.dropWhile p).reverse

/-- Cuts the runs of characters in the class off both ends. -/
def dropEnds (p : Char → Bool) (cs : List Char) : List Char :=
  dropEnd p (cs.dropWhile p)

/-- The characters between the first and the last that is not blank. -/
def trimChars (cs : List Char) : List Char := dropEnds isBlankChar cs

/-- The text without the whitespace at its ends. -/
def trim (s : String) : String := String.ofList (trimChars s.toList)

/-- The text without the whitespace at its end. -/
def trimEnd (s : String) : String :=
  String.ofList (dropEnd isBlankChar s.toList)

@[simp] theorem dropEnd_nil (p : Char → Bool) : dropEnd p [] = [] := rfl

@[simp] theorem dropEnds_nil (p : Char → Bool) : dropEnds p [] = [] := rfl

@[simp] theorem toList_trim (s : String) :
    (trim s).toList = trimChars s.toList := by
  simp [trim]

@[simp] theorem toList_trimEnd (s : String) :
    (trimEnd s).toList = dropEnd isBlankChar s.toList := by
  simp [trimEnd]

-- ============================================================= lines

/-- The ranges of characters that end a displayed line. -/
def lineBreakRanges : Ranges :=
  [(0x000A, 0x000D), (0x001C, 0x001E), (0x0085, 0x0085), (0x2028, 0x2029)]

/-- What a reader sees of the text before the first break. -/
def firstLine (s : String) : String :=
  String.ofList (s.toList.takeWhile fun c => !lineBreakRanges.holds c)

end Storyline.Text
