/-
Text in quotes reads back. A character is written in one of three ways:
as itself, with a backslash and a letter, or with a backslash and its
number (`escapeChar_cases`). Whichever it is, the lexer takes it as part
of the quoted token (`tokensFrom_escapeChar`), and reading the escapes
gives the character again (`pieces_escapeChar`).

Main statements: `tokens_quoteThen` and `unescape_escaped`.
-/
import Storyline.Json.Lexer
import Storyline.Json.Scalar
import Storyline.Json.Writer

namespace Storyline.Json

-- ======================================================== three ways

/-- How a character is written inside quotes. -/
theorem escapeChar_cases (c : Char) :
    (∃ letter, escapeChar c = ['\\', letter] ∧ letter ≠ 'u'
        ∧ shortEscape? letter = some c)
      ∨ (c.toNat < 0x20
        ∧ escapeChar c = '\\' :: 'u' :: Text.hexDigits 4 c.toNat)
      ∨ (escapeChar c = [c] ∧ c ≠ '"' ∧ c ≠ '\\' ∧ 0x20 ≤ c.toNat) := by
  unfold escapeChar
  split
  · next h => exact Or.inl ⟨'"', rfl, by decide, by rw [h]; rfl⟩
  split
  · next h => exact Or.inl ⟨'\\', rfl, by decide, by rw [h]; rfl⟩
  split
  · next h => exact Or.inl ⟨'b', rfl, by decide, by rw [h]; rfl⟩
  split
  · next h => exact Or.inl ⟨'f', rfl, by decide, by rw [h]; rfl⟩
  split
  · next h => exact Or.inl ⟨'n', rfl, by decide, by rw [h]; rfl⟩
  split
  · next h => exact Or.inl ⟨'r', rfl, by decide, by rw [h]; rfl⟩
  split
  · next h => exact Or.inl ⟨'t', rfl, by decide, by rw [h]; rfl⟩
  split
  · next h => exact Or.inr (Or.inl ⟨h, rfl⟩)
  · next hquote hslash _ _ _ _ _ h =>
      exact Or.inr (Or.inr ⟨rfl, hquote, hslash, Nat.not_lt.1 h⟩)

/-- A digit of base sixteen, and back. -/
theorem hexDigit_spec :
    ∀ d < 16, hexValue? (Text.hexDigit d) = some d
      ∧ Text.hexDigit d ≠ '"' ∧ Text.hexDigit d ≠ '\\' := by
  decide

/-- The four digits of a small number. -/
theorem hexDigits_four (n : Nat) :
    Text.hexDigits 4 n
      = [Text.hexDigit (n / 16 / 16 / 16 % 16),
          Text.hexDigit (n / 16 / 16 % 16),
         Text.hexDigit (n / 16 % 16), Text.hexDigit (n % 16)] := rfl

-- ========================================================== the lexer

/-- Characters other than a quote and a backslash go on with the token. -/
theorem tokensFrom_plain (done : List Token) (seen : List Char)
    {cs : List Char} (h : ∀ c ∈ cs, c ≠ '"' ∧ c ≠ '\\') (rest : List Char) :
    tokensFrom done (.quotes seen) (cs ++ rest)
      = tokensFrom done (.quotes (cs.reverse ++ seen)) rest := by
  induction cs generalizing seen with
  | nil => rfl
  | cons c cs ih =>
      rw [List.forall_mem_cons] at h
      rw [List.cons_append, tokensFrom]
      simp only [advance, if_neg h.1.1, if_neg h.1.2]
      rw [ih _ h.2, List.reverse_cons, List.append_assoc]
      rfl

/-- A written character is part of the token. -/
theorem tokensFrom_escapeChar (done : List Token) (seen : List Char)
    (c : Char) (rest : List Char) :
    tokensFrom done (.quotes seen) (escapeChar c ++ rest)
      = tokensFrom done (.quotes ((escapeChar c).reverse ++ seen)) rest := by
  have hslash (letter : Char) (more : List Char) :
      tokensFrom done (.quotes seen) ('\\' :: letter :: more)
        = tokensFrom done (.quotes (letter :: '\\' :: seen)) more := rfl
  rcases escapeChar_cases c with ⟨letter, h, -, -⟩ | ⟨-, h⟩ | ⟨h, hc⟩
  · rw [h]
    exact hslash letter rest
  · rw [h, List.cons_append, List.cons_append, hslash]
    have hdigit (d : Nat) :=
      (hexDigit_spec (d % 16) (Nat.mod_lt d (by decide))).2
    rw [tokensFrom_plain]
    · simp
    · rw [hexDigits_four]
      simp [hdigit]
  · rw [h]
    apply tokensFrom_plain
    simpa using ⟨hc.1, hc.2.1⟩

/-- A text as it stands inside quotes. -/
def escaped (s : String) : List Char := s.toList.flatMap escapeChar

theorem quoteThen_eq (s : String) (rest : List Char) :
    quoteThen s rest = '"' :: (escaped s ++ '"' :: rest) := by
  unfold quoteThen escaped
  congr 1
  induction s.toList with
  | nil => rfl
  | cons c cs ih =>
    rw [List.foldr_cons, ih, List.flatMap_cons, List.append_assoc]

theorem tokensFrom_escaped (done : List Token) (seen cs rest : List Char) :
    tokensFrom done (.quotes seen) (cs.flatMap escapeChar ++ rest)
      = tokensFrom done
          (.quotes ((cs.flatMap escapeChar).reverse ++ seen)) rest := by
  induction cs generalizing seen with
  | nil => rfl
  | cons c cs ih =>
      rw [List.flatMap_cons, List.append_assoc, tokensFrom_escapeChar, ih,
        List.reverse_append, List.append_assoc]

/-- A text in quotes is one token. -/
theorem tokensFrom_quoteThen (done : List Token) (s : String)
    (rest : List Char) :
    tokensFrom done .gap (quoteThen s rest)
      = tokensFrom (.quoted (escaped s) :: done) .gap rest := by
  rw [quoteThen_eq]
  show tokensFrom done (.quotes []) (escaped s ++ '"' :: rest) = _
  unfold escaped
  rw [tokensFrom_escaped, List.append_nil]
  show tokensFrom (.quoted (s.toList.flatMap escapeChar).reverse.reverse
    :: done) .gap rest = _
  rw [List.reverse_reverse]

-- ========================================================= the escapes

theorem pieces_short {letter c : Char} (hletter : letter ≠ 'u')
    (h : shortEscape? letter = some c) (rest : List Char) :
    pieces ('\\' :: letter :: rest)
      = (pieces rest).map (Piece.char c :: ·) := by
  rw [pieces.eq_3]
  · rw [h]
    cases pieces rest <;> rfl
  · intro _ _ _ _ _ hu
    exact absurd hu hletter

theorem pieces_number {a b c d : Char} {n : Nat}
    (h : hexQuad? a b c d = some n) (rest : List Char) :
    pieces ('\\' :: 'u' :: a :: b :: c :: d :: rest)
      = (pieces rest).map (Piece.unit n :: ·) := by
  rw [pieces, h]
  cases pieces rest <;> rfl

theorem pieces_plain {c : Char} (hslash : c ≠ '\\') (hc : 0x20 ≤ c.toNat)
    (rest : List Char) :
    pieces (c :: rest) = (pieces rest).map (Piece.char c :: ·) := by
  rw [pieces.eq_4]
  · simp only [hslash, decide_false, Bool.false_or, decide_eq_true_eq,
      if_neg (Nat.not_lt.2 hc)]
    cases pieces rest <;> rfl
  · intro _ _ _ _ _ h
    exact absurd h hslash
  · intro _ _ h
    exact absurd h hslash

theorem hexQuad?_hexDigits {n : Nat} (h : n < 0x10000) :
    hexQuad? (Text.hexDigit (n / 16 / 16 / 16 % 16))
        (Text.hexDigit (n / 16 / 16 % 16)) (Text.hexDigit (n / 16 % 16))
        (Text.hexDigit (n % 16)) = some n := by
  have hdigit (d : Nat) :=
    (hexDigit_spec (d % 16) (Nat.mod_lt d (by decide))).1
  unfold hexQuad?
  simp only [hdigit]
  show some _ = some n
  congr 1
  omega

/-- What is written in the place of a character. -/
def pieceOf (c : Char) : Piece :=
  if escapeChar c = '\\' :: 'u' :: Text.hexDigits 4 c.toNat then .unit c.toNat
  else .char c

theorem pieces_escapeChar (c : Char) (rest : List Char) :
    pieces (escapeChar c ++ rest) = (pieces rest).map (pieceOf c :: ·) := by
  unfold pieceOf
  rcases escapeChar_cases c with
    ⟨letter, h, hletter, hshort⟩ | ⟨hc, h⟩ | ⟨h, -, hslash, hc⟩
  · rw [if_neg (by simp [h, hexDigits_four]), h]
    exact pieces_short hletter hshort rest
  · rw [if_pos h, h, hexDigits_four]
    exact pieces_number (hexQuad?_hexDigits (by omega)) rest
  · rw [if_neg (by simp [h]), h]
    exact pieces_plain hslash hc rest

theorem charsOf?_char (tolerance : Tolerance) (c : Char)
    (rest : List Piece) :
    charsOf? tolerance (.char c :: rest)
      = (charsOf? tolerance rest).map (c :: ·) := by
  rw [charsOf?]

/-- A code unit that is no half of a pair is a character. -/
theorem charsOf?_unit (tolerance : Tolerance) {n : Nat} (h : n < 0xD800)
    (rest : List Piece) :
    charsOf? tolerance (.unit n :: rest)
      = (charsOf? tolerance rest).map (Char.ofNat n :: ·) := by
  have hhigh : isHighSurrogate n = false := by
    simp [isHighSurrogate, Nat.not_le.2 h]
  have hlow : isLowSurrogate n = false := by
    simp [isLowSurrogate, show ¬ 0xDC00 ≤ n by omega]
  have hchar : unitChar? tolerance n = some (Char.ofNat n) := by
    simp [unitChar?, hhigh, hlow]
  rcases rest with _ | ⟨piece, rest⟩
  · simp [charsOf?, hchar]
  · cases piece with
    | char c =>
        simp only [charsOf?, hchar]
        cases charsOf? tolerance rest <;> rfl
    | unit low =>
        rw [charsOf?]
        simp only [hhigh, Bool.false_and, Bool.false_eq_true, if_false, hchar]
        cases charsOf? tolerance (.unit low :: rest) <;> rfl

theorem charsOf?_pieceOf (tolerance : Tolerance) (c : Char)
    (rest : List Piece) :
    charsOf? tolerance (pieceOf c :: rest)
      = (charsOf? tolerance rest).map (c :: ·) := by
  unfold pieceOf
  rcases escapeChar_cases c with
    ⟨letter, h, -, -⟩ | ⟨hc, h⟩ | ⟨h, -, -, -⟩
  · rw [if_neg (by simp [h, hexDigits_four]), charsOf?_char]
  · rw [if_pos h, charsOf?_unit tolerance (by omega), Char.ofNat_toNat]
  · rw [if_neg (by simp [h]), charsOf?_char]

/-- Reading the escapes of a written text gives the text. -/
theorem unescape_escaped (tolerance : Tolerance) (s : String) :
    unescape tolerance (escaped s) = some s := by
  have hpieces : ∀ cs : List Char,
      pieces (cs.flatMap escapeChar) = some (cs.map pieceOf) := by
    intro cs
    induction cs with
    | nil => rfl
    | cons c cs ih =>
        rw [List.flatMap_cons, pieces_escapeChar, ih]
        rfl
  have hchars : ∀ cs : List Char,
      charsOf? tolerance (cs.map pieceOf) = some cs := by
    intro cs
    induction cs with
    | nil => rfl
    | cons c cs ih =>
        rw [List.map_cons, charsOf?_pieceOf, ih]
        rfl
  unfold unescape escaped
  rw [hpieces]
  show (charsOf? tolerance _).bind _ = _
  rw [hchars]
  exact congrArg some String.ofList_toList

-- ======================================================= line breaks

/-- A text in quotes holds no carriage return. -/
theorem return_not_mem_escaped (s : String) : '\r' ∉ escaped s := by
  intro h
  obtain ⟨c, -, hc⟩ := List.mem_flatMap.1 h
  rcases escapeChar_cases c with
    ⟨letter, hescape, -, hshort⟩ | ⟨-, hescape⟩ | ⟨hescape, -, -, hprints⟩
  · rw [hescape] at hc
    rcases List.mem_cons.1 hc with hc | hc
    · cases hc
    · rw [← List.mem_singleton.1 hc] at hshort
      cases hshort
  · have hdigit (d : Nat) : '\r' ≠ Text.hexDigit (d % 16) := by
      have hall : ∀ d < 16, '\r' ≠ Text.hexDigit d := by decide
      exact hall _ (Nat.mod_lt d (by decide))
    rw [hescape, hexDigits_four] at hc
    simp [hdigit] at hc
  · rw [hescape, List.mem_singleton] at hc
    rw [← hc] at hprints
    exact absurd hprints (by decide)

end Storyline.Json
