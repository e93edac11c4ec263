/-
The tokens of a JSON text. A text in quotes is one token, held as it is
written; every other run of characters between blanks, brackets and
separators is a word, and which words mean something is decided later.
Every text has tokens, also one that ends inside quotes.
-/

namespace Storyline.Json

-- ======================================================== the tokens

/-- The six signs that hold a document together. -/
inductive Sign where
  | openArray
  | closeArray
  | openObject
  | closeObject
  | colon
  | comma
deriving DecidableEq, Repr

/-- A token: a sign, a quoted text without its quotes and with its escapes, one
whose second quote is missing, or a word. -/
inductive Token where
  | sign (s : Sign)
  | quoted (raw : List Char)
  | unclosed (raw : List Char)
  | word (cs : List Char)
deriving DecidableEq, Repr

/-- The sign that a character stands for. -/
def sign? : Char → Option Sign
  | '[' => some .openArray
  | ']' => some .closeArray
  | '\x7b' => some .openObject
  | '\x7d' => some .closeObject
  | ':' => some .colon
  | ',' => some .comma
  | _ => none

/-- The four characters that may stand between tokens. -/
def isJsonBlank (c : Char) : Bool :=
  c = ' ' || c = '\t' || c = '\n' || c = '\r'

-- ========================================================= the lexer

/-- What the lexer is in the middle of; the characters of a token are held last
first. -/
inductive Within where
  | gap
  | word (seen : List Char)
  | quotes (seen : List Char)
  | escape (seen : List Char)

/-- What a character begins when no token is open: the tokens it completes, and
what is open then. -/
def start (c : Char) (done : List Token) : List Token × Within :=
  if c = '"' then (done, .quotes [])
  else
    match sign? c with
    | some s => (.sign s :: done, .gap)
    | none => if isJsonBlank c then (done, .gap) else (done, .word [c])

/-- Goes on with the next character. -/
def advance (done : List Token) (c : Char) : Within → List Token × Within
  | .gap => start c done
  | .word seen =>
    if c = '"' || (sign? c).isSome || isJsonBlank c then
      start c (.word seen.reverse :: done)
    else (done, .word (c :: seen))
  | .quotes seen =>
    if c = '"' then (.quoted seen.reverse :: done, .gap)
    else if c = '\\' then (done, .escape (c :: seen))
    else (done, .quotes (c :: seen))
  | .escape seen => (done, .quotes (c :: seen))

/-- The token that is still open at the end of a text. -/
def Within.close : Within → List Token
  | .gap => []
  | .word seen => [.word seen.reverse]
  | .quotes seen | .escape seen => [.unclosed seen.reverse]

/-- The tokens of the rest of a text. -/
def tokensFrom (done : List Token) (within : Within) : List Char → List Token
  | [] => done.reverse ++ within.close
  | c :: cs =>
    let (done, within) := advance done c within
    tokensFrom done within cs

/-- The tokens of a text. -/
def tokens (cs : List Char) : List Token := tokensFrom [] .gap cs

end Storyline.Json
