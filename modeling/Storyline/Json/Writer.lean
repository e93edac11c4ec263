/-
Writing a JSON document, either without any blanks or with every item on
a line of its own and two spaces for each level. An empty container is a
pair of brackets in both. Doubles that are no numbers become null.

Texts are written from their end: every function takes what follows its
own text and puts that text in front, so nothing is copied twice.
-/
import Storyline.Json
import Storyline.Double.Shortest
import Storyline.Text.Quoted

namespace Storyline.Json

-- =========================================================== scalars

/-- A character inside quotes: the two that end or escape something and the
control characters are escaped, all others stand as they are. -/
def escapeChar (c : Char) : List Char :=
  if c = '"' then ['\\', '"']
  else if c = '\\' then ['\\', '\\']
  else if c = '\x08' then ['\\', 'b']
  else if c = '\x0c' then ['\\', 'f']
  else if c = '\n' then ['\\', 'n']
  else if c = '\r' then ['\\', 'r']
  else if c = '\t' then ['\\', 't']
  else if c.toNat < 0x20 then '\\' :: 'u' :: Text.hexDigits 4 c.toNat
  else [c]

/-- A text in quotes, in front of more. -/
def quoteThen (s : String) (rest : List Char) : List Char :=
  '"' :: s.toList.foldr (fun c cs => escapeChar c ++ cs) ('"' :: rest)

/-- A double as text. -/
def doubleChars : Double → List Char
  | .finite negative significand exponent =>
    Double.finiteChars negative significand exponent
  | .infinite _ | .nan => "null".toList

-- ============================================================ layout

/-- How items are set apart: what stands in front of an item at a depth, and
after a name. -/
structure Layout where
  lineBreak : (depth : Nat) → List Char
  afterName : List Char

/-- No blanks at all. -/
def Layout.compact : Layout := ⟨fun _ => [], [':']⟩

/-- One item a line, two spaces a level. -/
def Layout.indented : Layout :=
  ⟨fun depth => '\n' :: List.replicate (2 * depth) ' ', [':', ' ']⟩

mutual

/-- The text of a value at a depth, in front of more. -/
def charsThen (layout : Layout) (depth : Nat) : Json → List Char → List Char
  | .null, rest => "null".toList ++ rest
  | .bool true, rest => "true".toList ++ rest
  | .bool false, rest => "false".toList ++ rest
  | .integer z, rest => Numeral.intChars z ++ rest
  | .double d, rest => doubleChars d ++ rest
  | .string s, rest => quoteThen s rest
  | .array [], rest => '[' :: ']' :: rest
  | .array (first :: items), rest =>
    '[' :: (layout.lineBreak (depth + 1) ++ charsThen layout (depth + 1) first
      (itemsThen layout (depth + 1) items
        (layout.lineBreak depth ++ ']' :: rest)))
  | .object [], rest => '\x7b' :: '\x7d' :: rest
  | .object ((name, value) :: members), rest =>
    '\x7b' :: (layout.lineBreak (depth + 1) ++ quoteThen name (layout.afterName
      ++ charsThen layout (depth + 1) value
        (membersThen layout (depth + 1) members
          (layout.lineBreak depth ++ '\x7d' :: rest))))

/-- The items after the first one, in front of more. -/
def itemsThen (layout : Layout) (depth : Nat) :
    List Json → List Char → List Char
  | [], rest => rest
  | item :: items, rest =>
    ',' :: (layout.lineBreak depth ++ charsThen layout depth item
      (itemsThen layout depth items rest))

/-- The members after the first one, in front of more. -/
def membersThen (layout : Layout) (depth : Nat) :
    List (String × Json) → List Char → List Char
  | [], rest => rest
  | (name, value) :: members, rest =>
    ',' :: (layout.lineBreak depth ++ quoteThen name (layout.afterName
      ++ charsThen layout depth value (membersThen layout depth members rest)))

end

/-- The text of a document. -/
def chars (layout : Layout) (json : Json) : List Char :=
  charsThen layout 0 json []

/-- The document on one line. -/
def compact (json : Json) : String := String.ofList (chars .compact json)

/-- The document with one item a line. -/
def indented (json : Json) : String := String.ofList (chars .indented json)

end Storyline.Json
