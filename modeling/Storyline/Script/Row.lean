/-
A row of a story sheet: one line of dialogue, or one option of a menu,
with where it leads and what is staged while it is shown. A row means
something when its text, its key, its links, one of its resources or its
speaker is filled in; the other columns alone do not make a row.
-/
import Storyline.Numeral
import Storyline.Sheet.Table

-- ======================================================== the actors

namespace Storyline.Actor

/-- The player, who also speaks every option of a menu. -/
def player : Int := 1

/-- Whom the player faces when no character of the story speaks. -/
def defaultCounterpart : Int := 2

/-- The narrator. -/
def narrator : Int := 7

/-- Marks a row as an option of the menu before it. -/
def option : Int := 99

/-- An actor who is no character of the story. -/
def isReserved (actor : Int) : Bool :=
  actor = player || actor = narrator || actor = option

/-- An actor who speaks to the counterpart: the player and the narrator. -/
def facesCounterpart (actor : Int) : Bool := actor = player || actor = narrator

end Storyline.Actor

namespace Storyline.Script

-- ========================================================== the row

/-- A row of a story sheet. -/
structure Row where
  rowNumber : Int
  speaker : String
  text : String
  nodeKey : String
  linkTargets : List String
  choiceGroup : String
  background : String
  music : String
  soundEffect : String
  expression : String
  sequence : String
  autoProgressLocked : String
  standingLeft : String
  standingCenter : String
  standingRight : String
deriving DecidableEq, Repr

namespace Row

/-- Whether the row becomes a node. -/
def isMeaningful (row : Row) : Bool :=
  !(Text.isBlank row.text && Text.isBlank row.nodeKey
    && row.linkTargets.all Text.isBlank
    && Text.isBlank row.background && Text.isBlank row.music
    && Text.isBlank row.soundEffect
    && Text.isBlank row.sequence && Text.isBlank row.speaker)

/-- What the speaker cell says. -/
def spoken (row : Row) : Numeral.Reading := Numeral.read row.speaker

/-- Whether the row is an option of a menu. -/
def isOption (row : Row) : Bool := row.spoken = .integer Actor.option

/-- Whether the row is an option of a menu, where a number that is too long is
refused. -/
def isOption? (row : Row) : Except Error Bool :=
  match row.spoken with
  | .tooLong digits => .error (.longNumeral digits)
  | .integer _ | .notInteger => .ok row.isOption

/-- The three places on the stage with what stands there. -/
def standingSlots (row : Row) : List (String × String) :=
  [("Left", row.standingLeft), ("Center", row.standingCenter),
   ("Right", row.standingRight)]

end Row

-- ============================================================ cells

/-- Replaces a backslash and the letter by another character. -/
def unescapePair (letter replacement : Char) : List Char → List Char
  | '\\' :: c :: cs =>
    if c = letter then replacement :: unescapePair letter replacement cs
    else '\\' :: unescapePair letter replacement (c :: cs)
  | c :: cs => c :: unescapePair letter replacement cs
  | [] => []

/-- The spoken text of a cell: written line breaks become line breaks, and
whitespace at the end is dropped. -/
def dialogueChars (cs : List Char) : List Char :=
  Text.dropEnd Text.isBlankChar
    (unescapePair 'r' '\r' (unescapePair 'n' '\n' cs))

/-- The spoken text of a cell. -/
def dialogueOf (cell : String) : String :=
  String.ofList (dialogueChars cell.toList)

/-- The three signs that set link targets apart. -/
def isTargetSeparator (c : Char) : Bool := c = '|' || c = ';' || c = ','

/-- Cuts at every character of a class; the piece being read is held last
first. -/
def cutFrom (p : Char → Bool) (piece : List Char) :
    List Char → List (List Char)
  | [] => [piece.reverse]
  | c :: cs =>
    if p c then piece.reverse :: cutFrom p [] cs
    else cutFrom p (c :: piece) cs

/-- The link targets of a cell: trimmed, empty ones left out. -/
def targetChars (cs : List Char) : List (List Char) :=
  ((cutFrom isTargetSeparator [] cs).map Text.trimChars).filter (· ≠ [])

/-- The link targets of a cell. -/
def targetsOf (cell : String) : List String :=
  (targetChars cell.toList).map String.ofList

-- =========================================================== sheets

/-- The columns of a story sheet. -/
def columns : List String :=
  ["Actor", "DialogueText", "NodeID", "LinkToID", "ChoiceGroup", "BG", "BGM",
   "SFX", "Expression", "Sequence", "AutoProgressLocked", "StandingLeft",
   "StandingCenter", "StandingRight"]

/-- Where the columns of a story sheet stand. -/
structure Places where
  speaker : Option Nat
  text : Option Nat
  nodeKey : Option Nat
  linkTargets : Option Nat
  choiceGroup : Option Nat
  background : Option Nat
  music : Option Nat
  soundEffect : Option Nat
  expression : Option Nat
  sequence : Option Nat
  autoProgressLocked : Option Nat
  standingLeft : Option Nat
  standingCenter : Option Nat
  standingRight : Option Nat
deriving DecidableEq, Repr

/-- The places that a header gives to the columns. -/
def Places.ofHeader (header : Header) : Places where
  speaker := header.position? "Actor"
  text := header.position? "DialogueText"
  nodeKey := header.position? "NodeID"
  linkTargets := header.position? "LinkToID"
  choiceGroup := header.position? "ChoiceGroup"
  background := header.position? "BG"
  music := header.position? "BGM"
  soundEffect := header.position? "SFX"
  expression := header.position? "Expression"
  sequence := header.position? "Sequence"
  autoProgressLocked := header.position? "AutoProgressLocked"
  standingLeft := header.position? "StandingLeft"
  standingCenter := header.position? "StandingCenter"
  standingRight := header.position? "StandingRight"

/-- The row in a record of a story sheet. -/
def Row.ofRecord (places : Places) (record : List String) (rowNumber : Int) :
    Row :=
  let cell (place : Option Nat) : String :=
    Text.trim (Header.fieldAt record place)
  { rowNumber
    speaker := cell places.speaker
    text := dialogueOf (Header.fieldAt record places.text)
    nodeKey := cell places.nodeKey
    linkTargets := targetsOf (cell places.linkTargets)
    choiceGroup := cell places.choiceGroup
    background := cell places.background
    music := cell places.music
    soundEffect := cell places.soundEffect
    expression := cell places.expression
    sequence := cell places.sequence
    autoProgressLocked := cell places.autoProgressLocked
    standingLeft := cell places.standingLeft
    standingCenter := cell places.standingCenter
    standingRight := cell places.standingRight }

/-- The rows in the records from a number on; blank records are counted and
left out. -/
def rowsFrom (places : Places) (rowNumber : Int) :
    List (List String) → List Row
  | [] => []
  | record :: records =>
    let rest := rowsFrom places (rowNumber + 1) records
    if record.all Text.isBlank then rest
    else Row.ofRecord places record rowNumber :: rest

/-- The rows of a story sheet, numbered from one. -/
def rowsOfTable (table : Table) : List Row :=
  rowsFrom (Places.ofHeader table.header) 1 table.rows

/-- The rows in a file. -/
def loadRows (tree : FileTree) (format : Sheet.Format) (required : List String)
    (path : Path) : Except Error (List Row) := do
  return rowsOfTable (← Table.read tree format path required)

end Storyline.Script
