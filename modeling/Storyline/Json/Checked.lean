/-
Reading values of a model out of JSON. A value is checked as a whole:
what is wrong with its fields is collected in the order in which the
fields are declared, and members that no field declares come last. Of a
field that is given twice the last value counts; a dictionary is checked
with all its entries, also those that others replace.
-/
import Storyline.Dict
import Storyline.Error
import Storyline.Json
import Storyline.Json.NumberText
import Storyline.Text.Lower

namespace Storyline

/-- A value, or all that is wrong with it. -/
inductive Checked (α : Type) where
  | valid (value : α)
  | flawed (issues : List Issue)

namespace Checked

-- ======================================================= combinators

/-- One flaw of the value itself. -/
def flaw (f : Flaw) : Checked α := .flawed [⟨[], f⟩]

/-- Applies a checked function to a checked value, with the flaws of both. -/
def ap : Checked (α → β) → Checked α → Checked β
  | .valid f, .valid a => .valid (f a)
  | .valid _, .flawed issues => .flawed issues
  | .flawed issues, .valid _ => .flawed issues
  | .flawed first, .flawed second => .flawed (first ++ second)

/-- Changes a valid value. -/
def map (f : α → β) : Checked α → Checked β
  | .valid a => .valid (f a)
  | .flawed issues => .flawed issues

/-- Goes on with a valid value. -/
def bind (f : α → Checked β) : Checked α → Checked β
  | .valid a => f a
  | .flawed issues => .flawed issues

/-- Checks a second thing that adds nothing to the value. -/
def also (value : Checked α) (other : Checked Unit) : Checked α :=
  ap (value.map fun a _ => a) other

/-- The value of a part, its flaws seen from the whole. -/
def under (step : Step) : Checked α → Checked α
  | .valid a => .valid a
  | .flawed issues =>
    .flawed (issues.map fun i => { i with location := step :: i.location })

/-- The valid value, or an error. -/
def toExcept : Checked α → Except Error α
  | .valid a => .ok a
  | .flawed issues => .error (.invalid issues)

@[simp] theorem ap_valid (f : α → β) (a : α) :
    ap (.valid f) (.valid a) = .valid (f a) := rfl

@[simp] theorem under_valid (step : Step) (a : α) :
    under step (.valid a) = .valid a := rfl

@[simp] theorem also_valid (a : α) :
    also (.valid a) (.valid ()) = .valid a := rfl

end Checked

namespace Json

-- =========================================================== objects

/-- The members of an object. -/
abbrev Members := List (String × Json)

/-- A member that has to be there. -/
def required (members : Members) (name : String) (read : Json → Checked α) :
    Checked α :=
  Checked.under (.member name)
    (match members.lookup name with
      | none => .flaw .missing
      | some value => read value)

/-- A member that may be left out. -/
def optional (members : Members) (name : String) (read : Json → Checked α)
    (default : α) :
    Checked α :=
  match members.lookup name with
  | none => .valid default
  | some value => (read value).under (.member name)

/-- Every member that is not declared is a flaw. -/
def noOthers (declared : List String) (members : Members) : Checked Unit :=
  match members.filter fun member => !declared.contains member.1 with
  | [] => .valid ()
  | others =>
    .flawed (others.map fun member => ⟨[.member member.1], .extraForbidden⟩)

/-- Reads an object whose members are all declared. -/
def strictObject (declared : List String) (read : Members → Checked α) :
    Json → Checked α
  | .object members =>
    let members := Dict.settle members
    (read members).also (noOthers declared members)
  | _ => .flaw .modelType

/-- Reads an object that may have other members as well. -/
def openObject (read : Members → Checked α) : Json → Checked α
  | .object members => read (Dict.settle members)
  | _ => .flaw .modelType

-- ============================================================= lists

/-- Checks items from a position on. -/
def itemsFrom (read : Json → Checked α) (index : Nat) :
    List Json → Checked (List α)
  | [] => .valid []
  | item :: rest =>
    (((read item).under (.element index)).map List.cons).ap
      (itemsFrom read (index + 1) rest)

/-- Reads a list. -/
def readList (read : Json → Checked α) : Json → Checked (List α)
  | .array items => itemsFrom read 0 items
  | _ => .flaw .listType

/-- Checks the values of a dictionary. -/
def entries (read : Json → Checked α) : Members → Checked (List (String × α))
  | [] => .valid []
  | (name, value) :: rest =>
    (((read value).under (.member name)).map fun a => List.cons (name, a)).ap
      (entries read rest)

/-- Reads a dictionary, in the order of its members. -/
def readDict (read : Json → Checked α) : Json → Checked (List (String × α))
  | .object members => (entries read members).map Dict.settle
  | _ => .flaw .dictType

/-- Reads any value at all. -/
def readAny (json : Json) : Checked Json := .valid json.settled

-- =========================================================== strings

/-- Reads a string. -/
def readString : Json → Checked String
  | .string s => .valid s
  | _ => .flaw .stringType

/-- Reads a string that is not empty. -/
def readFilled (json : Json) : Checked String :=
  (readString json).bind fun s =>
    if s = "" then .flaw .stringTooShort else .valid s

/-- Reads null or another value. -/
def readNullable (read : Json → Checked α) : Json → Checked (Option α)
  | .null => .valid none
  | json => (read json).map some

/-- Reads a path. -/
def readPath : Json → Checked Path
  | .string s => .valid (Path.ofString s)
  | _ => .flaw .pathType

-- ===================================================== whole numbers

/-- Reads a whole number out of a string. -/
def readNumberText (s : String) : Checked Int :=
  if NumberText.isOverlong s.toList then .flaw .intParsingSize
  else
    match NumberText.read? s.toList with
    | some z => .valid z
    | none => .flaw .intParsing

/-- Two to the power of 63, where the range of 64 bits with a sign ends. -/
def bound64 : Int := 0x8000000000000000

/-- Whether a whole number lies between the ends of the range of 64 bits. -/
def isInside64 (z : Int) : Bool := -bound64 < z && z < bound64

/-- Reads a whole number out of a double. -/
def readDouble (d : Double) : Checked Int :=
  match d with
  | .infinite _ | .nan => .flaw .finiteNumber
  | .finite _ _ _ =>
    match d.toInt? with
    | none => .flaw .intFromFloat
    | some z => if isInside64 z then .valid z else .flaw .intParsingSize

/-- Reads a whole number: also as a double without a fraction, as a truth value
or as text. -/
def readInt : Json → Checked Int
  | .integer z => .valid z
  | .double d => readDouble d
  | .bool b => .valid (if b then 1 else 0)
  | .string s => readNumberText s
  | _ => .flaw .intType

/-- Reads a whole number that is not below a bound. -/
def readAtLeast (bound : Int) (json : Json) : Checked Int :=
  (readInt json).bind fun z =>
    if z < bound then .flaw .greaterThanEqual else .valid z

-- ====================================================== truth values

/-- The words for yes, in small letters. -/
def yesWords : List String := ["1", "on", "t", "true", "y", "yes"]

/-- The words for no, in small letters. -/
def noWords : List String := ["0", "off", "f", "false", "n", "no"]

/-- Reads a truth value out of a word, in any case. -/
def readBoolText (s : String) : Checked Bool :=
  let word := String.ofList (s.toList.map (·.toLower))
  if yesWords.contains word then .valid true
  else if noWords.contains word then .valid false
  else .flaw .boolParsing

/-- Reads a truth value out of a whole number. One beyond 64 bits is of a wrong
type. -/
def readBoolNumber (z : Int) : Checked Bool :=
  if z = 1 then .valid true
  else if z = 0 then .valid false
  else if isInside64 z || z = -bound64 then .flaw .boolParsing
  else .flaw .boolType

/-- Reads a truth value: also as one, as zero or as a word. -/
def readBool : Json → Checked Bool
  | .bool b => .valid b
  | .integer z => readBoolNumber z
  | .double d =>
    match d.toInt? with
    | some z => if isInside64 z then readBoolNumber z else .flaw .boolType
    | none => .flaw .boolType
  | .string s => readBoolText s
  | _ => .flaw .boolType

end Json

end Storyline
