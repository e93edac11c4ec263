/-
Documents in JSON: an ordered tree. Members keep the order in which they
were written, because files are written in that order again. A name may
be repeated until the document is settled. Whole numbers have any size;
numbers with a fraction or an exponent are doubles.
-/
import Storyline.Dict
import Storyline.Double

namespace Storyline

/-- A JSON value. -/
inductive Json where
  | null
  | bool (value : Bool)
  | integer (value : Int)
  | double (value : Double)
  | string (value : String)
  | array (items : List Json)
  | object (members : List (String × Json))
deriving Inhabited

namespace Json

/-- A value that may be absent, which is null then. -/
def ofOption (write : α → Json) : Option α → Json
  | none => .null
  | some a => write a

-- ==================================================== repeated names

mutual

/-- The document with its objects settled: of several members with one name the
last value counts, in the place of the first. -/
def settled : Json → Json
  | .array items => .array (settledItems items)
  | .object members => .object (Dict.settle (settledMembers members))
  | .null => .null
  | .bool value => .bool value
  | .integer value => .integer value
  | .double value => .double value
  | .string value => .string value

/-- The items of an array, each of them settled. -/
def settledItems : List Json → List Json
  | [] => []
  | item :: rest => settled item :: settledItems rest

/-- The members of an object, the value of each settled. -/
def settledMembers : List (String × Json) → List (String × Json)
  | [] => []
  | (name, value) :: rest => (name, settled value) :: settledMembers rest

end

end Json

end Storyline
