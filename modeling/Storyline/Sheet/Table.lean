/-
Sheets as tables: reading a file, finding the required columns, and the
three kinds of resource sheets. Rows that are too short to have all
required columns are passed over.
-/
import Storyline.FileTree
import Storyline.Sheet.Header
import Storyline.Sheet.Record
import Storyline.Text.Encoding

namespace Storyline.Sheet

-- ========================================================== reading

/-- How sheets are stored. -/
structure Format where
  separator : String
  encoding : String
deriving DecidableEq, Repr

/-- The text in the bytes of a sheet. -/
def decodeText (encoding : String) (path : Path) (bytes : List UInt8) :
    Except Error String :=
  match Text.Encoding.ofName? encoding with
  | none => .error (.unknownEncoding encoding)
  | some known =>
    match known.decode bytes with
    | .text cs => .ok (String.ofList (Text.unifyBreaks cs))
    | .malformed =>
      .error (.sourceNotFound path.text (some ("not valid " ++ encoding)))
    | .unmarked => .error .missingByteOrder

/-- The text of a sheet. What the author of the sheet can mend is an error
about the sheet. -/
def readText (tree : FileTree) (encoding : String) (path : Path) :
    Except Error String :=
  if encoding.toList.contains '\x00' then .error .nullInEncoding
  else
    match tree.read path with
    | .error (.noSuchFile _) => .error (.sourceNotFound path.text none)
    | .error (.isDirectory _) =>
      .error (.sourceNotFound path.text (some "path is a directory"))
    | .error e => .error e
    | .ok bytes => decodeText encoding path bytes

/-- The records of a sheet. -/
def readRecords (tree : FileTree) (format : Format) (path : Path) :
    Except Error (List (List String)) := do
  records format.separator (← readText tree format.encoding path)

end Sheet

-- =========================================================== tables

/-- A sheet whose header has the columns that are required of it. -/
structure Table where
  header : Header
  positions : List Nat
  rows : List (List String)
deriving DecidableEq, Repr

namespace Table

/-- The table in the records of a sheet. -/
def ofRecords (path : Path) (required : List String) :
    List (List String) → Except Error Table
  | [] =>
    match required with
    | [] => .error .emptySheet
    | column :: _ =>
      .error (.malformedHeader path.text column (some "sheet is empty"))
  | first :: rows => do
    let header := Header.ofRecord first
    return ⟨header, ← header.require path.text required, rows⟩

/-- The table in a file. -/
def read (tree : FileTree) (format : Sheet.Format) (path : Path)
    (required : List String) :
    Except Error Table := do
  ofRecords path required (← Sheet.readRecords tree format path)

/-- The fields of a row in the required columns; none when the row is too
short. -/
def required? (table : Table) (row : List String) : Option (List String) :=
  table.positions.mapM (row[·]?)

/-- The required fields of the rows that have them all. -/
def requiredRows (table : Table) : List (List String) :=
  table.rows.filterMap table.required?

end Table

-- ================================================== resource sheets

/-- A row of a sheet with an id and one value. -/
structure KeyedRow where
  id : String
  value : String
deriving DecidableEq, Repr

/-- A row of the sheet of standing poses. -/
structure StandingRow where
  actorId : String
  expression : String
  resourcePath : String
deriving DecidableEq, Repr

namespace Sheet

/-- The actors in rows of an id and a name. Rows whose id is no number are
passed over. -/
def actorsOfRows : List (List String) → Except Error (List (Int × String))
  | [] => .ok []
  | [id, name] :: rows =>
    match Numeral.read id with
    | .tooLong digits => .error (.longNumeral digits)
    | .notInteger => actorsOfRows rows
    | .integer z => do return (z, Text.trim name) :: (← actorsOfRows rows)
  | _ :: rows => actorsOfRows rows

/-- The row with an id and a value. -/
def keyedRow? : List String → Option KeyedRow
  | [id, value] => some ⟨Text.trim id, Text.trim value⟩
  | _ => none

/-- The row of a standing pose, unless all of it is blank. -/
def standingRow? : List String → Option StandingRow
  | [actorId, expression, resourcePath] =>
    let row : StandingRow :=
      ⟨Text.trim actorId, Text.trim expression, Text.trim resourcePath⟩
    if row.actorId = "" && row.expression = "" && row.resourcePath = "" then
      none
    else some row
  | _ => none

/-- The columns of the actor sheet. -/
def actorColumns : List String := ["id", "displayName"]

/-- The columns of the sheet of standing poses. -/
def standingColumns : List String := ["actorId", "expression", "resourcePath"]

/-- The actors of a sheet, in the order of their rows. -/
def loadActors (tree : FileTree) (format : Format) (path : Path) :
    Except Error (List (Int × String)) := do
  actorsOfRows (← Table.read tree format path actorColumns).requiredRows

/-- The rows of a sheet with an id column and a value column. -/
def loadKeyed (tree : FileTree) (format : Format)
    (keyColumn valueColumn : String)
    (path : Path) : Except Error (List KeyedRow) := do
  let table ← Table.read tree format path [keyColumn, valueColumn]
  return table.requiredRows.filterMap keyedRow?

/-- The rows of a sheet of standing poses. -/
def loadStandings (tree : FileTree) (format : Format) (path : Path) :
    Except Error (List StandingRow) := do
  let table ← Table.read tree format path standingColumns
  return table.requiredRows.filterMap standingRow?

end Sheet

end Storyline
