/-
The header of a sheet: its columns by name. Names are compared without
regard to case, spaces around them and byte order marks do not count, and
of two columns with one name the first is meant.
-/
import Storyline.Error
import Storyline.Text.Lower

namespace Storyline

/-- The columns of a sheet, by their cleaned names. -/
structure Header where
  columns : List String
deriving DecidableEq, Repr

namespace Header

/-- The mark that some programs put in front of a text. -/
def byteOrderMark : Char := '\ufeff'

/-- The name in a header cell: marks at its ends go first, then spaces. -/
def cleanCell (cell : String) : String :=
  String.ofList
    (Text.trimChars (Text.dropEnds (· = byteOrderMark) cell.toList))

/-- The header in a record. -/
def ofRecord (record : List String) : Header := ⟨record.map cleanCell⟩

/-- Where a column stands. A column without a name cannot be asked for. -/
def position? (header : Header) (column : String) : Option Nat :=
  let key := Text.lower column
  header.columns.findIdx? fun name => name ≠ "" && Text.lower name = key

/-- Where several columns stand, or the first of them that is missing from the
sheet. -/
def require (header : Header) (path : String) :
    List String → Except Error (List Nat)
  | [] => .ok []
  | column :: rest =>
    match header.position? column with
    | none => .error (.malformedHeader path column none)
    | some position => do return position :: (← require header path rest)

/-- The field of a record at the position of a column; what a record does not
have is empty. -/
def fieldAt (record : List String) (position : Option Nat) : String :=
  match position with
  | none => ""
  | some n => record[n]?.getD ""

/-- The field of a record in a column. -/
def field (header : Header) (record : List String) (column : String) :
    String :=
  fieldAt record (header.position? column)

end Header

end Storyline
