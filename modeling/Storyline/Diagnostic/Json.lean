/-
Reports as JSON.
-/
import Storyline.Diagnostic
import Storyline.Json.Checked

namespace Storyline.Diagnostic

/-- Reads a level, which has to be one of the three names. -/
def Level.ofJson : Json → Checked Level
  | .string s =>
    match ofText? s with
    | some level => .valid level
    | none => .flaw .literalError
  | _ => .flaw .literalError

/-- The members of a report. -/
def memberNames : List String :=
  ["level", "code", "message", "document", "row_number"]

/-- Reads a report. -/
def ofJson : Json → Checked Diagnostic :=
  Json.strictObject memberNames fun members =>
    (Checked.valid Diagnostic.mk)
      |>.ap (Json.required members "level" Level.ofJson)
      |>.ap (Json.required members "code" Json.readString)
      |>.ap (Json.required members "message" Json.readString)
      |>.ap (Json.optional members "document"
        (Json.readNullable Json.readString) none)
      |>.ap (Json.optional members "row_number"
        (Json.readNullable Json.readInt) none)

/-- Writes a report. -/
def toJson (d : Diagnostic) : Json :=
  .object
    [("level", .string d.level.text),
     ("code", .string d.code),
     ("message", .string d.message),
     ("document", Json.ofOption .string d.document),
     ("row_number", Json.ofOption .integer d.rowNumber)]

end Storyline.Diagnostic
