/-
The records of a sheet. A sheet is text in lines; a quoted field may hold
the separator and line breaks, and a doubled quote inside it is one
quote. Lines are grouped into records first, by the parity of their
quotes, and each record is cut into fields afterwards. A quote that is
never closed runs to the end.
-/
import Storyline.Error

namespace Storyline.Sheet

-- ============================================================ lines

/-- The lines of the rest of a text; the line being read is held last first. -/
def linesFrom (line : List Char) : List Char → List (List Char)
  | [] => [line.reverse]
  | '\r' :: '\n' :: cs => line.reverse :: linesFrom [] cs
  | '\r' :: cs => line.reverse :: linesFrom [] cs
  | '\n' :: cs => line.reverse :: linesFrom [] cs
  | c :: cs => linesFrom (c :: line) cs

/-- The list without an empty line at its end. -/
def dropFinalEmpty (lines : List (List Char)) : List (List Char) :=
  if lines.getLast? = some [] then lines.dropLast else lines

/-- The lines of a text; the break at the end of the last line begins no
other. -/
def lines (cs : List Char) : List (List Char) :=
  dropFinalEmpty (linesFrom [] cs)

-- ========================================================== records

/-- Whether a line leaves a quote open that was closed before it, or the other
way round. Doubled quotes do not count. -/
def togglesQuote : List Char → Bool
  | [] => false
  | '"' :: '"' :: cs => togglesQuote cs
  | '"' :: cs => !togglesQuote cs
  | _ :: cs => togglesQuote cs

/-- Lines put together again. -/
def joinLines (lines : List (List Char)) : List Char :=
  List.intercalate ['\n'] lines

/-- Groups the rest of the lines; the lines of the record being read are held
last first. -/
def groupFrom (inQuotes : Bool) (record : List (List Char)) :
    List (List Char) → List (List Char)
  | [] => if record.isEmpty then [] else [joinLines record.reverse]
  | line :: rest =>
    if inQuotes != togglesQuote line then groupFrom true (line :: record) rest
    else joinLines (line :: record).reverse :: groupFrom false [] rest

/-- Groups lines into records: a record ends with the line that leaves no quote
open. -/
def group (lines : List (List Char)) : List (List Char) :=
  groupFrom false [] lines

-- =========================================================== fields

/-- The fields of the rest of a record; the field being read is held last
first. -/
def fieldsFrom (separator : Option Char) :
    Bool → List Char → List Char → List (List Char)
  | _, field, [] => [field.reverse]
  | true, field, '"' :: '"' :: cs =>
    fieldsFrom separator true ('"' :: field) cs
  | true, field, '"' :: cs => fieldsFrom separator false field cs
  | true, field, c :: cs => fieldsFrom separator true (c :: field) cs
  | false, field, c :: cs =>
    if c = '"' then fieldsFrom separator true field cs
    else if separator = some c then
      field.reverse :: fieldsFrom separator false [] cs
    else fieldsFrom separator false (c :: field) cs

/-- Cuts a record at the separators outside quotes; without a separator it is
one field. -/
def fields (separator : Option Char) (record : List Char) : List (List Char) :=
  fieldsFrom separator false [] record

-- ============================================================ sheets

/-- The separator that a text names, if it is one character. -/
def separator? (text : String) : Option Char :=
  match text.toList with
  | [c] => some c
  | _ => none

/-- The records of a sheet with their fields, for one separator. -/
def recordsWith (separator : Char) (cs : List Char) :
    List (List (List Char)) :=
  (group (lines cs)).map (fields (some separator))

/-- The records of a sheet. -/
def records (separator text : String) : Except Error (List (List String)) :=
  match separator? separator with
  | none => .error .separatorLength
  | some c => .ok ((recordsWith c text.toList).map (·.map String.ofList))

end Storyline.Sheet
