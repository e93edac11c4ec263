/-
Why a request fails. Each constructor is one cause; what is said about it
is fixed by `Error.message` alone.
-/
import Storyline.Numeral
import Storyline.Path
import Storyline.Text.Quoted

namespace Storyline

-- ====================================================== validation

/-- One step on the way to a value inside a document: a member or an
element. -/
inductive Step where
  | member (name : String)
  | element (index : Nat)
deriving DecidableEq, Repr

/-- What is wrong with a value. -/
inductive Flaw where
  | jsonInvalid
  | modelType
  | missing
  | extraForbidden
  | intType
  | intParsing
  | intParsingSize
  | intFromFloat
  | finiteNumber
  | greaterThanEqual
  | stringType
  | stringTooShort
  | stringTooLong
  | boolType
  | boolParsing
  | listType
  | dictType
  | pathType
  | literalError
deriving DecidableEq, Repr

/-- The short name of a flaw. -/
def Flaw.code : Flaw → String
  | .jsonInvalid => "json_invalid"
  | .modelType => "model_type"
  | .missing => "missing"
  | .extraForbidden => "extra_forbidden"
  | .intType => "int_type"
  | .intParsing => "int_parsing"
  | .intParsingSize => "int_parsing_size"
  | .intFromFloat => "int_from_float"
  | .finiteNumber => "finite_number"
  | .greaterThanEqual => "greater_than_equal"
  | .stringType => "string_type"
  | .stringTooShort => "string_too_short"
  | .stringTooLong => "string_too_long"
  | .boolType => "bool_type"
  | .boolParsing => "bool_parsing"
  | .listType => "list_type"
  | .dictType => "dict_type"
  | .pathType => "path_type"
  | .literalError => "literal_error"

/-- A flaw and the place where it stands. -/
structure Issue where
  location : List Step
  flaw : Flaw
deriving DecidableEq, Repr

-- ========================================================= decoding

/-- Why bytes are not well-formed UTF-8. -/
inductive Utf8Fault where
  | startByte
  | continuationByte
  | endOfData
deriving DecidableEq, Repr

/-- The fault in words. -/
def Utf8Fault.reason : Utf8Fault → String
  | .startByte => "invalid start byte"
  | .continuationByte => "invalid continuation byte"
  | .endOfData => "unexpected end of data"

/-- The first malformed sequence of a text in UTF-8: its place, its first byte
and how many bytes it has. -/
structure Utf8Error where
  position : Nat
  first : UInt8
  width : Nat
  fault : Utf8Fault
deriving DecidableEq, Repr

/-- The sequence by its only byte, or by its first and last position. -/
def Utf8Error.message (e : Utf8Error) : String :=
  let start := Numeral.text e.position
  let place :=
    if e.width = 1 then
      "byte 0x" ++ String.ofList (Text.hexDigits 2 e.first.toNat)
        ++ " in position " ++ start
    else
      "bytes in position " ++ start ++ "-"
        ++ Numeral.text (e.position + e.width - 1)
  "'utf-8' codec can't decode " ++ place ++ ": " ++ e.fault.reason

-- ========================================================== errors

/-- Every way in which a request can fail. -/
inductive Error where
  /-- A sheet that cannot be read; the path is shown as it was given. -/
  | sourceNotFound (path : String) (detail : Option String)
  /-- A sheet whose header lacks a column. -/
  | malformedHeader (path column : String) (detail : Option String)
  /-- A sheet without a header from which no column at all is required. -/
  | emptySheet
  /-- Values that do not fit their model. -/
  | invalid (issues : List Issue)
  /-- A whole number written with too many digits. -/
  | longNumeral (digits : Nat)
  /-- A number of too many digits that is to stand in a message. -/
  | unprintableNumber
  /-- A field separator that is not one character. -/
  | separatorLength
  /-- An encoding that is not supported. -/
  | unknownEncoding (name : String)
  /-- A text in UTF-16 whose byte order is not marked. -/
  | missingByteOrder
  /-- A document without its entry node. -/
  | noRoot (title : String)
  /-- A story option that is not a path and a title. -/
  | storyOption (value : String)
  /-- A log level without a meaning. -/
  | unknownLevel (name : String)
  /-- A settings variable whose text is not JSON. -/
  | settingsSource
  /-- A settings variable whose text is nested too deeply. -/
  | settingsDepth
  /-- A text that has to be UTF-8 and is not. -/
  | notUtf8 (cause : Utf8Error)
  /-- A directory where a file is expected. -/
  | isDirectory (path : Path)
  /-- A file where a directory is to be made. -/
  | fileExists (path : Path)
  /-- A path that leads through a file. -/
  | notDirectory (path : Path)
  /-- Nothing at a path. -/
  | noSuchFile (path : Path)
  /-- A path that is too long, or one of its components. -/
  | nameTooLong (path : Path)
  /-- A path with a null character in it. -/
  | nullInPath
  /-- The name of an encoding with a null character in it. -/
  | nullInEncoding
deriving DecidableEq, Repr

namespace Error

/-- The name under which a sheet is known in messages: its last component, or
the whole path when there is none. -/
def sheetName (path : String) : String :=
  let name := (Path.ofString path).name
  if name = "" then path else name

/-- An error of the file system: its number, its text and the path. -/
def systemText (number text : String) (path : Path) : String :=
  "[Errno " ++ number ++ "] " ++ text ++ ": " ++ Text.quotedLabel path.text

/-- What is said about an error. -/
def message : Error → String
  | .sourceNotFound path detail =>
    "required sheet not found: " ++ path ++
      match detail with
      | some text => if text = "" then "" else " (" ++ text ++ ")"
      | none => ""
  | .malformedHeader path column detail =>
    let missing :=
      "required column '" ++ column ++ "' is missing from the header"
    sheetName path ++ ": " ++
      match detail with
      | some text =>
        if text = "" then missing
        else text ++ " (expected column '" ++ column ++ "')"
      | none => missing
  | .emptySheet => "the sheet is empty"
  | .invalid _ => "the values do not fit the model"
  | .longNumeral digits =>
    "Exceeds the limit (4300 digits) for integer string conversion: "
      ++ "value has " ++ Numeral.text digits
      ++ " digits; use sys.set_int_max_str_digits() to increase the limit"
  | .unprintableNumber =>
    "Exceeds the limit (4300 digits) for integer string conversion; "
      ++ "use sys.set_int_max_str_digits() to increase the limit"
  | .separatorLength => "separator must be a single character"
  | .unknownEncoding name => "unknown encoding: " ++ name
  | .missingByteOrder => "UTF-16 stream does not start with BOM"
  | .noRoot title => "document '" ++ title ++ "' has no root node"
  | .storyOption value => "--story expects PATH=TITLE, got '" ++ value ++ "'"
  | .unknownLevel name => "Unknown level: " ++ Text.quotedLabel name
  | .settingsSource => "a settings variable is not JSON"
  | .settingsDepth => "a settings variable is nested too deeply"
  | .notUtf8 cause => cause.message
  | .isDirectory path => systemText "21" "Is a directory" path
  | .fileExists path => systemText "17" "File exists" path
  | .notDirectory path => systemText "20" "Not a directory" path
  | .noSuchFile path => systemText "2" "No such file or directory" path
  | .nameTooLong path => systemText "36" "File name too long" path
  | .nullInPath => "embedded null byte"
  | .nullInEncoding => "embedded null character"

/-- The path that an error about a sheet names. -/
def path? : Error → Option Path
  | .sourceNotFound path _ | .malformedHeader path _ _ =>
    some (Path.ofString path)
  | _ => none

/-- An error about a sheet, the only kind that ends a build with a report. -/
def isSheetError (e : Error) : Bool := e.path?.isSome

/-- Two steps go through when each of them does. -/
theorem bind_eq_ok {ε α β : Type} {x : Except ε α}
    {f : α → Except ε β} {b : β} :
    (x >>= f) = .ok b ↔ ∃ a, x = .ok a ∧ f a = .ok b := by
  constructor
  · intro h
    cases x with
    | error e => cases h
    | ok a => exact ⟨a, rfl, h⟩
  · rintro ⟨a, rfl, h⟩
    exact h

/-- A step goes through when it leaves a value. -/
theorem exists_ok {α : Type} {x : Except Error α}
    (h : x.toOption.isSome = true) : ∃ a, x = .ok a := by
  cases x with
  | error e => cases h
  | ok a => exact ⟨a, rfl⟩

end Error

/-- The number as text for a message, which refuses too many digits. -/
def Numeral.print (z : Int) : Except Error String :=
  if isPrintable z then .ok (text z) else .error .unprintableNumber

end Storyline
