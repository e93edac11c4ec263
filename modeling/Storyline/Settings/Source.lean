/-
Where settings come from. What is given directly comes first, then the
variables of the environment, then those of a file beside the build, and
the defaults last. Variables have the name of their setting behind the
program's own name. All names may be written in any case.
-/
import Storyline.Settings
import Storyline.Settings.EnvFile
import Storyline.Json.Reader
import Storyline.Text.Utf8

namespace Storyline.Settings

-- ======================================================== variables

/-- Variables by their names; one without a value is none, and hides those
before it. -/
abbrev Variables := List (String × Option String)

/-- The variable of a setting, in small letters. -/
def variableName (setting : String) : String := "sheetscript_" ++ setting

/-- The value of a setting's variable; of several that differ in case only the
last counts. -/
def bound? (vars : Variables) (setting : String) : Option String :=
  (vars.reverse.find? fun v =>
    Text.lower v.1 = variableName setting).bind (·.2)

/-- The value in a variable that holds JSON text, where null counts as
absent. -/
def jsonValue (text : String) : Except Error (Option Json) :=
  match Json.ofString .lenient text with
  | .error .malformed => .error .settingsSource
  | .error .tooDeep => .error .settingsDepth
  | .ok .null => .ok none
  | .ok json => .ok (some json.settled)

/-- The value that a variable gives to a setting: the story sheets are JSON
text, and all other settings are text. -/
def valueOf (vars : Variables) (setting : String) :
    Except Error (Option Json) :=
  match bound? vars setting with
  | none => .ok none
  | some text =>
    if setting = "story_files" then jsonValue text
    else .ok (some (.string text))

/-- The settings that variables give. -/
def membersOf (vars : Variables) : List String → Except Error Json.Members
  | [] => .ok []
  | setting :: rest => do
    match ← valueOf vars setting with
    | none => membersOf vars rest
    | some value => return (setting, value) :: (← membersOf vars rest)

-- ======================================================== the file

/-- The file of variables beside a build. -/
def envFilePath : Path := .ofString ".env"

/-- The variables of the file, if there is one. -/
def fileVariables (tree : FileTree) (environment : List (String × String)) :
    Except Error Variables := do
  if !(← tree.isFile envFilePath) then return []
  match Text.decodeUtf8 (← tree.read envFilePath) with
  | .error e => throw (.notUtf8 e)
  | .ok cs => return EnvFile.readAll environment (Text.unifyBreaks cs)

-- ========================================================= reading

/-- The settings that are given directly, under their names in small letters.
Of several writings of one name the first counts. -/
def givenMembers (given : Json.Members) : Json.Members :=
  given.map fun (name, value) => (Text.lower name, value)

/-- The settings of a project. -/
def read (tree : FileTree) (environment : List (String × String))
    (given : Json.Members) :
    Except Error Settings := do
  let inFile ← fileVariables tree environment
  let fromEnvironment ←
    membersOf (environment.map fun (n, v) => (n, some v)) memberNames
  let fromFile ← membersOf inFile memberNames
  (ofMembers (givenMembers given ++ fromEnvironment ++ fromFile)).toExcept

end Storyline.Settings
