/-
What a project fixes for all its builds: where its sheets are, how they
are stored and where the outputs go. Every setting has a default, and
settings that are not known are ignored.
-/
import Storyline.Build
import Storyline.Json.Checked

namespace Storyline

-- ======================================================== the types

/-- A story sheet of a project, by its path below the root. -/
structure StoryFile where
  path : String
  title : String
deriving DecidableEq, Repr

/-- The settings of a project. -/
structure Settings where
  sourceRoot : Path
  storyFiles : List StoryFile
  actorSheet : String
  backgroundSheet : String
  musicSheet : String
  soundEffectSheet : String
  sequenceSheet : String
  standingSheet : String
  outputDir : Path
  databaseFile : String
  catalogFile : String
  fieldSeparator : String
  sourceEncoding : String
  logLevel : String
deriving DecidableEq, Repr

namespace StoryFile

/-- Reads a story sheet of a project. -/
def ofJson : Json → Checked StoryFile :=
  Json.openObject fun members =>
    (Checked.valid StoryFile.mk)
      |>.ap (Json.required members "path" Json.readString)
      |>.ap (Json.required members "title" Json.readString)

/-- Writes a story sheet of a project. -/
def toJson (file : StoryFile) : Json :=
  .object [("path", .string file.path), ("title", .string file.title)]

end StoryFile

namespace Settings

-- ========================================================= defaults

/-- The folder of the sheets in a project of the usual layout. -/
def sheetFolder : String := "Docs/Database_Source"

/-- The story sheets of a project of the usual layout. -/
def defaultStoryFiles : List StoryFile :=
  [⟨sheetFolder ++ "/Story_Demo.csv", "Story_Demo"⟩,
   ⟨sheetFolder ++ "/Story/Test/Story_Test_Day01.csv", "Test_Day01"⟩,
   ⟨sheetFolder ++ "/Story/Test/Story_Test_Day02.csv", "Test_Day02"⟩,
   ⟨sheetFolder ++ "/Story/Test/Story_Test_Day03.csv", "Test_Day03"⟩,
   ⟨sheetFolder ++ "/Story/Test/Story_Test_Day04.csv", "Test_Day04"⟩]

-- ============================================================= json

/-- Reads a field separator, which is one character. -/
def readSeparator (json : Json) : Checked String :=
  (Json.readString json).bind fun s =>
    match s.toList with
    | [] => .flaw .stringTooShort
    | [_] => .valid s
    | _ => .flaw .stringTooLong

/-- The names of the settings. -/
def memberNames : List String :=
  ["source_root", "story_files", "actor_sheet", "background_sheet",
   "music_sheet", "sound_effect_sheet", "sequence_sheet", "standing_sheet",
   "output_dir", "database_file",
   "catalog_file", "field_separator", "source_encoding", "log_level"]

/-- Reads settings. -/
def ofMembers (members : Json.Members) : Checked Settings :=
  let text (name default : String) : Checked String :=
    Json.optional members name Json.readString default
  let sheet (name file : String) : Checked String :=
    text name (sheetFolder ++ "/" ++ file)
  (Checked.valid Settings.mk)
    |>.ap (Json.optional members "source_root" Json.readPath (.ofString "."))
    |>.ap (Json.optional members "story_files" (Json.readList StoryFile.ofJson)
      defaultStoryFiles)
    |>.ap (sheet "actor_sheet" "ID_Actor.csv")
    |>.ap (sheet "background_sheet" "ID_BG.csv")
    |>.ap (sheet "music_sheet" "ID_BGM.csv")
    |>.ap (sheet "sound_effect_sheet" "ID_SFX.csv")
    |>.ap (sheet "sequence_sheet" "ID_Sequence.csv")
    |>.ap (sheet "standing_sheet" "ID_Standing.csv")
    |>.ap (Json.optional members "output_dir" Json.readPath
      (.ofString "build"))
    |>.ap (text "database_file" "dialogue_database.json")
    |>.ap (text "catalog_file" "resource_catalog.json")
    |>.ap (Json.optional members "field_separator" readSeparator ",")
    |>.ap (text "source_encoding" "utf-8")
    |>.ap (text "log_level" "INFO")

/-- Writes settings. -/
def toJson (settings : Settings) : Json :=
  .object
    [("source_root", .string settings.sourceRoot.text),
     ("story_files", .array (settings.storyFiles.map StoryFile.toJson)),
     ("actor_sheet", .string settings.actorSheet),
     ("background_sheet", .string settings.backgroundSheet),
     ("music_sheet", .string settings.musicSheet),
     ("sound_effect_sheet", .string settings.soundEffectSheet),
     ("sequence_sheet", .string settings.sequenceSheet),
     ("standing_sheet", .string settings.standingSheet),
     ("output_dir", .string settings.outputDir.text),
     ("database_file", .string settings.databaseFile),
     ("catalog_file", .string settings.catalogFile),
     ("field_separator", .string settings.fieldSeparator),
     ("source_encoding", .string settings.sourceEncoding),
     ("log_level", .string settings.logLevel)]

-- ============================================================ paths

/-- The source of a story below a root; it has to have a title. -/
def storySource (root : Path) (file : StoryFile) : Except Error StorySource :=
  if file.title = "" then
    .error (.invalid [⟨[.member "title"], .stringTooShort⟩])
  else .ok ⟨root.child file.path, file.title⟩

/-- The sheets of a build below a root, or below the project's own root. -/
def sources (settings : Settings) (root : Option Path) :
    Except Error Sources := do
  let root := root.getD settings.sourceRoot
  return {
    stories := ← settings.storyFiles.mapM (storySource root)
    actorSheet := root.child settings.actorSheet
    backgroundSheet := root.child settings.backgroundSheet
    musicSheet := root.child settings.musicSheet
    soundEffectSheet := root.child settings.soundEffectSheet
    sequenceSheet := root.child settings.sequenceSheet
    standingSheet := root.child settings.standingSheet }

/-- Where the database is, in a folder or in the project's own one. -/
def databasePath (settings : Settings) (output : Option Path) : Path :=
  (output.getD settings.outputDir).child settings.databaseFile

/-- Where the catalog is, in a folder or in the project's own one. -/
def catalogPath (settings : Settings) (output : Option Path) : Path :=
  (output.getD settings.outputDir).child settings.catalogFile

/-- How the sheets are stored. -/
def format (settings : Settings) : Sheet.Format :=
  ⟨settings.fieldSeparator, settings.sourceEncoding⟩

end Settings

end Storyline
