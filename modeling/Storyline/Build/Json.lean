/-
The sources and the result of a build as JSON.
-/
import Storyline.Build
import Storyline.Catalog.Json
import Storyline.Database.Json
import Storyline.Diagnostic.Json

namespace Storyline

-- =========================================================== sources

namespace StorySource

/-- Reads a story source. -/
def ofJson : Json → Checked StorySource :=
  Json.strictObject ["path", "title"] fun members =>
    (Checked.valid StorySource.mk)
      |>.ap (Json.required members "path" Json.readPath)
      |>.ap (Json.required members "title" Json.readFilled)

/-- Writes a story source. -/
def toJson (source : StorySource) : Json :=
  .object [("path", .string source.path.text), ("title", .string source.title)]

end StorySource

namespace Sources

/-- The members of the sources of a build. -/
def memberNames : List String :=
  ["stories", "actor_sheet", "background_sheet", "music_sheet",
   "sound_effect_sheet",
   "sequence_sheet", "standing_sheet"]

/-- Reads the sources of a build. -/
def ofJson : Json → Checked Sources :=
  Json.strictObject memberNames fun members =>
    (Checked.valid Sources.mk)
      |>.ap (Json.optional members "stories"
        (Json.readList StorySource.ofJson) [])
      |>.ap (Json.required members "actor_sheet" Json.readPath)
      |>.ap (Json.required members "background_sheet" Json.readPath)
      |>.ap (Json.required members "music_sheet" Json.readPath)
      |>.ap (Json.required members "sound_effect_sheet" Json.readPath)
      |>.ap (Json.required members "sequence_sheet" Json.readPath)
      |>.ap (Json.required members "standing_sheet" Json.readPath)

/-- Writes the sources of a build. -/
def toJson (sources : Sources) : Json :=
  .object
    [("stories", .array (sources.stories.map StorySource.toJson)),
     ("actor_sheet", .string sources.actorSheet.text),
     ("background_sheet", .string sources.backgroundSheet.text),
     ("music_sheet", .string sources.musicSheet.text),
     ("sound_effect_sheet", .string sources.soundEffectSheet.text),
     ("sequence_sheet", .string sources.sequenceSheet.text),
     ("standing_sheet", .string sources.standingSheet.text)]

end Sources

-- ======================================================== the result

namespace Build.Result

/-- The members of a result. -/
def memberNames : List String :=
  ["database", "catalog", "diagnostics", "total_rows", "cross_links_added"]

/-- Reads a result. -/
def ofJson : Json → Checked Build.Result :=
  Json.strictObject memberNames fun members =>
    (Checked.valid Build.Result.mk)
      |>.ap (Json.required members "database" Database.ofJson)
      |>.ap (Json.required members "catalog" Catalog.ofJson)
      |>.ap (Json.optional members "diagnostics"
        (Json.readList Diagnostic.ofJson) [])
      |>.ap (Json.optional members "total_rows" Json.readInt 0)
      |>.ap (Json.optional members "cross_links_added" Json.readInt 0)

/-- Writes a result. -/
def toJson (result : Build.Result) : Json :=
  .object
    [("database", result.database.toJson),
     ("catalog", result.catalog.toJson),
     ("diagnostics", .array (result.reports.map Diagnostic.toJson)),
     ("total_rows", .integer result.totalRows),
     ("cross_links_added", .integer result.crossLinksAdded)]

end Build.Result

end Storyline
