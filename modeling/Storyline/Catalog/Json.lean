/-
The resource catalog as JSON. Every field of an entry may be left out.
-/
import Storyline.Catalog
import Storyline.Json.Checked

namespace Storyline

-- =========================================================== entries

/-- Reads a background. -/
def BackgroundEntry.ofJson : Json → Checked BackgroundEntry :=
  Json.strictObject ["id", "description"] fun members =>
    (Checked.valid BackgroundEntry.mk)
      |>.ap (Json.optional members "id" Json.readString "")
      |>.ap (Json.optional members "description" Json.readString "")

/-- Writes a background. -/
def BackgroundEntry.toJson (entry : BackgroundEntry) : Json :=
  .object
    [("id", .string entry.id), ("description", .string entry.description)]

/-- Reads a piece of music. -/
def MusicEntry.ofJson : Json → Checked MusicEntry :=
  Json.strictObject ["id", "resource_name"] fun members =>
    (Checked.valid MusicEntry.mk)
      |>.ap (Json.optional members "id" Json.readString "")
      |>.ap (Json.optional members "resource_name" Json.readString "")

/-- Writes a piece of music. -/
def MusicEntry.toJson (entry : MusicEntry) : Json :=
  .object
    [("id", .string entry.id), ("resource_name", .string entry.resourceName)]

/-- Reads a sound effect. -/
def SoundEffectEntry.ofJson : Json → Checked SoundEffectEntry :=
  Json.strictObject ["id", "resource_name"] fun members =>
    (Checked.valid SoundEffectEntry.mk)
      |>.ap (Json.optional members "id" Json.readString "")
      |>.ap (Json.optional members "resource_name" Json.readString "")

/-- Writes a sound effect. -/
def SoundEffectEntry.toJson (entry : SoundEffectEntry) : Json :=
  .object
    [("id", .string entry.id), ("resource_name", .string entry.resourceName)]

/-- Reads a sequence template. -/
def SequenceEntry.ofJson : Json → Checked SequenceEntry :=
  Json.strictObject ["id", "command"] fun members =>
    (Checked.valid SequenceEntry.mk)
      |>.ap (Json.optional members "id" Json.readString "")
      |>.ap (Json.optional members "command" Json.readString "")

/-- Writes a sequence template. -/
def SequenceEntry.toJson (entry : SequenceEntry) : Json :=
  .object [("id", .string entry.id), ("command", .string entry.command)]

/-- Reads a standing pose. -/
def StandingEntry.ofJson : Json → Checked StandingEntry :=
  Json.strictObject ["actor_id", "expression", "resource_path"] fun members =>
    (Checked.valid StandingEntry.mk)
      |>.ap (Json.optional members "actor_id" Json.readInt 0)
      |>.ap (Json.optional members "expression" Json.readString "")
      |>.ap (Json.optional members "resource_path" Json.readString "")

/-- Writes a standing pose. -/
def StandingEntry.toJson (entry : StandingEntry) : Json :=
  .object
    [("actor_id", .integer entry.actorId),
     ("expression", .string entry.expression),
     ("resource_path", .string entry.resourcePath)]

-- =========================================================== tables

namespace Catalog

/-- The members of the catalog. -/
def memberNames : List String :=
  ["backgrounds", "music_tracks", "sound_effects", "sequence_templates",
   "standing_poses"]

/-- Reads a catalog. -/
def ofJson : Json → Checked Catalog :=
  Json.strictObject memberNames fun members =>
    (Checked.valid Catalog.mk)
      |>.ap (Json.optional members "backgrounds"
        (Json.readList BackgroundEntry.ofJson) [])
      |>.ap (Json.optional members "music_tracks"
        (Json.readList MusicEntry.ofJson) [])
      |>.ap (Json.optional members "sound_effects"
        (Json.readList SoundEffectEntry.ofJson) [])
      |>.ap (Json.optional members "sequence_templates"
        (Json.readList SequenceEntry.ofJson) [])
      |>.ap (Json.optional members "standing_poses"
        (Json.readList StandingEntry.ofJson) [])

/-- Writes a catalog. -/
def toJson (catalog : Catalog) : Json :=
  .object
    [("backgrounds", .array (catalog.backgrounds.map BackgroundEntry.toJson)),
     ("music_tracks", .array (catalog.musicTracks.map MusicEntry.toJson)),
     ("sound_effects", .array
       (catalog.soundEffects.map SoundEffectEntry.toJson)),
     ("sequence_templates", .array
       (catalog.sequenceTemplates.map SequenceEntry.toJson)),
     ("standing_poses", .array
       (catalog.standingPoses.map StandingEntry.toJson))]

end Catalog

end Storyline
