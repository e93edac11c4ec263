/-
Rows of a story sheet as JSON.
-/
import Storyline.Json.Checked
import Storyline.Script.Row

namespace Storyline.Script.Row

/-- The members of a row, in the order in which they are declared. -/
def memberNames : List String :=
  ["row_number", "speaker_token", "text", "node_key", "link_targets",
   "choice_group_token", "background_id", "music_id", "sound_effect_id",
   "expression_id", "sequence_token", "auto_progress_locked",
   "standing_left", "standing_center", "standing_right"]

/-- Reads a row. -/
def ofJson : Json → Checked Row :=
  Json.strictObject memberNames fun members =>
    let text (name : String) : Checked String :=
      Json.optional members name Json.readString ""
    (Checked.valid Row.mk)
      |>.ap (Json.required members "row_number" (Json.readAtLeast 1))
      |>.ap (text "speaker_token")
      |>.ap (text "text")
      |>.ap (text "node_key")
      |>.ap (Json.optional members "link_targets"
        (Json.readList Json.readString) [])
      |>.ap (text "choice_group_token")
      |>.ap (text "background_id")
      |>.ap (text "music_id")
      |>.ap (text "sound_effect_id")
      |>.ap (text "expression_id")
      |>.ap (text "sequence_token")
      |>.ap (text "auto_progress_locked")
      |>.ap (text "standing_left")
      |>.ap (text "standing_center")
      |>.ap (text "standing_right")

/-- Writes a row. -/
def toJson (row : Row) : Json :=
  .object
    [("row_number", .integer row.rowNumber),
     ("speaker_token", .string row.speaker),
     ("text", .string row.text),
     ("node_key", .string row.nodeKey),
     ("link_targets", .array (row.linkTargets.map .string)),
     ("choice_group_token", .string row.choiceGroup),
     ("background_id", .string row.background),
     ("music_id", .string row.music),
     ("sound_effect_id", .string row.soundEffect),
     ("expression_id", .string row.expression),
     ("sequence_token", .string row.sequence),
     ("auto_progress_locked", .string row.autoProgressLocked),
     ("standing_left", .string row.standingLeft),
     ("standing_center", .string row.standingCenter),
     ("standing_right", .string row.standingRight)]

end Storyline.Script.Row
