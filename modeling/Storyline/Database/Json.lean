/-
The database as JSON. The values of a variable may be anything.
-/
import Storyline.Database
import Storyline.Graph.Json

namespace Storyline

-- ============================================================ actors

namespace ActorRecord

/-- Reads an actor. -/
def ofJson : Json → Checked ActorRecord :=
  Json.strictObject ["id", "name", "is_player"] fun members =>
    (Checked.valid ActorRecord.mk)
      |>.ap (Json.required members "id" Json.readInt)
      |>.ap (Json.required members "name" Json.readString)
      |>.ap (Json.optional members "is_player" Json.readBool false)

/-- Writes an actor. -/
def toJson (actor : ActorRecord) : Json :=
  .object
    [("id", .integer actor.id), ("name", .string actor.name),
     ("is_player", .bool actor.isPlayer)]

end ActorRecord

-- ============================================================= items

namespace Item

/-- Reads an item. -/
def ofJson : Json → Checked Item :=
  Json.strictObject ["name", "fields"] fun members =>
    (Checked.valid Item.mk)
      |>.ap (Json.optional members "name" Json.readString "")
      |>.ap (Json.optional members "fields" (Json.readDict Json.readString) [])

/-- Writes an item. -/
def toJson (item : Item) : Json :=
  .object
    [("name", .string item.name),
     ("fields", .object
       (item.fields.map fun (name, value) => (name, .string value)))]

end Item

-- ====================================================== the database

namespace Database

/-- The members of the database. -/
def memberNames : List String := ["actors", "documents", "variables", "items"]

/-- Reads a database. -/
def ofJson : Json → Checked Database :=
  Json.strictObject memberNames fun members =>
    (Checked.valid Database.mk)
      |>.ap (Json.optional members "actors"
        (Json.readList ActorRecord.ofJson) [])
      |>.ap (Json.optional members "documents" (Json.readList Graph.ofJson) [])
      |>.ap (Json.optional members "variables"
        (Json.readList (Json.readDict Json.readAny)) [])
      |>.ap (Json.optional members "items" (Json.readList Item.ofJson) [])

/-- Writes a database. -/
def toJson (database : Database) : Json :=
  .object
    [("actors", .array (database.actors.map ActorRecord.toJson)),
     ("documents", .array (database.documents.map Graph.toJson)),
     ("variables", .array (database.vars.map .object)),
     ("items", .array (database.items.map Item.toJson))]

end Database

end Storyline
