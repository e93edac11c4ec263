/-
The database that a build writes: the actors, the compiled documents, and
what the game's own editor keeps beside them, variables and items, which
a build carries over from the database before it. Items that stood for
resources are dropped then, because the catalog has them now.
-/
import Storyline.Diagnostic
import Storyline.Graph.Basic
import Storyline.Json

namespace Storyline

-- ======================================================== the types

/-- An actor of the game. -/
structure ActorRecord where
  id : Int
  name : String
  isPlayer : Bool
deriving DecidableEq, Repr

/-- An item of the game, with fields of its own. -/
structure Item where
  name : String
  fields : List (String × String)
deriving DecidableEq, Repr

/-- The values of a variable by their names. -/
abbrev Variable := List (String × Json)

/-- The database. -/
structure Database where
  actors : List ActorRecord
  documents : List Graph
  vars : List Variable
  items : List Item

namespace Database

/-- A database without content. -/
def empty : Database := ⟨[], [], [], []⟩

/-- The first document with a title, in any case. -/
def document? (database : Database) (title : String) : Option Graph :=
  database.documents.find? fun graph => Text.sameName graph.title title

end Database

-- ============================================================ actors

namespace Roster

/-- Names by actor, with increasing numbers. -/
abbrev Names := List (Int × String)

/-- Names an actor, anew if the actor has a name already. -/
def Names.put (names : Names) (id : Int) (name : String) : Names :=
  match names with
  | [] => [(id, name)]
  | (first, old) :: rest =>
    if id < first then (id, name) :: (first, old) :: rest
    else if id = first then (id, name) :: rest
    else (first, old) :: Names.put rest id name

/-- The names in rows, of several rows for one actor the last. -/
def Names.ofRows (rows : List (Int × String)) : Names :=
  rows.foldl (fun names (id, name) => names.put id name) []

/-- The roster of the actors in rows. -/
def ofRows (rows : List (Int × String)) : List ActorRecord :=
  (Names.ofRows rows).map fun (id, name) => ⟨id, name, id = Actor.player⟩

end Roster

-- ============================================================= items

namespace Item

/-- The category of an item, empty when it has none. -/
def category (item : Item) : String := (item.fields.lookup "Category").getD ""

/-- The categories whose items the catalog replaces. -/
def legacyCategories : List String := ["BG", "BGM", "SFX", "Sequence"]

/-- Whether the catalog replaces the item. -/
def isLegacy (item : Item) : Bool := legacyCategories.contains item.category

/-- The items that the catalog does not replace. -/
def withoutLegacy (items : List Item) : List Item := items.filter (!·.isLegacy)

/-- How many items the catalog replaces. -/
def legacyCount (items : List Item) : Nat := items.countP (·.isLegacy)

end Item

end Storyline
