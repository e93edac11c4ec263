/-
The resource catalog: what the ids in story sheets stand for. It has one
table for each kind of resource, filled from the sheets in their order,
and every look-up answers with the first entry that fits.
-/
import Storyline.Diagnostic
import Storyline.Sheet.Table

namespace Storyline

-- ========================================================== entries

/-- A background and what it shows. -/
structure BackgroundEntry where
  id : String
  description : String
deriving DecidableEq, Repr

/-- A piece of music and the resource that plays it. -/
structure MusicEntry where
  id : String
  resourceName : String
deriving DecidableEq, Repr

/-- A sound effect and the resource that plays it. -/
structure SoundEffectEntry where
  id : String
  resourceName : String
deriving DecidableEq, Repr

/-- A named piece of staging and the command that it stands for. -/
structure SequenceEntry where
  id : String
  command : String
deriving DecidableEq, Repr

/-- The picture of an actor with an expression. -/
structure StandingEntry where
  actorId : Int
  expression : String
  resourcePath : String
deriving DecidableEq, Repr

/-- The tables of the catalog. -/
structure Catalog where
  backgrounds : List BackgroundEntry
  musicTracks : List MusicEntry
  soundEffects : List SoundEffectEntry
  sequenceTemplates : List SequenceEntry
  standingPoses : List StandingEntry
deriving DecidableEq, Repr

namespace Catalog

/-- A catalog without entries. -/
def empty : Catalog := ⟨[], [], [], [], []⟩

-- ========================================================= look-ups

/-- The first entry with an id, in any case; spaces around the id that is asked
for do not count, and a blank id has no entry. -/
def findById? (idOf : α → String) (entries : List α) (id : String) :
    Option α :=
  let id := Text.trim id
  if id = "" then none
  else entries.find? fun entry => Text.sameName (idOf entry) id

/-- The background with an id. -/
def background? (catalog : Catalog) (id : String) : Option BackgroundEntry :=
  findById? (·.id) catalog.backgrounds id

/-- The piece of music with an id. -/
def musicTrack? (catalog : Catalog) (id : String) : Option MusicEntry :=
  findById? (·.id) catalog.musicTracks id

/-- The sound effect with an id. -/
def soundEffect? (catalog : Catalog) (id : String) : Option SoundEffectEntry :=
  findById? (·.id) catalog.soundEffects id

/-- The sequence template with an id. -/
def sequenceTemplate? (catalog : Catalog) (id : String) :
    Option SequenceEntry :=
  findById? (·.id) catalog.sequenceTemplates id

/-- The first pose of an actor with an expression, in any case. -/
def standingPose? (catalog : Catalog) (actor : Int) (expression : String) :
    Option StandingEntry :=
  catalog.standingPoses.find? fun entry =>
    entry.actorId = actor && Text.sameName entry.expression expression

-- ============================================================ paths

/-- A path below the folder of a kind of resource, with the id as it was asked
for. -/
def pathBelow (folder id : String) (entry : Option α) : String :=
  if entry.isSome then folder ++ "/" ++ id else ""

/-- Where a background is, empty when there is none with the id. -/
def backgroundPath (catalog : Catalog) (id : String) : String :=
  pathBelow "Backgrounds" id (catalog.background? id)

/-- Where a piece of music is, empty when there is none with the id. -/
def musicPath (catalog : Catalog) (id : String) : String :=
  pathBelow "Audio/BGM" id (catalog.musicTrack? id)

/-- Where a sound effect is, empty when there is none with the id. -/
def soundEffectPath (catalog : Catalog) (id : String) : String :=
  pathBelow "Audio/SFX" id (catalog.soundEffect? id)

/-- The command that a sequence id stands for, empty when there is none. -/
def sequenceCommand (catalog : Catalog) (id : String) : String :=
  ((catalog.sequenceTemplate? id).map (·.command)).getD ""

/-- The file of a pose, empty when there is none. -/
def standingResourcePath (catalog : Catalog) (actor : Int)
    (expression : String) : String :=
  ((catalog.standingPose? actor expression).map (·.resourcePath)).getD ""

-- ========================================================= building

/-- The rows of all resource sheets. -/
structure Sheets where
  backgrounds : List KeyedRow
  music : List KeyedRow
  soundEffects : List KeyedRow
  sequences : List KeyedRow
  standings : List StandingRow
deriving DecidableEq, Repr

/-- The pose in a row; an actor that is no number counts as actor zero. -/
def standingEntry (row : StandingRow) : Except Error StandingEntry :=
  match Numeral.read row.actorId with
  | .integer z => .ok ⟨z, row.expression, row.resourcePath⟩
  | .notInteger => .ok ⟨0, row.expression, row.resourcePath⟩
  | .tooLong digits => .error (.longNumeral digits)

/-- The poses in rows. -/
def standingEntries (rows : List StandingRow) :
    Except Error (List StandingEntry) :=
  rows.mapM standingEntry

/-- The catalog with the four tables that take the rows as they are. -/
def refill (catalog : Catalog) (sheets : Sheets) : Catalog :=
  { catalog with
    backgrounds := sheets.backgrounds.map fun row => ⟨row.id, row.value⟩
    musicTracks := sheets.music.map fun row => ⟨row.id, row.value⟩
    soundEffects := sheets.soundEffects.map fun row => ⟨row.id, row.value⟩
    sequenceTemplates := sheets.sequences.map fun row => ⟨row.id, row.value⟩ }

/-- Replaces every table. The poses come last and stay as they are when one of
them cannot be read; the other tables are replaced all the same. -/
def update (catalog : Catalog) (sheets : Sheets) :
    Catalog × Except Error Unit :=
  match standingEntries sheets.standings with
  | .ok entries =>
    ({ catalog.refill sheets with standingPoses := entries }, .ok ())
  | .error e => (catalog.refill sheets, .error e)

/-- The catalog of the sheets. -/
def ofSheets (sheets : Sheets) : Except Error Catalog := do
  let entries ← standingEntries sheets.standings
  return { empty.refill sheets with standingPoses := entries }

/-- The report on a catalog that was rebuilt. -/
def report (catalog : Catalog) : Diagnostic :=
  .catalogUpdated catalog.backgrounds.length catalog.musicTracks.length
    catalog.soundEffects.length catalog.sequenceTemplates.length
    catalog.standingPoses.length

end Catalog

end Storyline
