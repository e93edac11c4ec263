/-
A whole build: from the sheets and the database before it to a new
database and a new catalog. All sheets have to be there and are read
before anything is compiled, so a build that fails leaves nothing half
done; everything else that is amiss is only reported.
-/
import Storyline.Catalog
import Storyline.Database
import Storyline.Graph.Compile
import Storyline.Graph.CrossLink

namespace Storyline

-- =========================================================== sources

/-- A story sheet and the title of its document. -/
structure StorySource where
  path : Path
  title : String
deriving DecidableEq, Repr

/-- The sheets of a build. -/
structure Sources where
  stories : List StorySource
  actorSheet : Path
  backgroundSheet : Path
  musicSheet : Path
  soundEffectSheet : Path
  sequenceSheet : Path
  standingSheet : Path
deriving DecidableEq, Repr

namespace Sources

/-- All sheets in the order in which they are looked for. -/
def paths (sources : Sources) : List Path :=
  sources.stories.map (·.path) ++
    [sources.actorSheet, sources.backgroundSheet, sources.musicSheet,
     sources.soundEffectSheet, sources.sequenceSheet, sources.standingSheet]

/-- Refuses a sheet that is no file. -/
def ensureFile (tree : FileTree) (p : Path) : Except Error Unit := do
  if !(← tree.isFile p) then throw (.sourceNotFound p.text none)

/-- Refuses the first sheet that is no file. -/
def ensureFiles (tree : FileTree) (sources : Sources) : Except Error Unit :=
  sources.paths.forM (ensureFile tree)

end Sources

namespace Build

-- =========================================================== loading

/-- The rows of a story with the title of its document. -/
structure Story where
  title : String
  rows : List Script.Row
deriving DecidableEq, Repr

/-- The content of all sheets. -/
structure Loaded where
  actors : List (Int × String)
  resources : Catalog.Sheets
  stories : List Story
deriving DecidableEq, Repr

/-- Reads a story sheet. -/
def loadStory (tree : FileTree) (format : Sheet.Format)
    (source : StorySource) :
    Except Error Story := do
  let rows ← Script.loadRows tree format Script.columns source.path
  return ⟨source.title, rows⟩

/-- Reads all sheets, the resources before the stories. -/
def load (tree : FileTree) (format : Sheet.Format) (sources : Sources) :
    Except Error Loaded := do
  sources.ensureFiles tree
  let actors ← Sheet.loadActors tree format sources.actorSheet
  let backgrounds ←
    Sheet.loadKeyed tree format "id" "description" sources.backgroundSheet
  let music ←
    Sheet.loadKeyed tree format "id" "resourceName" sources.musicSheet
  let soundEffects ←
    Sheet.loadKeyed tree format "id" "resourceName" sources.soundEffectSheet
  let sequences ←
    Sheet.loadKeyed tree format "id" "dsuCommand" sources.sequenceSheet
  let standings ← Sheet.loadStandings tree format sources.standingSheet
  let stories ← sources.stories.mapM (loadStory tree format)
  return ⟨actors,
    ⟨backgrounds, music, soundEffects, sequences, standings⟩, stories⟩

-- ========================================================= compiling

/-- Compiles stories into documents numbered from a number on. -/
def compileFrom (documentId : Int) :
    List Story → Except Error (List Compile.Compiled)
  | [] => .ok []
  | story :: stories => do
    let first ← Compile.compile story.rows ⟨documentId, story.title⟩
    return first :: (← compileFrom (documentId + 1) stories)

-- ======================================================== the result

/-- What a build comes to. -/
structure Result where
  database : Database
  catalog : Catalog
  reports : List Diagnostic
  totalRows : Int
  crossLinksAdded : Int

/-- One word for how the build went. -/
def Result.status (result : Result) : String := statusOf result.reports

/-- The items of the database before the build. -/
def previousItems (previous : Option Database) : List Item :=
  (previous.map (·.items)).getD []

/-- The report on items that were dropped, if any were. -/
def legacyReports (previous : Option Database) : List Diagnostic :=
  let count := Item.legacyCount (previousItems previous)
  if count = 0 then [] else [.legacyItemsRemoved count]

/-- Builds a database and a catalog from what the sheets hold. -/
def assemble (loaded : Loaded) (previous : Option Database) :
    Except Error Result := do
  let compiled ← compileFrom 1 loaded.stories
  let catalog ← Catalog.ofSheets loaded.resources
  let pass :=
    CrossLink.attachAll (compiled.map (·.graph)) (compiled.flatMap (·.pending))
  if let some e := pass.failure then throw e
  let totalRows : Nat := (loaded.stories.flatMap (·.rows)).length
  let database : Database :=
    { actors := Roster.ofRows loaded.actors
      documents := pass.graphs
      vars := (previous.map (·.vars)).getD []
      items := Item.withoutLegacy (previousItems previous) }
  return {
    database
    catalog
    reports :=
      legacyReports previous ++ compiled.flatMap (·.reports)
        ++ [catalog.report]
        ++ pass.reports ++ [.runSummary compiled.length totalRows]
    totalRows := (totalRows : Int)
    crossLinksAdded := pass.added }

/-- Runs a build. -/
def run (tree : FileTree) (format : Sheet.Format) (sources : Sources)
    (previous : Option Database) : Except Error Result := do
  assemble (← load tree format sources) previous

end Build

end Storyline
