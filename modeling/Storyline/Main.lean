/-
The program itself. It takes a picture of the places that a command looks
at, lets the command work on the picture, prints what the command printed
and carries out what it wrote.
-/
import Storyline.Command
import Storyline.Settings.Source

namespace Storyline

open Command (Invocation)

-- ======================================================= the picture

/-- The paths that a command looks at or writes to. -/
def pathsOf (settings : Settings) : Invocation → List Path
  | .compile options =>
    let output := (options.output.map Path.ofString).getD settings.outputDir
    let files :=
      match Command.storyFiles settings options with
      | .ok files => files
      | .error _ => []
    let sheets :=
      match ({ settings with storyFiles := files }).sources
          (options.root.map Path.ofString) with
      | .ok sources => sources.paths
      | .error _ => []
    sheets
      ++ [output, settings.databasePath output, settings.catalogPath output]
  | .inspect options => [Path.ofString options.database]
  | .help | .unusable => []

/-- What really stands at a path. -/
def entryAt (p : Path) : IO (Option Entry) := do
  let here ← IO.currentDir
  let there := here / p.text
  if ← there.isDir then return some .directory
  if ← there.pathExists then
    return some (.file (← IO.FS.readBinFile there).toList)
  return none

/-- Takes what stands on the way along a path into the picture. -/
def lookAlong (p : Path) (tree : FileTree) (place : Place)
    (passed : List String) :
    List String → IO FileTree
  | [] => return tree
  | component :: rest => do
    let place := FileTree.next place component
    let passed := passed ++ [component]
    match ← entryAt ⟨p.anchor, passed⟩ with
    | none => return tree
    | some entry =>
      let tree := if FileTree.isBase place then tree else tree.put place entry
      lookAlong p tree place passed rest

/-- Takes all that a command looks at into the picture. -/
def lookAt (tree : FileTree) (paths : List Path) : IO FileTree :=
  paths.foldlM (fun tree p =>
    lookAlong p tree (FileTree.startOf p.anchor) [] p.components) tree

-- ======================================================= the outcome

/-- A place as text. -/
def placeText : Place → String
  | "/" :: components => "/" ++ "/".intercalate components
  | components => "/".intercalate components

/-- Carries out what is new in the picture; the oldest change comes first. -/
def carryOut (before after : FileTree) : IO Unit :=
  after.entries.reverse.forM fun (place, entry) => do
    unless before.at? place = some entry do
      match entry with
      | .directory => IO.FS.createDirAll (placeText place)
      | .file content =>
        IO.FS.writeBinFile (placeText place) content.toByteArray

/-- The variables of the environment that are settings. -/
def environment : IO (List (String × String)) := do
  let names := Settings.memberNames.map Settings.variableName
  let values ← (names.map Text.upper ++ names).mapM fun name => do
    return (← IO.getEnv name).map fun value => (name, value)
  return values.filterMap id

/-- The exit code of a command; errors that it does not report itself go to the
error output. -/
def exitCode : Command.Ending → IO UInt32
  | .exited code => return code.toUInt32
  | .escaped cause => do
    IO.eprintln cause.message
    return 1

end Storyline

open Storyline in
/-- Runs the command line. -/
def main (words : List String) : IO UInt32 := do
  let vars ← environment
  match Settings.read (← lookAt ⟨[]⟩ [Settings.envFilePath]) vars [] with
  | .error cause => exitCode (.escaped cause)
  | .ok settings =>
    let tree ← lookAt ⟨[]⟩ (pathsOf settings (.ofWords words))
    let outcome := Command.run settings words tree
    IO.print outcome.world.printed
    carryOut tree outcome.world.tree
    if outcome.ending = .exited 2 then Command.usage.forM IO.eprintln
    exitCode outcome.ending
