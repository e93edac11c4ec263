/-
The two commands of the program, as functions on a tree of files: what is
printed, how the program ends, and what the tree looks like then. A build
writes its outputs only after everything else has gone well, the database
before the catalog.
-/
import Storyline.Build.Json
import Storyline.Command.Arguments
import Storyline.Json.Reader
import Storyline.Json.Writer
import Storyline.Settings
import Storyline.Text.Upper
import Storyline.Text.Utf8
import Storyline.Text.Encoding

namespace Storyline.Command

-- ========================================================= the world

/-- What a command changes: the files, and what it has printed so far. -/
structure World where
  tree : FileTree
  printed : String

/-- How a command ends before its end. -/
inductive Stop where
  | exit (code : Nat)
  | failure (cause : Error)

/-- A command: what it did before it stops stays done. -/
abbrev Action := ExceptT Stop (StateM World)

/-- How a command ended: with an exit code, or with an error that it does not
report. -/
inductive Ending where
  | exited (code : Nat)
  | escaped (cause : Error)
deriving DecidableEq

/-- What a command comes to. -/
structure Outcome where
  ending : Ending
  world : World

-- ========================================================== printing

/-- Skips the rest of an escape sequence of terminals, up to its final letter;
none when the text is no such sequence. -/
def skipStyle? : List Char → Option (List Char)
  | [] => none
  | c :: cs =>
    if c.isDigit || c = ';' || c = '?' then skipStyle? cs
    else if c.isAlpha then some cs
    else none

theorem length_of_skipStyle? {cs after : List Char}
    (h : skipStyle? cs = some after) :
    after.length < cs.length := by
  induction cs with
  | nil => simp [skipStyle?] at h
  | cons c rest ih =>
    unfold skipStyle? at h
    split at h
    · exact Nat.lt_succ_of_lt (ih h)
    · split at h
      · cases h; exact Nat.lt_succ_self _
      · cases h

/-- The text without the escape sequences of terminals. -/
def withoutStyles (cs : List Char) : List Char :=
  match cs with
  | [] => []
  | '\x1b' :: '[' :: rest =>
    match h : skipStyle? rest with
    | some after =>
      have := length_of_skipStyle? h
      withoutStyles after
    | none => '\x1b' :: withoutStyles ('[' :: rest)
  | c :: rest => c :: withoutStyles rest
termination_by cs.length
decreasing_by all_goals simp_all <;> omega

/-- Prints a line. -/
def say (line : String) : Action Unit :=
  modify fun world =>
    { world with
      printed :=
        world.printed ++ String.ofList (withoutStyles line.toList) ++ "\n" }

/-- Goes on with a value, or ends with the error. -/
def orFail (value : Except Error α) : Action α :=
  match value with
  | .ok a => pure a
  | .error e => throw (.failure e)

/-- Does something to the files. -/
def onFiles (action : FileAction α) : Action α := do
  let world ← get
  let (answer, tree) := action.run world.tree
  set { world with tree }
  orFail answer

-- ================================================= the old database

/-- Reads a database that may be there from before. One that cannot be read is
reported and ignored, unless its bytes are no text at all. -/
def previousDatabase (p : Path) : Action (Option Database) := do
  let tree := (← get).tree
  let ignore (cause : String) : Action (Option Database) := do
    say ("warning: ignoring unreadable database " ++ p.text ++ ": " ++ cause)
    return none
  match ← orFail (tree.find? p) with
  | none => return none
  | some _ =>
    match tree.read p with
    | .error e => ignore e.message
    | .ok bytes =>
      match Text.decodeUtf8 bytes with
      | .error e => throw (.failure (.notUtf8 e))
      | .ok cs =>
        match Json.document Database.ofJson
          (String.ofList (Text.unifyBreaks cs)) with
        | .flawed _ => ignore "<invalid>"
        | .valid database => return some database

-- ========================================================= the build

/-- The names of log levels. -/
def levelNames : List String :=
  ["CRITICAL", "FATAL", "ERROR", "WARN", "WARNING", "INFO", "DEBUG", "NOTSET"]

/-- Refuses a log level without a meaning. -/
def checkLevel (level : String) : Except Error Unit :=
  let name := Text.upper level
  if levelNames.contains name then .ok () else .error (.unknownLevel name)

/-- The story sheets of a build: those on the command line, or else those of
the project. -/
def storyFiles (settings : Settings) (options : CompileOptions) :
    Except Error (List StoryFile) :=
  if options.stories.isEmpty then .ok settings.storyFiles
  else options.stories.mapM storyOption

/-- The text of a database file. -/
def databaseText (database : Database) : String := database.toJson.indented

/-- The text of a catalog file. -/
def catalogText (catalog : Catalog) : String := catalog.toJson.indented

/-- Writes both outputs into a folder, which is made if it is missing. -/
def writeOutputs (settings : Settings) (output : Path)
    (result : Build.Result) :
    FileAction Unit := do
  FileTree.makeDirectory output
  FileTree.write (settings.databasePath output)
    (Text.utf8Bytes (databaseText result.database))
  FileTree.write (settings.catalogPath output)
    (Text.utf8Bytes (catalogText result.catalog))

/-- The reports of a build that are printed. -/
def shownReports (verbose : Bool) (reports : List Diagnostic) :
    List Diagnostic :=
  reports.filter fun d => verbose || d.isAnomaly

/-- The line that sums up a build. -/
def summaryLine (result : Build.Result) : String :=
  let nodes : Nat := (result.database.documents.flatMap (·.nodes)).length
  "documents: " ++ Numeral.text result.database.documents.length
    ++ " rows: " ++ Numeral.text result.totalRows
    ++ " nodes: " ++ Numeral.text nodes
    ++ " cross_links: " ++ Numeral.text result.crossLinksAdded

/-- Runs a build. -/
def compile (settings : Settings) (options : CompileOptions) :
    Action Unit := do
  orFail (checkLevel (if options.verbose then "DEBUG" else settings.logLevel))
  let files ← match storyFiles settings options with
    | .ok files => pure files
    | .error _ => throw (.exit 2)
  let settings := { settings with storyFiles := files }
  let output := (options.output.map Path.ofString).getD settings.outputDir
  let sources ← orFail (settings.sources (options.root.map Path.ofString))
  let previous ← previousDatabase (settings.databasePath output)
  let result ←
    match Build.run (← get).tree settings.format sources previous with
    | .ok result => pure result
    | .error e => do
      if e.isSheetError then
        say ("error: " ++ e.message)
        throw (.exit 1)
      else throw (.failure e)
  (shownReports options.verbose result.reports).forM fun d => do
    say (← orFail d.text)
  say (summaryLine result)
  if !options.dryRun then
    onFiles (writeOutputs settings output result)
    say ("database: " ++ (settings.databasePath output).text)
    say ("catalog: " ++ (settings.catalogPath output).text)
  say (if result.status = "ok_with_warnings" then
    "completed with warnings" else "ok")

-- ======================================================= the listing

/-- The text behind blanks that fill it up to a width. -/
def alignRight (width : Nat) (s : String) : String :=
  String.ofList (List.replicate (width - s.length) ' ') ++ s

/-- The label of a node: its title, or the first line of its text. -/
def labelOf (node : Node) : String :=
  if node.title = "" then Text.firstLine node.bodyText else node.title

/-- The line of a node. -/
def nodeLine (node : Node) : String :=
  let targets := node.outgoing.map fun e =>
    Numeral.text e.destinationDocument ++ ":" ++ Numeral.text e.destinationNode
  "  " ++ alignRight 4 (Numeral.text node.localId)
    ++ " actor=" ++ Numeral.text node.speaker
    ++ " " ++ Text.quotedLabel (labelOf node)
    ++ " -> [" ++ ", ".intercalate targets ++ "]"

/-- The line above the nodes of a document. -/
def headLine (graph : Graph) : String :=
  "[" ++ Numeral.text graph.documentId ++ "] " ++ graph.title
    ++ " (conversant " ++ Numeral.text graph.conversant ++ ")"

/-- The lines of a document. -/
def documentLines (graph : Graph) : List String :=
  headLine graph :: graph.nodes.map nodeLine

/-- The documents to be listed: all of them, or the one with a title. -/
def selected (database : Database) (title : String) : Option (List Graph) :=
  if title = "" then some database.documents
  else (database.document? title).map ([·])

/-- Lists the documents of a database. -/
def inspect (options : InspectOptions) : Action Unit := do
  let p := Path.ofString options.database
  let some database ← previousDatabase p | do
    say ("error: cannot read database " ++ p.text)
    throw (.exit 1)
  let title := options.document.getD ""
  let some graphs := selected database title | do
    say ("error: no document titled '" ++ title ++ "'")
    throw (.exit 1)
  (graphs.flatMap documentLines).forM say

-- ======================================================= the program

/-- How the program is called. -/
def usage : List String :=
  ["usage: compile [--root DIR] [--output DIR] [--story PATH=TITLE]... "
     ++ "[--dry-run] [--verbose]",
   "       inspect DATABASE [--document TITLE]"]

/-- Does what is asked for. -/
def perform (settings : Settings) : Invocation → Action Unit
  | .compile options => compile settings options
  | .inspect options => inspect options
  | .help => usage.forM say
  | .unusable => throw (.exit 2)

/-- Runs the program on a tree of files. -/
def run (settings : Settings) (words : List String) (tree : FileTree) :
    Outcome :=
  let (answer, world) := (perform settings (.ofWords words)).run ⟨tree, ""⟩
  match answer with
  | .ok () => ⟨.exited 0, world⟩
  | .error (.exit code) => ⟨.exited code, world⟩
  | .error (.failure cause) => ⟨.escaped cause, world⟩

end Storyline.Command
