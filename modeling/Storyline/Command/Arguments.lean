/-
The command line as words: which command is asked for, with which
options. An option takes its value behind an equals sign or as the next
word, whatever that is; everything behind two dashes is no option. A story
sheet is named as `PATH=TITLE`, where a path may hold equals signs and a
title may not.
-/
import Storyline.Settings

namespace Storyline.Command

-- ======================================================== the types

/-- The options of a build. -/
structure CompileOptions where
  root : Option String
  output : Option String
  stories : List String
  dryRun : Bool
  verbose : Bool
deriving DecidableEq, Repr

/-- The options of a listing. -/
structure InspectOptions where
  database : String
  document : Option String
deriving DecidableEq, Repr

/-- What is asked for. -/
inductive Invocation where
  | compile (options : CompileOptions)
  | inspect (options : InspectOptions)
  | help
  | unusable
deriving DecidableEq, Repr

-- ========================================================== options

/-- Whether an option takes a value. -/
inductive Kind where
  | flag
  | valued
deriving DecidableEq, Repr

/-- The options of a command. -/
abbrev OptionTable := List (String × Kind)

/-- A word of the command line as it counts. -/
inductive Argument where
  | flag (name : String)
  | value (name value : String)
  | plain (text : String)
deriving DecidableEq, Repr

/-- A word that begins with a dash and has more to it. -/
def isOption (word : String) : Bool :=
  match word.toList with
  | '-' :: _ :: _ => true
  | _ => false

/-- The two sides of the first equals sign. -/
def splitValue (word : String) : String × Option String :=
  let cs := word.toList
  match cs.dropWhile (· ≠ '=') with
  | [] => (word, none)
  | _ :: value =>
    (String.ofList (cs.takeWhile (· ≠ '=')), some (String.ofList value))

/-- The one-letter flags in a word behind a single dash. -/
def shortFlags? (table : OptionTable) (word : String) :
    Option (List Argument) :=
  match word.toList with
  | '-' :: '-' :: _ => none
  | '-' :: letters =>
    letters.mapM fun c =>
      let name := String.ofList ['-', c]
      match table.lookup name with
      | some .flag => some (.flag name)
      | some .valued | none => none
  | _ => none

/-- Reads the words of a command; none when one of them cannot be used. -/
def arguments? (table : OptionTable) : List String → Option (List Argument)
  | [] => some []
  | word :: words =>
    if word = "--" then some (words.map .plain)
    else if !isOption word then (arguments? table words).map (.plain word :: ·)
    else
      let (name, attached) := splitValue word
      match table.lookup name, attached with
      | some .flag, none => (arguments? table words).map (.flag name :: ·)
      | some .flag, some _ => none
      | some .valued, some value =>
        (arguments? table words).map (.value name value :: ·)
      | some .valued, none =>
        match words with
        | [] => none
        | value :: words =>
          (arguments? table words).map (.value name value :: ·)
      | none, _ => do
        return (← shortFlags? table word) ++ (← arguments? table words)

-- ========================================================= commands

/-- The values of an option in their order. -/
def valuesOf (name : String) (arguments : List Argument) : List String :=
  arguments.filterMap fun
    | .value option value => if option = name then some value else none
    | _ => none

/-- Whether one of the names stands among the flags. -/
def hasFlag (names : List String) (arguments : List Argument) : Bool :=
  arguments.any fun
    | .flag name => names.contains name
    | _ => false

/-- The words that are no options. -/
def plainWords (arguments : List Argument) : List String :=
  arguments.filterMap fun
    | .plain text => some text
    | _ => none

/-- The options of the command that builds. -/
def compileTable : OptionTable :=
  [("--root", .valued), ("--output", .valued), ("--story", .valued),
   ("--dry-run", .flag), ("--verbose", .flag), ("-v", .flag),
   ("--help", .flag)]

/-- The options of the command that lists. -/
def inspectTable : OptionTable := [("--document", .valued), ("--help", .flag)]

/-- The options of a build. -/
def compileOptions (arguments : List Argument) : CompileOptions where
  root := (valuesOf "--root" arguments).getLast?
  output := (valuesOf "--output" arguments).getLast?
  stories := valuesOf "--story" arguments
  dryRun := hasFlag ["--dry-run"] arguments
  verbose := hasFlag ["--verbose", "-v"] arguments

/-- Whether a word can be a path. -/
def isPath (word : String) : Bool := !(Path.ofString word).hasNull

/-- A build from the words behind the command. Folders have to be paths. -/
def compileInvocation (words : List String) : Invocation :=
  match arguments? compileTable words with
  | none => .unusable
  | some arguments =>
    let options := compileOptions arguments
    if hasFlag ["--help"] arguments then .help
    else if !(plainWords arguments).isEmpty then .unusable
    else if options.root.all isPath && options.output.all isPath then
      .compile options
    else .unusable

/-- A listing from the words behind the command. -/
def inspectInvocation (words : List String) : Invocation :=
  match arguments? inspectTable words with
  | none => .unusable
  | some arguments =>
    if hasFlag ["--help"] arguments then .help
    else
      match plainWords arguments with
      | [database] =>
        if isPath database then
          .inspect ⟨database, (valuesOf "--document" arguments).getLast?⟩
        else .unusable
      | _ => .unusable

/-- What a command line asks for. -/
def Invocation.ofWords : List String → Invocation
  | "--" :: "compile" :: words | "compile" :: words => compileInvocation words
  | "--" :: "inspect" :: words | "inspect" :: words => inspectInvocation words
  | "--help" :: _ => .help
  | _ => .unusable

-- ===================================================== story sheets

/-- Both sides of the last equals sign, trimmed. -/
def splitStory? (value : String) : Option StoryFile :=
  let backwards := value.toList.reverse
  match backwards.dropWhile (· ≠ '=') with
  | [] => none
  | _ :: path =>
    let path := Text.trim (String.ofList path.reverse)
    let title :=
      Text.trim (String.ofList (backwards.takeWhile (· ≠ '=')).reverse)
    if path = "" || title = "" then none else some ⟨path, title⟩

/-- Reads a story option. -/
def storyOption (value : String) : Except Error StoryFile :=
  match splitStory? value with
  | some file => .ok file
  | none => .error (.storyOption value)

end Storyline.Command
