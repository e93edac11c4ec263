/-
A tree of files as a build sees it: what stands at each place, and what
happens when a path is read, written or made a directory. A place is
found by walking the path component by component; every component but the
last has to be a directory, and `..` leads back up. Components have at most
255 bytes, whole paths fewer than 4096, and no path holds a null character.

Three kinds of places are directories in every tree: the one where the
build runs, those above it, and the root.
-/
import Storyline.Error

namespace Storyline

/-- What stands at a place. -/
inductive Entry where
  | file (content : List UInt8)
  | directory
deriving DecidableEq

/-- A place in the tree, walked to from the directory of the build or from the
root. -/
abbrev Place := List String

/-- The files and directories of a tree; of several entries for one place the
first counts. -/
structure FileTree where
  entries : List (Place × Entry)
deriving DecidableEq

/-- What an operation on files does: it may fail, and what it did before stays
done. -/
abbrev FileAction := ExceptT Error (StateM FileTree)

namespace FileTree

-- =========================================================== places

/-- The root as a place. -/
def rootPlace : Place := ["/"]

/-- A place that is a directory in every tree. -/
def isBase (place : Place) : Bool := place = rootPlace || place.all (· = "..")

/-- The place of the directory around a place. -/
def above (place : Place) : Place :=
  if place = rootPlace then rootPlace
  else if place.all (· = "..") then place ++ [".."]
  else place.dropLast

/-- What stands at a place. -/
def at? (tree : FileTree) (place : Place) : Option Entry :=
  if isBase place then some .directory else tree.entries.lookup place

/-- Where the walk along a path begins. -/
def startOf : Path.Anchor → Place
  | .here => []
  | .root | .doubleRoot => rootPlace

/-- One component further. -/
def next (place : Place) (component : String) : Place :=
  if component = ".." then above place else place ++ [component]

/-- Why the end of a path cannot be walked to. -/
inductive Obstacle where
  /-- Nothing where a directory should be. -/
  | missing
  /-- A file where a directory should be. -/
  | file
  /-- The path is too long, or the next component is. -/
  | tooLong
  /-- A null character in the path. -/
  | null
deriving DecidableEq, Repr

/-- The most bytes of a component. -/
def componentLimit : Nat := 255

/-- The most bytes of a path. -/
def pathLimit : Nat := 4095

/-- Walks on from a place; what is at the end is not looked at. -/
def walk (tree : FileTree) (place : Place) :
    List String → Except Obstacle Place
  | [] => .ok place
  | component :: rest =>
    match tree.at? place with
    | none => .error .missing
    | some (.file _) => .error .file
    | some .directory =>
      if componentLimit < component.utf8ByteSize then .error .tooLong
      else walk tree (next place component) rest

/-- What is wrong with a path before anything is looked up. -/
def obstacleIn? (p : Path) : Option Obstacle :=
  if p.hasNull then some .null
  else if pathLimit < p.text.utf8ByteSize then some .tooLong
  else none

/-- The place that a path leads to. -/
def locate (tree : FileTree) (p : Path) : Except Obstacle Place :=
  match obstacleIn? p with
  | some obstacle => .error obstacle
  | none => tree.walk (startOf p.anchor) p.components

/-- An obstacle on the way along a path, as an error. -/
def Obstacle.error (p : Path) : Obstacle → Error
  | .missing => .noSuchFile p
  | .file => .notDirectory p
  | .tooLong => .nameTooLong p
  | .null => .nullInPath

-- ========================================================== reading

/-- What a path leads to, if anything. A path that is too long cannot even be
asked for. -/
def find? (tree : FileTree) (p : Path) : Except Error (Option Entry) :=
  match tree.locate p with
  | .ok place => .ok (tree.at? place)
  | .error .tooLong => .error (.nameTooLong p)
  | .error _ => .ok none

/-- Whether a path leads to a file. -/
def isFile (tree : FileTree) (p : Path) : Except Error Bool := do
  match ← tree.find? p with
  | some (.file _) => return true
  | some .directory | none => return false

/-- The content of the file that a path leads to. -/
def read (tree : FileTree) (p : Path) : Except Error (List UInt8) :=
  match tree.locate p with
  | .error obstacle => .error (obstacle.error p)
  | .ok place =>
    match tree.at? place with
    | none => .error (.noSuchFile p)
    | some .directory => .error (.isDirectory p)
    | some (.file content) => .ok content

-- ========================================================== writing

/-- The tree with something else at a place. -/
def put (tree : FileTree) (place : Place) (entry : Entry) : FileTree :=
  ⟨(place, entry) :: tree.entries.filter (·.1 ≠ place)⟩

/-- Writes a file into a directory that exists. -/
def write (p : Path) (content : List UInt8) : FileAction Unit := do
  let tree ← get
  match tree.locate p with
  | .error obstacle => throw (obstacle.error p)
  | .ok place =>
    match tree.at? place with
    | some .directory => throw (.isDirectory p)
    | none | some (.file _) => set (tree.put place (.file content))

/-- A file in the way of a directory that is being made: behind the components
that were passed, in front of the rest. Once a directory has been made the way
is made step by step, and the error names the step. -/
def fileInTheWay (p : Path) (anyMade : Bool) (passed rest : List String) :
    Error :=
  if anyMade || rest.isEmpty then .fileExists { p with components := passed }
  else .notDirectory p

/-- Walks on from a place and makes the directories that are missing. -/
def makeFrom (p : Path) (anyMade : Bool) (passed : List String)
    (place : Place) :
    List String → FileAction Unit
  | [] => pure ()
  | component :: rest => do
    if componentLimit < component.utf8ByteSize then throw (.nameTooLong p)
    let tree ← get
    let place := next place component
    let passed := passed ++ [component]
    match tree.at? place with
    | some .directory => makeFrom p anyMade passed place rest
    | some (.file _) => throw (fileInTheWay p anyMade passed rest)
    | none =>
      set (tree.put place .directory)
      makeFrom p true passed place rest

/-- Makes a directory and those around it, as far as they are missing. -/
def makeDirectory (p : Path) : FileAction Unit :=
  match obstacleIn? p with
  | some obstacle => throw (obstacle.error p)
  | none => makeFrom p false [] (startOf p.anchor) p.components

-- ====================================================== small lemmas

@[simp] theorem at?_put_self (tree : FileTree) (place : Place) (entry : Entry)
    (h : isBase place = false) :
    (tree.put place entry).at? place = some entry := by
  simp [at?, put, h]

end FileTree

end Storyline
