/-
Paths to sheets and outputs, kept in one normal form: repeated slashes
and components `.` are gone, `..` stays because a directory on the way
may be a link. A path is relative, or it starts at the root with one
slash, or with exactly two, which some systems read as another root.
-/

namespace Storyline

/-- Where a path starts. -/
inductive Path.Anchor where
  | here
  | root
  | doubleRoot
deriving DecidableEq, Repr

/-- A path in normal form. -/
structure Path where
  anchor : Path.Anchor
  components : List String
deriving DecidableEq, Repr

namespace Path

-- ========================================================= reading

/-- Cuts a text at every slash. -/
def cutAtSlashes : List Char → List (List Char)
  | [] => [[]]
  | c :: cs =>
    match cutAtSlashes cs with
    | [] => [[]]
    | part :: parts =>
      if c = '/' then [] :: part :: parts else (c :: part) :: parts

/-- The components that say something. -/
def componentsOf (cs : List Char) : List String :=
  ((cutAtSlashes cs).filter fun part =>
    part ≠ [] && part ≠ ['.']).map String.ofList

/-- Where a written path starts. -/
def anchorOf : List Char → Anchor
  | '/' :: '/' :: '/' :: _ => .root
  | '/' :: '/' :: _ => .doubleRoot
  | '/' :: _ => .root
  | _ => .here

/-- Reads a path as it is written. -/
def ofString (written : String) : Path :=
  ⟨anchorOf written.toList, componentsOf written.toList⟩

-- ========================================================= writing

/-- The slashes in front. -/
def Anchor.text : Anchor → String
  | .here => ""
  | .root => "/"
  | .doubleRoot => "//"

/-- The path as text; the place where one stands is a dot. -/
def text (p : Path) : String :=
  let written := p.anchor.text ++ "/".intercalate p.components
  if written = "" then "." else written

/-- The last component, empty when there is none. -/
def name (p : Path) : String := p.components.getLast?.getD ""

/-- Whether a path holds a null character, which nothing in a file system
does. -/
def hasNull (p : Path) : Bool := p.components.any (·.toList.contains '\x00')

-- ====================================================== operations

/-- The second path as seen from the first; one that starts at a root stands
alone. -/
def join (base item : Path) : Path :=
  match item.anchor with
  | .here => ⟨base.anchor, base.components ++ item.components⟩
  | .root | .doubleRoot => item

/-- A name below a directory. -/
def child (base : Path) (written : String) : Path :=
  base.join (ofString written)

end Path

end Storyline
