/-
What is staged while a row is shown, as lines of commands: the
background, the three standing poses, the music, the sound effect, and
the row's own commands at the end.
-/
import Storyline.Script.Row

namespace Storyline.Script

-- ========================================================= commands

/-- Shows another background. -/
def changeBackground (background : String) : String :=
  "ChangeBG(" ++ background ++ ");"

/-- Puts an actor in a pose on one of the three places. -/
def showStanding (slot : String) (actor : Int) (pose : String) : String :=
  "ShowStanding(" ++ slot ++ ", " ++ Numeral.text actor ++ ", " ++ pose ++ ");"

/-- Clears one of the three places. -/
def hideStanding (slot : String) : String := "HideStanding(" ++ slot ++ ");"

/-- Plays music or a sound effect. -/
def playSound (sound : String) : String := "PlaySound(" ++ sound ++ ");"

-- ==================================================== standing poses

/-- What a standing cell asks for. -/
inductive Standing where
  | nothing
  | hide
  | pose (actor : Int) (look : String)
deriving DecidableEq, Repr

/-- The two sides of the only underscore. -/
def splitPose? (cs : List Char) : Option (List Char × List Char) :=
  match cs.dropWhile (· ≠ '_') with
  | [] => none
  | _ :: pose =>
    if pose.contains '_' then none else some (cs.takeWhile (· ≠ '_'), pose)

/-- Reads a standing cell: the word `hide`, or an actor and a pose with one
underscore between them. Anything else asks for nothing. -/
def Standing.read (cell : String) : Except Error Standing :=
  let token := Text.trim cell
  if token = "" then .ok .nothing
  else if Text.lower token = "hide" then .ok .hide
  else
    match splitPose? token.toList with
    | none => .ok .nothing
    | some (actor, look) =>
      match Numeral.readChars actor with
      | .integer z => .ok (.pose z (String.ofList look))
      | .tooLong digits => .error (.longNumeral digits)
      | .notInteger => .ok .nothing

/-- The command for a place on the stage, if one is asked for. -/
def Standing.command? (slot : String) : Standing → Option String
  | .nothing => none
  | .hide => some (hideStanding slot)
  | .pose actor look => some (showStanding slot actor look)

/-- The command of a standing cell. -/
def standingCommand? (slot cell : String) : Except Error (Option String) := do
  return (← Standing.read cell).command? slot

-- =========================================================== scripts

/-- The command of a cell that is filled in. -/
def commandOf (command : String → String) (cell : String) : Option String :=
  if cell = "" then none else some (command cell)

/-- The commands of a row in their order. -/
def Row.commands (row : Row) : Except Error (List String) := do
  let standings ←
    row.standingSlots.mapM fun (slot, cell) => standingCommand? slot cell
  let all := [commandOf changeBackground row.background] ++ standings
    ++ [commandOf playSound row.music, commandOf playSound row.soundEffect,
        commandOf id row.sequence]
  return (all.filterMap id).filter (!Text.isBlank ·)

/-- The script of a row, one command a line. -/
def Row.script (row : Row) : Except Error String := do
  return "\n".intercalate (← row.commands)

end Storyline.Script
