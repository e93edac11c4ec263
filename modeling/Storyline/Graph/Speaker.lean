/-
Who speaks a row and who listens. A blank speaker cell repeats the last
speaker, and so does one that is no number, which is reported. An option
is spoken by the player and leaves the last speaker as it was. The player
and the narrator speak to the last character who spoke, and every
character speaks to the player.
-/
import Storyline.Diagnostic
import Storyline.Error
import Storyline.Script.Row

namespace Storyline.Speaker

open Script (Row)

/-- What the rows so far leave behind. -/
structure State where
  last : Int
  counterpart : Int
  fallback : Int
deriving DecidableEq, Repr

/-- Who speaks a row and who listens, and whether the row is an option. -/
structure Voice where
  speaker : Int
  listener : Int
  isOption : Bool
deriving DecidableEq, Repr

/-- The actor whom a row names or repeats, with a report if its cell is no
number. -/
def namedActor (document : String) (state : State) (row : Row) :
    Except Error (Int × List Diagnostic) :=
  match row.spoken with
  | .integer z => .ok (z, [])
  | .tooLong digits => .error (.longNumeral digits)
  | .notInteger =>
    if Text.isBlank row.speaker then .ok (state.last, [])
    else do
      let report := .unparsableSpeaker document row.rowNumber row.speaker
        (← Numeral.print state.last)
      Diagnostic.log [report]
      return (state.last, [report])

/-- To whom the player and the narrator speak. -/
def State.facing (state : State) : Int :=
  if state.counterpart = 0 then state.fallback else state.counterpart

/-- Who listens to an actor. -/
def State.listenerTo (state : State) (actor : Int) : Int :=
  if Actor.facesCounterpart actor then state.facing else Actor.player

/-- The voice of a row of an actor, and what it leaves behind. -/
def State.speak (state : State) (actor : Int) : Voice × State :=
  if actor = Actor.option then
    (⟨Actor.player, state.listenerTo Actor.player, true⟩, state)
  else
    (⟨actor, state.listenerTo actor, false⟩,
      { state with
        last := actor
        counterpart :=
          if Actor.facesCounterpart actor then state.counterpart else actor })

/-- The voice of a row, what it leaves behind, and what there is to report. -/
def resolve (document : String) (state : State) (row : Row) :
    Except Error (Voice × State × List Diagnostic) := do
  let (actor, reports) ← namedActor document state row
  let (voice, state) := state.speak actor
  return (voice, state, reports)

/-- The first character of the story who speaks in the rows. -/
def primaryCounterpart : List Row → Except Error Int
  | [] => .ok Actor.defaultCounterpart
  | row :: rows =>
    match row.spoken with
    | .tooLong digits => .error (.longNumeral digits)
    | .notInteger => primaryCounterpart rows
    | .integer z =>
      if Actor.isReserved z then primaryCounterpart rows else .ok z

/-- The state before the first row of a document. -/
def State.initial (counterpart : Int) : State :=
  ⟨Actor.narrator, counterpart, Actor.defaultCounterpart⟩

end Storyline.Speaker
