/-
What the text of a database keeps of it: everything but the doubles in
its variables that are no finite numbers. A database that was read can be
read again once it is written, in this form.

Main statements: `Database.indented_printable`,
`Database.portable_printable_of_document`.
-/
import Storyline.Proofs.Database.RoundTrip
import Storyline.Proofs.Json.Printable

namespace Storyline

/-- A variable as its text has it. -/
def Variable.printable (var : Variable) : Variable :=
  var.map fun entry => (entry.1, entry.2.printable)

theorem Variable.Lawful.printable {var : Variable} (h : Lawful var) :
    Lawful (Variable.printable var) := by
  refine ⟨?_, fun entry hentry => ?_⟩
  · unfold Dict.Distinct Variable.printable
    rw [List.map_map]
    exact h.distinct
  · obtain ⟨old, hold, rfl⟩ := List.mem_map.1 hentry
    show old.2.printable.settled = old.2.printable
    rw [Json.settled_printable, h.settled old hold]

namespace Database

variable {database : Database}

/-- A database as its text has it. -/
def printable (database : Database) : Database :=
  { database with vars := database.vars.map Variable.printable }

/-- A database and what its text keeps of it are written alike. -/
theorem indented_printable (database : Database) :
    database.printable.toJson.indented = database.toJson.indented := by
  have hvar : ∀ var : Variable,
      (Json.object (Variable.printable var)).printable
        = (Json.object var).printable := by
    intro var
    unfold Variable.printable
    rw [Json.printable, Json.printable, Json.printableMembers_eq,
      Json.printableMembers_eq, List.map_map]
    refine congrArg _ (List.map_congr_left fun entry _ => ?_)
    exact congrArg (Prod.mk entry.1) (Json.printable_printable entry.2)
  have hvars : Json.printableItems
        ((database.vars.map Variable.printable).map .object)
      = Json.printableItems (database.vars.map .object) := by
    rw [Json.printableItems_eq, Json.printableItems_eq, List.map_map,
      List.map_map, List.map_map]
    exact List.map_congr_left fun var _ => hvar var
  have hwhole : database.printable.toJson.printable
      = database.toJson.printable := by
    unfold toJson printable
    simp only [Json.printable, Json.printableMembers, hvars]
  rw [← Json.indented_printable, hwhole, Json.indented_printable]

/-- What was read can be carried over as its text has it. -/
theorem portable_printable_of_document {text : String}
    (h : Json.document ofJson text = .valid database) :
    database.printable.Portable := by
  obtain ⟨hvars, hfits, hitems⟩ := carried_of_document h
  refine ⟨fun var hvar => ?_, fun var hvar entry hentry => ?_, hitems⟩
  · obtain ⟨old, hold, rfl⟩ := List.mem_map.1 hvar
    exact (hvars old hold).printable
  · obtain ⟨old, hold, rfl⟩ := List.mem_map.1 hvar
    obtain ⟨value, hvalue, rfl⟩ := List.mem_map.1 hentry
    exact (hfits old hold value hvalue).printable

end Database

end Storyline
