/-
What the text of a document keeps of it. An infinity and what is no
number are written as null, so a document and the same one with null in
their place have one text (`charsThen_printable`), and whatever was read
can be written and read again in this form (`Fits.printable`).

Main statements: `indented_printable`, `Fits.printable`,
`settled_printable`.
-/
import Storyline.Json.Writer
import Storyline.Proofs.Json.Fitting

namespace Storyline

/-- What stands for a double in a text. -/
def Double.printed : Double → Json
  | .finite negative significand exponent =>
    .double (.finite negative significand exponent)
  | .infinite _ | .nan => .null

namespace Json

mutual

/-- The document as its text has it. -/
def printable : Json → Json
  | .double d => d.printed
  | .array items => .array (printableItems items)
  | .object members => .object (printableMembers members)
  | .null => .null
  | .bool value => .bool value
  | .integer value => .integer value
  | .string value => .string value

/-- The items of an array as their text has them. -/
def printableItems : List Json → List Json
  | [] => []
  | item :: rest => printable item :: printableItems rest

/-- The members of an object as their text has them. -/
def printableMembers : List (String × Json) → List (String × Json)
  | [] => []
  | (name, value) :: rest =>
    (name, printable value) :: printableMembers rest

end

theorem printableItems_eq (items : List Json) :
    printableItems items = items.map printable := by
  induction items with
  | nil => rfl
  | cons item items ih => rw [printableItems, ih, List.map_cons]

theorem printableMembers_eq (members : List (String × Json)) :
    printableMembers members
      = members.map fun member => (member.1, member.2.printable) := by
  induction members with
  | nil => rfl
  | cons member members ih => rw [printableMembers, ih, List.map_cons]

-- ============================================================ the text

theorem doubleChars_printed (layout : Layout) (depth : Nat) (d : Double)
    (rest : List Char) :
    charsThen layout depth d.printed rest = doubleChars d ++ rest := by
  cases d <;> rfl

mutual

theorem charsThen_printable (layout : Layout) (depth : Nat) (json : Json)
    (rest : List Char) :
    charsThen layout depth json.printable rest
      = charsThen layout depth json rest := by
  match json with
  | .null | .bool _ | .integer _ | .string _ | .array [] | .object [] => rfl
  | .double d => exact doubleChars_printed layout depth d rest
  | .array (first :: items) =>
    simp only [printable, printableItems, charsThen,
      charsThen_printable layout (depth + 1) first,
      itemsThen_printable layout (depth + 1) items]
  | .object ((name, value) :: members) =>
    simp only [printable, printableMembers, charsThen,
      charsThen_printable layout (depth + 1) value,
      membersThen_printable layout (depth + 1) members]

theorem itemsThen_printable (layout : Layout) (depth : Nat)
    (items : List Json) (rest : List Char) :
    itemsThen layout depth (printableItems items) rest
      = itemsThen layout depth items rest := by
  match items with
  | [] => rfl
  | item :: items =>
    simp only [printableItems, itemsThen,
      charsThen_printable layout depth item,
      itemsThen_printable layout depth items]

theorem membersThen_printable (layout : Layout) (depth : Nat)
    (members : List (String × Json)) (rest : List Char) :
    membersThen layout depth (printableMembers members) rest
      = membersThen layout depth members rest := by
  match members with
  | [] => rfl
  | (name, value) :: members =>
    simp only [printableMembers, membersThen,
      charsThen_printable layout depth value,
      membersThen_printable layout depth members]

end

theorem indented_printable (json : Json) :
    json.printable.indented = json.indented := by
  unfold indented chars
  rw [charsThen_printable]

-- ======================================================= what is kept

theorem printable_printed (d : Double) : d.printed.printable = d.printed := by
  cases d <;> rfl

/-- The text of what has been printed once is the same. -/
theorem printable_printable (json : Json) :
    json.printable.printable = json.printable := by
  induction json using Json.induction with
  | null | bool value | integer value | string value => rfl
  | double d => exact printable_printed d
  | array items ih =>
      simp only [printable, printableItems_eq, List.map_map]
      exact congrArg _ (List.map_congr_left ih)
  | object members ih =>
      simp only [printable, printableMembers_eq, List.map_map]
      refine congrArg _ (List.map_congr_left fun member hmember => ?_)
      exact congrArg (Prod.mk member.1) (ih member hmember)

/-- Printing commutes with settling. -/
theorem settled_printable (json : Json) :
    json.printable.settled = json.settled.printable := by
  induction json using Json.induction with
  | null | bool value | integer value | string value => rfl
  | double d => cases d <;> rfl
  | array items ih =>
      simp only [printable, settled, printableItems_eq, settledItems_eq,
        List.map_map]
      exact congrArg _ (List.map_congr_left ih)
  | object members ih =>
      simp only [printable, settled, printableMembers_eq, settledMembers_eq,
        ← Dict.settle_map, List.map_map]
      refine congrArg (fun members => Json.object (Dict.settle members))
        (List.map_congr_left fun member hmember => ?_)
      exact congrArg (Prod.mk member.1) (ih member hmember)

/-- What was read can be read again as its text has it. -/
theorem Fits.printable {room : Nat} {json : Json}
    (h : Fits IsRead room json) : Fits IsNormal room json.printable := by
  induction h with
  | null => exact .null
  | bool value => exact .bool value
  | integer h => exact .integer h
  | @double room d h =>
      cases d with
      | finite negative significand exponent =>
          exact .double ⟨negative, significand, exponent, rfl, h⟩
      | infinite negative => exact .null
      | nan => exact .null
  | string value => exact .string value
  | emptyArray => exact .emptyArray
  | array h ih =>
      rw [Json.printable, printableItems_eq]
      refine .array fun item hitem => ?_
      obtain ⟨old, hold, rfl⟩ := List.mem_map.1 hitem
      exact ih old hold
  | emptyObject => exact .emptyObject
  | object h ih =>
      rw [Json.printable, printableMembers_eq]
      refine .object fun member hmember => ?_
      obtain ⟨old, hold, rfl⟩ := List.mem_map.1 hmember
      exact ih old hold

end Json

end Storyline
