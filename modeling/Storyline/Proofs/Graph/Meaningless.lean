/-
Rows that mean nothing. Such a row may still hold an expression, a figure
on the stage, a choice group or a lock, and it stands somewhere: inside a
menu, between a line and its menu, or in front of everybody who speaks.
Nothing of it reaches a compiled document, because everything that the
compiler reads is read behind a filter. The one exception is the search
for the first character, which looks through all rows; it passes over
this one, since a speaker cell that says a number has a meaning.

Main statement: `compile_of_meaningful_eq`, for the document and for the
error.
-/
import Storyline.Proofs.Graph.Edges
import Storyline.Proofs.Graph.Voices

namespace Storyline

open Script (Row)

namespace Speaker

/-- A row that means nothing is passed over in the search for the first
character. -/
theorem primaryCounterpart_cons_of_not_meaningful {row : Row}
    (h : row.isMeaningful = false) (rows : List Row) :
    primaryCounterpart (row :: rows) = primaryCounterpart rows := by
  rw [primaryCounterpart]
  simp only [spoken_of_not_meaningful h]

/-- The search for the first character comes to the same among the rows
that mean something, also where it breaks off. -/
theorem primaryCounterpart_meaningful (rows : List Row) :
    primaryCounterpart (rows.filter (·.isMeaningful))
      = primaryCounterpart rows := by
  induction rows with
  | nil => rfl
  | cons row rows ih =>
      cases hmeans : row.isMeaningful with
      | true =>
          rw [List.filter_cons_of_pos hmeans, primaryCounterpart,
            primaryCounterpart, ih]
      | false =>
          rw [List.filter_cons_of_neg (by simp [hmeans]), ih,
            primaryCounterpart_cons_of_not_meaningful hmeans]

end Speaker

namespace Compile

/-- Everything that the compiler reads of some rows is read of those that
mean something. -/
theorem compile_meaningful (rows : List Row) (heading : Heading) :
    compile (meaningful rows) heading = compile rows heading := by
  unfold compile
  rw [Speaker.primaryCounterpart_meaningful, List.filter_filter]
  simp only [Bool.and_self]

theorem meaningful_insert {row : Row} (h : row.isMeaningful = false)
    (before after : List Row) :
    meaningful (before ++ row :: after) = meaningful (before ++ after) := by
  rw [meaningful, List.filter_append, List.filter_cons_of_neg (by simp [h]),
    ← List.filter_append]

/-- Rows that mean nothing cannot be seen. Two lists of rows that differ
in such rows alone compile to the same document, with its graph, its open
links, its count of rows and its reports, or fail with the same error. So
it is when all of them are deleted, and when one of them is put anywhere
among the rows, whatever is written in its other cells. -/
theorem compile_of_meaningful_eq (heading : Heading) :
    (∀ rows others, meaningful rows = meaningful others →
        compile rows heading = compile others heading)
      ∧ (∀ rows, compile (meaningful rows) heading = compile rows heading)
      ∧ ∀ before row after, row.isMeaningful = false →
          compile (before ++ row :: after) heading
            = compile (before ++ after) heading := by
  have hsame : ∀ rows others, meaningful rows = meaningful others →
      compile rows heading = compile others heading := by
    intro rows others h
    rw [← compile_meaningful rows, h, compile_meaningful]
  refine ⟨hsame, fun rows => compile_meaningful rows heading, ?_⟩
  intro before row after hrow
  exact hsame _ _ (meaningful_insert hrow before after)

/-- A row that only stages something. -/
def stagingRow (rowNumber : Int) : Row :=
  { spokenRow rowNumber " " "" "" [] with
    choiceGroup := "menu", expression := "smile"
    autoProgressLocked := "yes", standingLeft := "3" }

/-- A question with two options and a last line. -/
def clearStory : List Row :=
  [spokenRow 2 "3" "Ask?" "" [], spokenRow 4 "99" "Yes" "" [],
   spokenRow 6 "99" "No" "" [], spokenRow 7 "" "Ok" "" []]

/-- The same with staging in front of the question, between it and its
menu, and inside the menu. -/
def stagedStory : List Row :=
  [stagingRow 1, spokenRow 2 "3" "Ask?" "" [], stagingRow 3,
   spokenRow 4 "99" "Yes" "" [], stagingRow 5, spokenRow 6 "99" "No" "" [],
   spokenRow 7 "" "Ok" "" []]

/-- With and without the staging the question leads to both options, and
they lead on to the last line. -/
theorem compile_stagedStory :
    compile stagedStory ⟨1, "Demo"⟩ = compile clearStory ⟨1, "Demo"⟩
      ∧ compile (stagingRow 1 :: clearStory) ⟨1, "Demo"⟩
          = compile clearStory ⟨1, "Demo"⟩
      ∧ (compile stagedStory ⟨1, "Demo"⟩).toOption.map (·.graph.edges)
          = some [⟨1, 0, 1, 1⟩, ⟨1, 1, 1, 2⟩, ⟨1, 1, 1, 3⟩, ⟨1, 2, 1, 4⟩,
              ⟨1, 3, 1, 4⟩] := by
  obtain ⟨hsame, -, hinsert⟩ := compile_of_meaningful_eq ⟨1, "Demo"⟩
  have hstaged := hsame stagedStory clearStory (by decide +kernel)
  refine ⟨hstaged, ?_, ?_⟩
  · exact hinsert [] (stagingRow 1) clearStory (by decide +kernel)
  · rw [hstaged]
    decide +kernel

end Compile

end Storyline
