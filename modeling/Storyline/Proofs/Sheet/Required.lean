/-
What a table takes from its records. A loader looks its columns up once,
in the header, and takes the fields of every record from the places that
it found there; a record too short for one of these places is passed
over. So what is loaded can be told in two ways, by the names of the
columns (`Table.requiredRows_ofRecords`), and, where the places are
known, by the length of the records (`Table.required?_eq`). Two sheets
from which tables take the same are loaded alike (`Sheet.LoadsAlike`).
-/
import Mathlib.Data.List.Forall2
import Storyline.Script.Row

namespace Storyline

-- ============================================================= fields

namespace Header

variable {header : Header} {path : String} {columns : List String}
  {positions : List Nat}

/-- The field of a record in a column, if the header has the column and
the record is long enough. -/
def cell? (header : Header) (record : List String) (column : String) :
    Option String :=
  (header.position? column).bind (record[·]?)

theorem field_eq (header : Header) (record : List String)
    (column : String) :
    header.field record column = (header.cell? record column).getD "" := by
  unfold field fieldAt cell?
  cases header.position? column with
  | none => rfl
  | some place => rfl

/-- All columns are found when each of them is. -/
theorem require_eq_ok_iff :
    header.require path columns = .ok positions
      ↔ List.Forall₂ (fun column place => header.position? column = some place)
          columns positions := by
  induction columns generalizing positions with
  | nil =>
      rw [List.forall₂_nil_left_iff]
      constructor
      · intro h
        cases h
        rfl
      · intro h
        rw [h]
        rfl
  | cons column rest ih =>
      rw [List.forall₂_cons_left_iff]
      unfold require
      cases hplace : header.position? column with
      | none => simp
      | some place =>
          simp only
          rw [Error.bind_eq_ok]
          constructor
          · intro h
            obtain ⟨others, hothers, h⟩ := h
            cases h
            exact ⟨place, others, rfl, ih.1 hothers, rfl⟩
          · intro h
            obtain ⟨found, others, hfound, hothers, hpositions⟩ := h
            cases hfound
            rw [hpositions]
            exact ⟨others, ih.2 hothers, rfl⟩

/-- The fields at the places of columns are the fields in these columns. -/
theorem mapM_of_require (h : header.require path columns = .ok positions)
    (record : List String) :
    positions.mapM (record[·]?) = columns.mapM (header.cell? record) := by
  induction require_eq_ok_iff.1 h with
  | nil => rfl
  | @cons column place rest others hplace hrest ih =>
      have hcell : header.cell? record column = record[place]? := by
        unfold cell?
        rw [hplace]
        rfl
      rw [List.mapM_cons, List.mapM_cons, hcell,
        ih (require_eq_ok_iff.2 hrest)]

end Header

-- ============================================================= tables

namespace Table

/-- A record has all required fields when it is long enough for every
place. -/
theorem required?_eq (table : Table) (record : List String) :
    table.required? record
      = if ∀ place ∈ table.positions, place < record.length then
          some (table.positions.map fun place =>
            Header.fieldAt record (some place))
        else none := by
  unfold required?
  induction table.positions with
  | nil => simp
  | cons place others ih =>
      rw [List.mapM_cons, ih]
      simp only [List.forall_mem_cons]
      by_cases hplace : place < record.length
      · have hfield : record[place]?
            = some (Header.fieldAt record (some place)) := by
          show record[place]? = some (record[place]?.getD "")
          simp [hplace]
        rw [hfield]
        by_cases hothers : ∀ place ∈ others, place < record.length
        · rw [if_pos hothers, if_pos ⟨hplace, hothers⟩]
          rfl
        · have hboth : ¬(place < record.length
              ∧ ∀ place ∈ others, place < record.length) :=
            fun h => hothers h.2
          rw [if_neg hothers, if_neg hboth]
          rfl
      · have hboth : ¬(place < record.length
            ∧ ∀ place ∈ others, place < record.length) :=
          fun h => hplace h.1
        rw [List.getElem?_eq_none (Nat.le_of_not_lt hplace), if_neg hboth]
        rfl

/-- The required rows are the fields of the records that are long enough,
in order. -/
theorem requiredRows_eq (table : Table) :
    table.requiredRows
      = (table.rows.filter fun record =>
            ∀ place ∈ table.positions, place < record.length).map
          fun record => table.positions.map fun place =>
            Header.fieldAt record (some place) := by
  unfold requiredRows
  rw [← List.filterMap_eq_map, List.filterMap_filter]
  refine List.filterMap_congr fun record _ => ?_
  rw [required?_eq]
  simp

variable {tree : FileTree} {format : Sheet.Format} {path : Path}
  {required : List String} {records : List (List String)} {table : Table}

theorem read_of_records
    (h : Sheet.readRecords tree format path = .ok records) :
    read tree format path required = ofRecords path required records := by
  unfold read
  rw [h]
  rfl

/-- A table that can be read has a header with all required columns. -/
theorem exists_of_read (h : read tree format path required = .ok table) :
    ∃ first, Sheet.readRecords tree format path
          = .ok (first :: table.rows)
        ∧ List.Forall₂ (fun column place =>
            (Header.ofRecord first).position? column = some place)
          required table.positions := by
  obtain ⟨records, hrecords, h⟩ := Error.bind_eq_ok.1 h
  cases records with
  | nil =>
      unfold ofRecords at h
      cases required with
      | nil => cases h
      | cons column rest => cases h
  | cons first rows =>
      obtain ⟨positions, hpositions, h⟩ := Error.bind_eq_ok.1 h
      cases h
      exact ⟨first, hrecords, Header.require_eq_ok_iff.1 hpositions⟩

/-- The places of two columns. -/
theorem exists_of_read_pair {column other : String}
    (h : read tree format path [column, other] = .ok table) :
    ∃ first place otherPlace,
      Sheet.readRecords tree format path = .ok (first :: table.rows)
        ∧ (Header.ofRecord first).position? column = some place
        ∧ (Header.ofRecord first).position? other = some otherPlace
        ∧ table.positions = [place, otherPlace] := by
  obtain ⟨first, hrecords, hplaces⟩ := exists_of_read h
  obtain ⟨place, others, hplace, hothers, hpositions⟩ :=
    List.forall₂_cons_left_iff.1 hplaces
  obtain ⟨otherPlace, rest, hother, hrest, hothers⟩ :=
    List.forall₂_cons_left_iff.1 hothers
  cases hrest
  rw [hothers] at hpositions
  exact ⟨first, place, otherPlace, hrecords, hplace, hother, hpositions⟩

/-- The required rows, told by the names of the columns. -/
theorem requiredRows_ofRecords (path : Path) (required cells : List String)
    (records : List (List String)) :
    (ofRecords path required (cells :: records)).map requiredRows
      = ((Header.ofRecord cells).require path.text required).map fun _ =>
          records.filterMap fun record =>
            required.mapM ((Header.ofRecord cells).cell? record) := by
  unfold ofRecords
  simp only
  cases hpositions : (Header.ofRecord cells).require path.text required with
  | error e => rfl
  | ok positions =>
      show Except.ok (List.filterMap _ records) = .ok _
      refine congrArg Except.ok (List.filterMap_congr fun record _ => ?_)
      exact Header.mapM_of_require hpositions record

end Table

-- ============================================================ loaders

namespace Sheet

variable (tree : FileTree) (format : Format) (path : Path)

theorem loadActors_eq :
    loadActors tree format path
      = (Table.read tree format path actorColumns).map Table.requiredRows
          >>= actorsOfRows := by
  unfold loadActors
  cases Table.read tree format path actorColumns with
  | error e => rfl
  | ok table => rfl

theorem loadKeyed_eq (keyColumn valueColumn : String) :
    loadKeyed tree format keyColumn valueColumn path
      = ((Table.read tree format path [keyColumn, valueColumn]).map
          Table.requiredRows).map (·.filterMap keyedRow?) := by
  unfold loadKeyed
  cases Table.read tree format path [keyColumn, valueColumn] with
  | error e => rfl
  | ok table => rfl

theorem loadStandings_eq :
    loadStandings tree format path
      = ((Table.read tree format path standingColumns).map
          Table.requiredRows).map (·.filterMap standingRow?) := by
  unfold loadStandings
  cases Table.read tree format path standingColumns with
  | error e => rfl
  | ok table => rfl

end Sheet

/-- The rows of a story, told by the fields of its records. -/
theorem Script.rowsOfTable_ofRecords (path : Path)
    (required cells : List String) (records : List (List String)) :
    (Table.ofRecords path required (cells :: records)).map rowsOfTable
      = ((Header.ofRecord cells).require path.text required).map fun _ =>
          rowsFrom (Places.ofHeader (Header.ofRecord cells)) 1 records := by
  unfold Table.ofRecords
  simp only
  cases (Header.ofRecord cells).require path.text required with
  | error e => rfl
  | ok positions => rfl

theorem Script.loadRows_eq (tree : FileTree) (format : Sheet.Format)
    (required : List String) (path : Path) :
    loadRows tree format required path
      = (Table.read tree format path required).map rowsOfTable := by
  unfold loadRows
  cases Table.read tree format path required with
  | error e => rfl
  | ok table => rfl

-- ========================================================= two sheets

/-- The loaders make the same of what stands at a path in two trees, rows
or error, whatever columns they ask for. -/
structure Sheet.LoadsAlike (tree : FileTree) (format : Format)
    (otherTree : FileTree) (otherFormat : Format) (path : Path) : Prop where
  actors : loadActors otherTree otherFormat path
    = loadActors tree format path
  keyed : ∀ keyColumn valueColumn,
    loadKeyed otherTree otherFormat keyColumn valueColumn path
      = loadKeyed tree format keyColumn valueColumn path
  standings : loadStandings otherTree otherFormat path
    = loadStandings tree format path
  stories : ∀ required, Script.loadRows otherTree otherFormat required path
    = Script.loadRows tree format required path

/-- They do when they find the same fields in the required columns and the
same rows of a story. -/
theorem Sheet.LoadsAlike.of_tables {tree otherTree : FileTree}
    {format otherFormat : Format} {path : Path}
    (hrows : ∀ required,
      (Table.read otherTree otherFormat path required).map Table.requiredRows
        = (Table.read tree format path required).map Table.requiredRows)
    (hstories : ∀ required,
      (Table.read otherTree otherFormat path required).map Script.rowsOfTable
        = (Table.read tree format path required).map Script.rowsOfTable) :
    LoadsAlike tree format otherTree otherFormat path := by
  constructor
  · rw [loadActors_eq, loadActors_eq, hrows]
  · intro keyColumn valueColumn
    rw [loadKeyed_eq, loadKeyed_eq, hrows]
  · rw [loadStandings_eq, loadStandings_eq, hrows]
  · intro required
    rw [Script.loadRows_eq, Script.loadRows_eq, hstories]

end Storyline
