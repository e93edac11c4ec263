/-
Sheets in another order of columns. Authors move the columns of a sheet
around, put columns of their own between them and spell the names in the
header in their own way; programs that write sheets leave out empty
fields at the end of a record. None of that changes what is loaded.

# What is compared

What the loaders make of two sheets. One order of columns (`arrange`)
takes the header and every record of the first to the second, up to the
spelling of names (`Header.nameOf`); for a story the records of the second
may also be cut short (`CutFrom`).

# What carries it

* in a header of distinct names (`Header.Proper`) a column stands where
  its name stands (`position?_eq_some_iff`), so it moves along with the
  fields below it (`place_arranged`, `cell?_arranged`);
* a table is told by the fields in its columns, and so is a story
  (`require_congr`, `rowsFrom_congr`).

Main statement: `load_of_arranged`.
-/
import Mathlib.Data.List.FinRange
import Storyline.Proofs.Build.Faults
import Storyline.Proofs.Sheet.Required

namespace Storyline

-- ============================================================= headers

namespace Header

/-- The name in a header cell as names are compared. -/
def nameOf (cell : String) : String := Text.lower (cleanCell cell)

/-- A header in which every column has a name, and no two columns have
the same. -/
structure Proper (cells : List String) : Prop where
  named : "" ∉ cells.map nameOf
  distinct : (cells.map nameOf).Nodup

theorem Proper.of_perm {cells others : List String} (h : Proper cells)
    (hperm : (others.map nameOf).Perm (cells.map nameOf)) :
    Proper others :=
  ⟨fun hmem => h.named (hperm.mem_iff.1 hmem), hperm.nodup_iff.2 h.distinct⟩

/-- Where every column has a name, names alone tell where a column is. -/
theorem position?_eq_findIdx? {cells : List String}
    (h : "" ∉ cells.map nameOf) (column : String) :
    (ofRecord cells).position? column
      = cells.findIdx? fun cell => nameOf cell = Text.lower column := by
  unfold position? ofRecord
  simp only
  induction cells with
  | nil => rw [List.map_nil, List.findIdx?_nil, List.findIdx?_nil]
  | cons cell rest ih =>
      rw [List.map_cons, List.mem_cons, not_or] at h
      have hclean : cleanCell cell ≠ "" := by
        intro hempty
        apply h.1
        unfold nameOf
        rw [hempty]
        decide +kernel
      have htest : (decide (cleanCell cell ≠ "")
            && decide (Text.lower (cleanCell cell) = Text.lower column))
          = decide (nameOf cell = Text.lower column) := by
        rw [decide_eq_true hclean, Bool.true_and]
        rfl
      rw [List.map_cons, List.findIdx?_cons, List.findIdx?_cons, htest,
        ih h.2]

/-- In a proper header a column stands where its name stands. -/
theorem position?_eq_some_iff {cells : List String} (h : Proper cells)
    {column : String} {place : Nat} :
    (ofRecord cells).position? column = some place
      ↔ (cells.map nameOf)[place]? = some (Text.lower column) := by
  rw [position?_eq_findIdx? h.named, List.findIdx?_eq_some_iff_getElem,
    List.getElem?_map, Option.map_eq_some_iff]
  constructor
  · intro hfound
    obtain ⟨hplace, hname, -⟩ := hfound
    exact ⟨cells[place], List.getElem?_eq_getElem hplace,
      of_decide_eq_true hname⟩
  · intro hfound
    obtain ⟨cell, hget, hname⟩ := hfound
    obtain ⟨hplace, hcell⟩ := List.getElem?_eq_some_iff.1 hget
    subst hcell
    refine ⟨hplace, decide_eq_true hname, fun i hi hsame => ?_⟩
    -- a column in front of it would have the same name
    have hlength : (cells.map nameOf).length = cells.length :=
      List.length_map _
    have hnames : (cells.map nameOf)[i] = (cells.map nameOf)[place] := by
      rw [List.getElem_map, List.getElem_map, of_decide_eq_true hsame, hname]
    have heq := h.distinct.getElem_inj_iff.1 hnames
    omega

variable {header other : Header}

/-- Requiring columns ends with the first that is not there. -/
theorem map_require {α : Type} (header : Header) (path : String)
    (columns : List String) (a : α) :
    (header.require path columns).map (fun _ => a)
      = match columns.find? fun column =>
            !(header.position? column).isSome with
        | some column => .error (.malformedHeader path column none)
        | none => .ok a := by
  induction columns with
  | nil => rfl
  | cons column rest ih =>
      unfold require
      rw [List.find?_cons]
      cases header.position? column with
      | none => rfl
      | some place =>
          simp only [Option.isSome_some, Bool.not_true]
          rw [← ih]
          cases header.require path rest with
          | error e => rfl
          | ok places => rfl

/-- Two headers with the same columns lack the same columns. -/
theorem require_congr {α : Type}
    (h : ∀ column, (other.position? column).isSome
      = (header.position? column).isSome)
    (path : String) (columns : List String) (a : α) :
    (other.require path columns).map (fun _ => a)
      = (header.require path columns).map (fun _ => a) := by
  rw [map_require, map_require]
  simp only [h]

end Header

-- ==================================================== another order

namespace Sheet

variable {width : Nat} {order : Equiv.Perm (Fin width)}
  {record : List String}

/-- A record with its fields in another order. -/
def arrange (order : Equiv.Perm (Fin width)) (record : List String) :
    List String :=
  List.ofFn fun place => Header.fieldAt record (some (order place))

theorem getElem?_arrange (h : record.length = width) (place : Fin width) :
    (arrange order record)[place.val]? = record[(order place).val]? := by
  have hplace : (order place).val < record.length := by
    rw [h]
    exact (order place).isLt
  unfold arrange
  rw [List.getElem?_ofFn, dif_pos place.isLt]
  show some (record[(order place).val]?.getD "") = _
  rw [List.getElem?_eq_getElem hplace, Option.getD_some]

/-- No field is lost and none is made up. -/
theorem perm_arrange (h : record.length = width)
    (order : Equiv.Perm (Fin width)) : (arrange order record).Perm record := by
  subst h
  have hfields : arrange order record = List.ofFn (record.get ∘ order) := by
    refine congrArg List.ofFn (funext fun place => ?_)
    show record[(order place).val]?.getD "" = record[(order place).val]
    rw [List.getElem?_eq_getElem (order place).isLt, Option.getD_some]
  have hsame := order.ofFn_comp_perm record.get
  rwa [← hfields, List.ofFn_get] at hsame

/-- A record without some of the empty fields at its end. -/
def CutFrom (full cut : List String) : Prop :=
  ∃ n, full = cut ++ List.replicate n ""

variable {full cut : List String}

theorem CutFrom.refl (full : List String) : CutFrom full full :=
  ⟨0, by simp⟩

/-- A field that was cut off is read as an empty one. -/
theorem CutFrom.fieldAt (h : CutFrom full cut) (place : Option Nat) :
    Header.fieldAt cut place = Header.fieldAt full place := by
  obtain ⟨n, hfull⟩ := h
  unfold Header.fieldAt
  cases place with
  | none => rfl
  | some place =>
      simp only
      rw [hfull]
      by_cases hplace : place < cut.length
      · rw [List.getElem?_append_left hplace]
      · rw [List.getElem?_append_right (Nat.le_of_not_lt hplace),
          List.getElem?_eq_none (Nat.le_of_not_lt hplace),
          List.getElem?_replicate]
        split
        · rfl
        · rfl

theorem CutFrom.all_isBlank (h : CutFrom full cut) :
    cut.all Text.isBlank = full.all Text.isBlank := by
  obtain ⟨n, hfull⟩ := h
  have hblank : (List.replicate n "").all Text.isBlank = true := by
    rw [List.all_eq_true]
    intro field hfield
    rw [List.eq_of_mem_replicate hfield]
    rfl
  rw [hfull, List.all_append, hblank, Bool.and_true]

end Sheet

namespace Header

open Sheet (arrange getElem?_arrange perm_arrange)

variable {cells others : List String}
  {order : Equiv.Perm (Fin cells.length)}

/-- A column that moved with the others stands at its new place, and a
column that was not there is not there now. -/
theorem place_arranged (h : Proper cells)
    (hnames : others.map nameOf = (arrange order cells).map nameOf)
    (column : String) :
    ((ofRecord others).position? column = none
        ∧ (ofRecord cells).position? column = none)
      ∨ ∃ place : Fin cells.length,
          (ofRecord others).position? column = some place.val
            ∧ (ofRecord cells).position? column = some (order place).val := by
  have hperm : (others.map nameOf).Perm (cells.map nameOf) := by
    rw [hnames]
    exact (perm_arrange rfl order).map nameOf
  have hother := h.of_perm hperm
  have hplace : ∀ place : Fin cells.length,
      (ofRecord others).position? column = some place.val
        ↔ (ofRecord cells).position? column = some (order place).val := by
    intro place
    rw [position?_eq_some_iff hother, position?_eq_some_iff h, hnames,
      List.getElem?_map, List.getElem?_map, getElem?_arrange rfl]
  cases hfound : (ofRecord cells).position? column with
  | some found =>
      obtain ⟨hlt, -⟩ :=
        List.getElem?_eq_some_iff.1 ((position?_eq_some_iff h).1 hfound)
      rw [List.length_map] at hlt
      have hback : (order (order.symm ⟨found, hlt⟩)).val = found := by
        rw [Equiv.apply_symm_apply]
      refine Or.inr ⟨order.symm ⟨found, hlt⟩, (hplace _).2 ?_, ?_⟩
      · rw [hfound, hback]
      · rw [hback]
  | none =>
      refine Or.inl ⟨?_, rfl⟩
      cases hmoved : (ofRecord others).position? column with
      | none => rfl
      | some place =>
          obtain ⟨hlt, -⟩ := List.getElem?_eq_some_iff.1
            ((position?_eq_some_iff hother).1 hmoved)
          rw [hperm.length_eq, List.length_map] at hlt
          rw [(hplace ⟨place, hlt⟩).1 hmoved] at hfound
          cases hfound

theorem isSome_position?_arranged (h : Proper cells)
    (hnames : others.map nameOf = (arrange order cells).map nameOf)
    (column : String) :
    ((ofRecord others).position? column).isSome
      = ((ofRecord cells).position? column).isSome := by
  rcases place_arranged h hnames column with
    ⟨hother, hcells⟩ | ⟨place, hother, hcells⟩
  · rw [hother, hcells]
  · rw [hother, hcells]
    rfl

/-- In each column a record has the field that it had before. -/
theorem cell?_arranged (h : Proper cells)
    (hnames : others.map nameOf = (arrange order cells).map nameOf)
    {record : List String} (hfull : record.length = cells.length)
    (column : String) :
    (ofRecord others).cell? (arrange order record) column
      = (ofRecord cells).cell? record column := by
  unfold cell?
  rcases place_arranged h hnames column with
    ⟨hother, hcells⟩ | ⟨place, hother, hcells⟩
  · rw [hother, hcells]
    rfl
  · rw [hother, hcells]
    exact getElem?_arrange hfull place

end Header

-- ============================================================= stories

namespace Script

variable {header other : Header}

/-- Rows of a story are told by the fields in its columns, and by which
of its records are blank. -/
theorem rowsFrom_congr {records others : List (List String)}
    (h : List.Forall₂ (fun moved record =>
        moved.all Text.isBlank = record.all Text.isBlank
          ∧ ∀ column, other.field moved column = header.field record column)
      others records) (n : Int) :
    rowsFrom (Places.ofHeader other) n others
      = rowsFrom (Places.ofHeader header) n records := by
  induction h generalizing n with
  | nil => rfl
  | @cons moved record others records hsame _ ih =>
      obtain ⟨hblank, hfields⟩ := hsame
      have hcell : ∀ column,
          Header.fieldAt moved (other.position? column)
            = Header.fieldAt record (header.position? column) := hfields
      have hrow : Row.ofRecord (Places.ofHeader other) moved n
          = Row.ofRecord (Places.ofHeader header) record n := by
        unfold Row.ofRecord Places.ofHeader
        simp only [hcell]
      unfold rowsFrom
      rw [hblank, hrow, ih]

end Script

-- ============================================================ loading

open Build (sheetTree)
open Sheet (arrange perm_arrange CutFrom)

variable {tree moved : FileTree} {format other : Sheet.Format}
  {path : Path} {cells others : List String}
  {records : List (List String)}

/-- What a table requires of its records does not depend on the order of
the columns. -/
theorem Table.requiredRows_arranged (hcells : Header.Proper cells)
    (hfull : ∀ record ∈ records, record.length = cells.length)
    {order : Equiv.Perm (Fin cells.length)}
    (hnames : others.map Header.nameOf
      = (arrange order cells).map Header.nameOf)
    (path : Path) (required : List String) :
    (ofRecords path required (others :: records.map (arrange order))).map
        requiredRows
      = (ofRecords path required (cells :: records)).map requiredRows := by
  have hrows : (records.map (arrange order)).filterMap (fun record =>
        required.mapM ((Header.ofRecord others).cell? record))
      = records.filterMap fun record =>
          required.mapM ((Header.ofRecord cells).cell? record) := by
    rw [List.filterMap_map]
    refine List.filterMap_congr fun record hrecord => ?_
    have hcell := funext
      (Header.cell?_arranged hcells hnames (hfull record hrecord))
    show required.mapM ((Header.ofRecord others).cell?
      (arrange order record)) = _
    rw [hcell]
  rw [requiredRows_ofRecords, requiredRows_ofRecords, hrows]
  exact Header.require_congr
    (Header.isSome_position?_arranged hcells hnames) path.text required _

/-- The rows of a story do not depend on the order of the columns, nor on
empty fields at the end of a record. -/
theorem Script.rowsOfTable_arranged (hcells : Header.Proper cells)
    (hfull : ∀ record ∈ records, record.length = cells.length)
    {order : Equiv.Perm (Fin cells.length)}
    (hnames : others.map Header.nameOf
      = (arrange order cells).map Header.nameOf)
    {cut : List (List String)}
    (hcut : List.Forall₂ CutFrom (records.map (arrange order)) cut)
    (path : Path) (required : List String) :
    (Table.ofRecords path required (others :: cut)).map rowsOfTable
      = (Table.ofRecords path required (cells :: records)).map
          rowsOfTable := by
  have hrows : rowsFrom (Places.ofHeader (Header.ofRecord others)) 1 cut
      = rowsFrom (Places.ofHeader (Header.ofRecord cells)) 1 records := by
    refine rowsFrom_congr ?_ 1
    rw [List.forall₂_map_left_iff] at hcut
    refine ((List.forall₂_and_left records cut).2 ⟨hfull, hcut⟩).flip.imp
      fun short record h => ?_
    obtain ⟨hlength, hshort⟩ := h
    constructor
    · rw [hshort.all_isBlank]
      exact (perm_arrange hlength order).all_eq
    · intro column
      have hcell := Header.cell?_arranged hcells hnames hlength column
      rw [Header.field_eq (.ofRecord cells), ← hcell, ← Header.field_eq]
      exact hshort.fieldAt _
  rw [rowsOfTable_ofRecords, rowsOfTable_ofRecords, hrows]
  exact Header.require_congr
    (Header.isSome_position?_arranged hcells hnames) path.text required _

namespace Sheet

/-- Neither the order of columns nor the spelling of a header matters.
Take a sheet whose header names every column, no two alike, and whose
records have a field in each; put its columns, header and records, in any
other order, and write its header with any cells of the same names. Then
every loader makes the same of it, rows or error, whatever it asks for
and however the file is stored. A story comes to the same also when
empty fields at the end of its records were left out. -/
theorem load_of_arranged {tree moved : FileTree} {format other : Format}
    {path : Path} {cells others : List String}
    {records : List (List String)} (hcells : Header.Proper cells)
    (hfull : ∀ record ∈ records, record.length = cells.length)
    (order : Equiv.Perm (Fin cells.length))
    (hnames : others.map Header.nameOf
      = (arrange order cells).map Header.nameOf)
    (hsheet : readRecords tree format path = .ok (cells :: records)) :
    (readRecords moved other path
        = .ok (others :: records.map (arrange order)) →
      LoadsAlike tree format moved other path)
      ∧ ∀ cut, List.Forall₂ CutFrom (records.map (arrange order)) cut →
          readRecords moved other path = .ok (others :: cut) →
          ∀ required, Script.loadRows moved other required path
            = Script.loadRows tree format required path := by
  have hstory : ∀ cut,
      List.Forall₂ CutFrom (records.map (arrange order)) cut →
      readRecords moved other path = .ok (others :: cut) →
      ∀ required,
        (Table.read moved other path required).map Script.rowsOfTable
          = (Table.read tree format path required).map
              Script.rowsOfTable := by
    intro cut hcut hmoved required
    rw [Table.read_of_records hmoved, Table.read_of_records hsheet]
    exact Script.rowsOfTable_arranged hcells hfull hnames hcut path required
  constructor
  · intro hmoved
    refine .of_tables (fun required => ?_) (hstory _ ?_ hmoved)
    · rw [Table.read_of_records hmoved, Table.read_of_records hsheet]
      exact Table.requiredRows_arranged hcells hfull hnames path required
    · exact List.forall₂_same.2 fun record _ => CutFrom.refl record
  · intro cut hcut hmoved required
    rw [Script.loadRows_eq, Script.loadRows_eq]
    exact hstory cut hcut hmoved required

/-- A header with a column that no loader knows. -/
def plainCells : List String := ["note", "NodeID", "displayName", "id"]

/-- Records of that header, each with an empty field in front. -/
def plainRecords : List (List String) :=
  [["", "ask", "Ann", "1"], ["", "", "Bo", "x"]]

/-- The same names from right to left, spelled in another way. -/
def turnedCells : List String := [" ID", "DISPLAYNAME ", "nodeid", "Note"]

/-- The sheet, the sheet from right to left, and that one without the empty
fields at the end of its records hold one actor and the same two rows of a
story. -/
theorem load_turnedSheet :
    loadActors (sheetTree
          [turnedCells, ["1", "Ann", "ask", ""], ["x", "Bo", "", ""]])
        ⟨",", "ascii"⟩ (.ofString "sheet") = .ok [(1, "Ann")]
      ∧ (Script.loadRows (sheetTree
            [turnedCells, ["1", "Ann", "ask"], ["x", "Bo"]])
          ⟨",", "ascii"⟩ ["NodeID"] (.ofString "sheet")).map
            (·.map (·.nodeKey)) = .ok ["ask", ""] := by
  have hplain : readRecords (sheetTree (plainCells :: plainRecords))
      ⟨",", "ascii"⟩ (.ofString "sheet")
        = .ok (plainCells :: plainRecords) :=
    (readRecords_eq Build.reads_ascii rfl).trans (by decide +kernel)
  have hproper : Header.Proper plainCells :=
    ⟨by decide +kernel, by decide +kernel⟩
  have hload := fun turned =>
    @load_of_arranged (sheetTree (plainCells :: plainRecords))
      (sheetTree turned) ⟨",", "ascii"⟩ ⟨",", "ascii"⟩ _ _ turnedCells _
      hproper (by decide) Fin.revPerm (by decide +kernel) hplain
  constructor
  · rw [((hload _).1 ((readRecords_eq Build.reads_ascii rfl).trans
      (by decide +kernel))).actors]
    decide +kernel
  · rw [(hload _).2 [["1", "Ann", "ask"], ["x", "Bo"]]
      (.cons ⟨1, rfl⟩ (.cons ⟨2, rfl⟩ .nil))
      ((readRecords_eq Build.reads_ascii rfl).trans (by decide +kernel))]
    decide +kernel

end Sheet

end Storyline
