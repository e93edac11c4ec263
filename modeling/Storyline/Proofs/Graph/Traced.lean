/-
From the records of a story sheet to the nodes of its graph. Three
filters stand between them, each with a count of its own: blank records
are dropped when the sheet is read, rows without a meaning when they are
compiled, and reserved rows when the document is finished. A node carries
the number of its record among all records behind the header, and its own
number counts the meaningful ones.

# What is compared

The nodes behind the entry, and a list made of the records in one go: all
of them numbered, the meaningful ones numbered again, less the reserved
ones (`tellings`, `Telling.stays`).

# What carries it

* a blank record makes a row without a meaning
  (`isMeaningful_of_blank`), so the first filter takes nothing away that
  the second would leave (`meaningful_rowsFrom`);
* each node of the draft traces back to its record (`forall₂_traces`),
  and both lists are filtered alike.

Main statement: `traced_of_sheet`.
-/
import Storyline.Proofs.Build.Faults
import Storyline.Proofs.Graph.Authored
import Storyline.Proofs.Script.Dialogue

namespace Storyline

-- ======================================================== blank records

namespace Script

/-- Every field of a blank record is blank, also where it has none. -/
theorem isBlank_fieldAt {record : List String}
    (h : record.all Text.isBlank = true) (place : Option Nat) :
    Text.isBlank (Header.fieldAt record place) = true := by
  unfold Header.fieldAt
  cases place with
  | none => rfl
  | some n =>
      simp only
      cases hget : record[n]? with
      | none => rfl
      | some cell =>
          exact List.all_eq_true.1 h cell (List.mem_of_getElem? hget)

/-- A blank record makes a row without a meaning. -/
theorem isMeaningful_of_blank {record : List String}
    (h : record.all Text.isBlank = true) (places : Places) (n : Int) :
    (Row.ofRecord places record n).isMeaningful = false := by
  have hcell : ∀ place,
      Text.trim (Header.fieldAt record place) = "" := fun place =>
    Text.trim_of_isBlank (isBlank_fieldAt h place)
  unfold Row.ofRecord
  simp only [hcell, dialogueOf_of_isBlank (isBlank_fieldAt h _)]
  rfl

-- ============================================================= records

/-- The row of a record with its number. -/
def rowOf (header : Header) (record : List String × Nat) : Row :=
  Row.ofRecord (Places.ofHeader header) record.1 record.2

/-- The records with a meaning, each with its number among all. -/
def meaningfulRecords (header : Header) (records : List (List String)) :
    List (List String × Nat) :=
  (records.zipIdx 1).filter fun record => (rowOf header record).isMeaningful

/-- The rows with a meaning are those of all records with a meaning,
whether or not the blank ones are dropped before. -/
theorem meaningful_rowsFrom (header : Header)
    (records : List (List String)) (n : Nat) :
    (rowsFrom (Places.ofHeader header) n records).filter (·.isMeaningful)
      = ((records.zipIdx n).filter fun record =>
          (rowOf header record).isMeaningful).map (rowOf header) := by
  induction records generalizing n with
  | nil => rfl
  | cons record records ih =>
      have hrest := ih (n + 1)
      rw [Int.natCast_succ] at hrest
      unfold rowsFrom
      rw [List.zipIdx_cons, List.filter_cons]
      simp only
      by_cases hblank : record.all Text.isBlank = true
      · have hnone : (rowOf header (record, n)).isMeaningful = false :=
          isMeaningful_of_blank hblank _ _
        rw [if_pos hblank, hnone, hrest]
        rfl
      · rw [if_neg hblank, List.filter_cons, hrest]
        show (if (rowOf header (record, n)).isMeaningful = true then _
          else _) = _
        split <;> rfl

/-- What is loaded from a sheet: the rows of its records behind the
header. -/
theorem loadRows_ok {tree : FileTree} {format : Sheet.Format}
    {required : List String} {path : Path} {rows : List Row}
    (h : loadRows tree format required path = .ok rows) :
    ∃ first records,
      Sheet.readRecords tree format path = .ok (first :: records)
        ∧ rows = rowsFrom (Places.ofHeader (Header.ofRecord first)) 1
            records := by
  obtain ⟨table, htable, h⟩ := Error.bind_eq_ok.1 h
  cases h
  obtain ⟨all, hall, htable⟩ := Error.bind_eq_ok.1 htable
  cases all with
  | nil =>
      unfold Table.ofRecords at htable
      cases required <;> cases htable
  | cons first records =>
      obtain ⟨positions, -, htable⟩ := Error.bind_eq_ok.1 htable
      cases htable
      exact ⟨first, records, hall, rfl⟩

/-- A record with a meaning: its number among all records, and its place
among those with a meaning, both from one. -/
structure Telling where
  record : List String
  number : Nat
  place : Nat
deriving DecidableEq

/-- The records of a sheet that have a meaning, in order. -/
def tellings (header : Header) (records : List (List String)) :
    List Telling :=
  ((meaningfulRecords header records).zipIdx 1).map fun (record, place) =>
    ⟨record.1, record.2, place⟩

namespace Telling

/-- The key of the record: its NodeID cell, trimmed. -/
def nodeKey (header : Header) (telling : Telling) : String :=
  Text.trim (header.field telling.record "NodeID")

/-- The text of the record: its DialogueText cell, with line breaks for
the written ones and without whitespace at its end. -/
def text (header : Header) (telling : Telling) : String :=
  dialogueOf (header.field telling.record "DialogueText")

/-- A record that cannot be taken for the entry. -/
def stays (header : Header) (telling : Telling) : Bool :=
  telling.nodeKey header ≠ "START" && telling.text header ≠ "START"

/-- The row of the record. -/
def row (header : Header) (telling : Telling) : Row :=
  rowOf header (telling.record, telling.number)

end Telling

/-- The rows with a meaning in front of a place. -/
def rowsInFront (header : Header) (records : List (List String))
    (place : Nat) : List Row :=
  ((meaningfulRecords header records).take (place - 1)).map (rowOf header)

theorem numbers_zipIdx {α : Type} (l : List α) (n : Nat) :
    (l.zipIdx n).Pairwise fun a b => a.2 < b.2 := by
  have hnumbers : ((l.zipIdx n).map Prod.snd).Pairwise (· < ·) := by
    rw [List.zipIdx_map_snd]
    exact List.pairwise_lt_range'
  exact List.pairwise_map.1 hnumbers

/-- The numbers of the records with a meaning increase. -/
theorem pairwise_number_tellings (header : Header)
    (records : List (List String)) :
    (tellings header records).Pairwise fun a b => a.number < b.number := by
  have hrecords : (meaningfulRecords header records).Pairwise
      fun a b => a.2 < b.2 := (numbers_zipIdx records 1).filter _
  have hsame : (tellings header records).map Telling.number
      = (meaningfulRecords header records).map Prod.snd := by
    unfold tellings
    rw [List.map_map]
    show ((meaningfulRecords header records).zipIdx 1).map
      (Prod.snd ∘ Prod.fst) = _
    rw [← List.map_map, List.zipIdx_map_fst]
  have hnumbers := List.pairwise_map.2 hrecords
  rw [← hsame] at hnumbers
  exact List.pairwise_map.1 hnumbers

end Script

namespace Compile

open Script (Row Telling rowOf meaningfulRecords tellings rowsInFront)

variable {heading : Heading} {header : Header}
  {records : List (List String)}

-- =============================================================== nodes

/-- The rows of the records that stay are those the document keeps. -/
theorem not_isReserved_row (telling : Telling) :
    (!isReserved (telling.row header)) = telling.stays header := by
  unfold isReserved Telling.stays
  rw [Bool.not_or, ← decide_not, ← decide_not]
  rfl

/-- A node that is made of a record: it carries the number of the record,
is numbered by its place, and has its key, its text, its script, and the
voice of its row behind the rows in front of it. -/
structure Traces (heading : Heading) (conversant : Int) (header : Header)
    (records : List (List String)) (telling : Telling) (node : Node) :
    Prop where
  rowNumber : node.rowNumber = some (telling.number : Int)
  localId : node.localId = telling.place
  title : node.title = telling.nodeKey header
  bodyText : node.bodyText = telling.text header
  script : (telling.row header).script = .ok node.sequenceScript
  voice : ∃ isOption after reports,
    Speaker.resolve heading.title
        (Speaker.stateAfter (.initial conversant)
          (rowsInFront header records telling.place))
        (telling.row header)
      = .ok (⟨node.speaker, node.listener, isOption⟩, after, reports)

/-- The nodes of a draft trace back to the records of its rows, in
order. -/
theorem forall₂_traces {conversant : Int} {draft : Draft}
    (h : draftFrom heading (.initial conversant) [] (rootId + 1)
      ((meaningfulRecords header records).map (rowOf header)) = .ok draft) :
    List.Forall₂
      (fun telling a => a.row = telling.row header
        ∧ Traces heading conversant header records telling a.node)
      (tellings header records) draft.authored := by
  have hlength := (drafted_of_draftFrom h).1.length_eq
  rw [List.length_map] at hlength
  have hcount : (tellings header records).length
      = (meaningfulRecords header records).length := by
    unfold tellings
    rw [List.length_map, List.length_zipIdx]
  refine List.forall₂_iff_get.2 ⟨by rw [hcount, hlength], ?_⟩
  intro i hi hauthored
  have hrecord : i < (meaningfulRecords header records).length := by
    rwa [← hcount]
  obtain ⟨voice, after, reports, script, hvoice, hscript, hget⟩ :=
    authored_of_draftFrom h
      (by rw [List.getElem?_map, List.getElem?_eq_getElem hrecord]; rfl)
  have htelling : (tellings header records).get ⟨i, hi⟩
      = ⟨(meaningfulRecords header records)[i].1,
          (meaningfulRecords header records)[i].2, 1 + i⟩ := by
    unfold tellings
    simp
  have hnode : draft.authored.get ⟨i, hauthored⟩ = _ :=
    Option.some.inj ((List.getElem?_eq_getElem hauthored).symm.trans hget)
  rw [htelling, hnode]
  refine ⟨rfl, rfl, ?_, rfl, rfl, hscript, voice.isOption, after, reports,
    ?_⟩
  · show rootId + 1 + (i : Int) = ((1 + i : Nat) : Int)
    unfold rootId
    omega
  · rw [← List.map_take] at hvoice
    unfold rowsInFront
    rw [Nat.add_sub_cancel_left]
    exact hvoice

theorem rowNumbers_of_traces {conversant : Int} {told : List Telling}
    {nodes : List Node}
    (h : List.Forall₂ (Traces heading conversant header records) told
      nodes) :
    nodes.filterMap (·.rowNumber)
      = told.map fun telling => (telling.number : Int) := by
  induction h with
  | nil => rfl
  | cons htraces _ ih =>
      rw [List.filterMap_cons, htraces.rowNumber, List.map_cons, ← ih]

/-- Traceability. The nodes behind the entry of the graph that a story
sheet compiles to are made of its records behind the header, one each and
in order, of exactly those records whose row means something and cannot
be taken for the entry. A node carries the number of its record, blank
records counted, and these numbers increase; its own number is the place
of the record among those with a meaning, the reserved ones counted; it
has the key and the text of the record, and the voice and the script that
come of its row. Blank records, which are dropped before, have no
meaning. -/
theorem traced_of_sheet {tree : FileTree} {format : Sheet.Format}
    {required : List String} {path : Path} {rows : List Row}
    {compiled : Compiled}
    (hrows : Script.loadRows tree format required path = .ok rows)
    (hcompile : compile rows heading = .ok compiled) :
    ∃ first records root others,
      Sheet.readRecords tree format path = .ok (first :: records)
        ∧ compiled.graph.nodes = root :: others
        ∧ List.Forall₂
            (Traces heading compiled.graph.conversant
              (.ofRecord first) records)
            ((tellings (.ofRecord first) records).filter
              (·.stays (.ofRecord first)))
            others
        ∧ (others.filterMap (·.rowNumber)).Pairwise (· < ·)
        ∧ ∀ record ∈ records.zipIdx 1,
            record.1.all Text.isBlank = true →
              (rowOf (.ofRecord first) record).isMeaningful = false := by
  obtain ⟨first, records, hrecords, rfl⟩ := Script.loadRows_ok hrows
  obtain ⟨draft, root, others, hdraft, -, hnodes, -, hothers⟩ :=
    nodes_of_compile hcompile
  have hrowsOf : meaningful
        (Script.rowsFrom (.ofHeader (.ofRecord first)) 1 records)
      = (meaningfulRecords (.ofRecord first) records).map
          (rowOf (.ofRecord first)) :=
    Script.meaningful_rowsFrom _ records 1
  rw [hrowsOf] at hdraft
  have htraced : List.Forall₂
      (Traces heading compiled.graph.conversant (.ofRecord first) records)
      ((tellings (.ofRecord first) records).filter
        (·.stays (.ofRecord first)))
      others := by
    have hkept := List.rel_filter
      (p := fun telling : Telling => telling.stays (.ofRecord first))
      (q := fun a : Authored => !isReserved a.row)
      (fun telling a hboth => by
        show telling.stays _ = true ↔ (!isReserved a.row) = true
        rw [hboth.1, not_isReserved_row])
      (forall₂_traces hdraft)
    have hbare := List.forall₂_map_right_iff.2
      (hkept.imp fun _ _ hboth => hboth.2)
    rw [← hothers, List.forall₂_map_right_iff] at hbare
    exact hbare.imp fun telling node h =>
      ⟨h.rowNumber, h.localId, h.title, h.bodyText, h.script, h.voice⟩
  refine ⟨first, records, root, others, hrecords, hnodes, htraced, ?_,
    fun record _ hblank => Script.isMeaningful_of_blank hblank _ _⟩
  rw [rowNumbers_of_traces htraced, List.pairwise_map]
  exact ((Script.pairwise_number_tellings _ records).filter _).imp
    fun h => Int.ofNat_lt.2 h

/-- Behind the first record stand a blank one and one whose text is a
written line break only, and the fourth is reserved. -/
def tracedRecords : List (List String) :=
  [["2", "Hi. ", "ask"], [" ", ""], ["", "\\n"], ["2", "START"],
    ["1", "Well?"]]

/-- A story of these records. -/
def tracedTree : FileTree :=
  ⟨[(["story"], Build.sheetFile (Script.columns :: tracedRecords))]⟩

/-- The rows of that story. -/
def tracedRows : List Row :=
  Script.rowsFrom (.ofHeader (.ofRecord Script.columns)) 1 tracedRecords

theorem readRecords_tracedTree :
    Sheet.readRecords tracedTree ⟨",", "ascii"⟩ (.ofString "story")
      = .ok (Script.columns :: tracedRecords) :=
  (Sheet.readRecords_eq Build.reads_ascii rfl).trans (by decide +kernel)

theorem loadRows_tracedTree :
    Script.loadRows tracedTree ⟨",", "ascii"⟩ Script.columns
      (.ofString "story") = .ok tracedRows := by
  obtain ⟨positions, hpositions⟩ := Error.exists_ok
    (show ((Header.ofRecord Script.columns).require
      (Path.ofString "story").text Script.columns).toOption.isSome = true by
        decide +kernel)
  exact Error.bind_eq_ok.2 ⟨_, Error.bind_eq_ok.2
    ⟨_, readRecords_tracedTree, Error.bind_eq_ok.2
      ⟨positions, hpositions, rfl⟩⟩, rfl⟩

/-- The last record is the fifth in the sheet and the third with a
meaning. -/
theorem traced_tracedTree :
    ∃ compiled root first last,
      compile tracedRows ⟨1, "Demo"⟩ = .ok compiled
        ∧ compiled.graph.nodes = [root, first, last]
        ∧ (first.rowNumber, first.localId, first.title, first.bodyText)
            = (some 1, 1, "ask", "Hi.")
        ∧ (last.rowNumber, last.localId, last.title, last.bodyText)
            = (some 5, 3, "", "Well?") := by
  obtain ⟨compiled, hcompile⟩ := Error.exists_ok
    (show (compile tracedRows ⟨1, "Demo"⟩).toOption.isSome = true by
      decide +kernel)
  obtain ⟨cells, records, root, others, hrecords, hnodes, htraced, -, -⟩ :=
    traced_of_sheet loadRows_tracedTree hcompile
  rw [readRecords_tracedTree] at hrecords
  cases hrecords
  rw [show (tellings (.ofRecord Script.columns) tracedRecords).filter
        (·.stays (.ofRecord Script.columns))
      = [⟨["2", "Hi. ", "ask"], 1, 1⟩, ⟨["1", "Well?"], 5, 3⟩] by
    decide +kernel] at htraced
  cases htraced with
  | cons hfirst hrest =>
  cases hrest with
  | cons hlast hrest =>
  cases hrest
  refine ⟨compiled, root, _, _, hcompile, hnodes, ?_, ?_⟩
  · rw [hfirst.rowNumber, hfirst.localId, hfirst.title, hfirst.bodyText]
    decide +kernel
  · rw [hlast.rowNumber, hlast.localId, hlast.title, hlast.bodyText]
    decide +kernel

end Compile

end Storyline
