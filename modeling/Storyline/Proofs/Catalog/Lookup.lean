/-
Look-ups in a catalog after any history of requests. Tables are set,
updated and built in any order and some requests fail; what a look-up
finds is told by the sheet whose rows were put into its table last.

# What is compared

The answers of a catalog that has served requests, and the records of a
sheet whose rows are the last that the requests wrote into the table
(`Request.lastWritten?`).

# What carries it

* a request leaves in a table what it writes there, or else what was
  there (`entries_serve`), so requests leave what was written last
  (`entries_serveAll`);
* the rows of a sheet are those of its records that are long enough, in
  order (`rows_of_loadKeyed`, `rows_of_loadStandings`);
* so the first entry that fits comes of the first record that fits
  (`answersFrom_of_entries`, `posesFrom_of_entries`).

Main statement: `answers_of_sheets`.
-/
import Storyline.Catalog.Request
import Storyline.Proofs.Build.Faults
import Storyline.Proofs.Sheet.Required

namespace Storyline

-- ============================================================= sheets

namespace Sheet

/-- The row in a record of a keyed sheet, from the places of its two
columns. -/
def keyedRow (idPlace valuePlace : Nat) (record : List String) : KeyedRow :=
  ⟨Text.trim (Header.fieldAt record (some idPlace)),
    Text.trim (Header.fieldAt record (some valuePlace))⟩

/-- The records that are kept of a keyed sheet: those long enough for both
columns. -/
def keyedRecords (idPlace valuePlace : Nat) (records : List (List String)) :
    List (List String) :=
  records.filter fun record =>
    idPlace < record.length ∧ valuePlace < record.length

/-- The row in a record of a sheet of poses. -/
def poseRow (actorPlace expressionPlace pathPlace : Nat)
    (record : List String) : StandingRow :=
  ⟨Text.trim (Header.fieldAt record (some actorPlace)),
    Text.trim (Header.fieldAt record (some expressionPlace)),
    Text.trim (Header.fieldAt record (some pathPlace))⟩

/-- The records that are kept of a sheet of poses: those long enough for
the three columns and not blank in all of them. -/
def poseRecords (actorPlace expressionPlace pathPlace : Nat)
    (records : List (List String)) : List (List String) :=
  records.filter fun record =>
    (actorPlace < record.length ∧ expressionPlace < record.length
        ∧ pathPlace < record.length)
      ∧ poseRow actorPlace expressionPlace pathPlace record ≠ ⟨"", "", ""⟩

variable {tree : FileTree} {format : Format} {path : Path}

/-- The rows of a keyed sheet are those of the records that are kept. -/
theorem rows_of_loadKeyed {keyColumn valueColumn : String}
    {rows : List KeyedRow}
    (h : loadKeyed tree format keyColumn valueColumn path = .ok rows) :
    ∃ first records idPlace valuePlace,
      readRecords tree format path = .ok (first :: records)
        ∧ (Header.ofRecord first).position? keyColumn = some idPlace
        ∧ (Header.ofRecord first).position? valueColumn = some valuePlace
        ∧ rows = (keyedRecords idPlace valuePlace records).map
            (keyedRow idPlace valuePlace) := by
  obtain ⟨table, htable, h⟩ := Error.bind_eq_ok.1 h
  cases h
  obtain ⟨first, idPlace, valuePlace, hrecords, hid, hvalue, hpositions⟩ :=
    Table.exists_of_read_pair htable
  refine ⟨first, table.rows, idPlace, valuePlace, hrecords, hid, hvalue, ?_⟩
  rw [Table.requiredRows_eq, hpositions, List.filterMap_map]
  unfold keyedRecords
  simp only [List.forall_mem_cons, List.not_mem_nil, false_imp_iff,
    implies_true, and_true]
  exact congrFun List.filterMap_eq_map _

theorem standingRow?_eq (actorId expression resourcePath : String) :
    standingRow? [actorId, expression, resourcePath]
      = if StandingRow.mk (Text.trim actorId) (Text.trim expression)
            (Text.trim resourcePath) ≠ ⟨"", "", ""⟩ then
          some ⟨Text.trim actorId, Text.trim expression,
            Text.trim resourcePath⟩
        else none := by
  unfold standingRow?
  simp only [StandingRow.mk.injEq, Bool.and_eq_true, decide_eq_true_eq,
    and_assoc, ne_eq, ite_not]

/-- The rows of a sheet of poses are those of the records that are kept. -/
theorem rows_of_loadStandings {rows : List StandingRow}
    (h : loadStandings tree format path = .ok rows) :
    ∃ first records actorPlace expressionPlace pathPlace,
      readRecords tree format path = .ok (first :: records)
        ∧ (Header.ofRecord first).position? "actorId" = some actorPlace
        ∧ (Header.ofRecord first).position? "expression"
            = some expressionPlace
        ∧ (Header.ofRecord first).position? "resourcePath" = some pathPlace
        ∧ rows = (poseRecords actorPlace expressionPlace pathPlace records).map
            (poseRow actorPlace expressionPlace pathPlace) := by
  obtain ⟨⟨header, positions, records⟩, htable, h⟩ := Error.bind_eq_ok.1 h
  cases h
  obtain ⟨first, hrecords, hplaces⟩ := Table.exists_of_read htable
  obtain ⟨actorPlace, others, hactor, hplaces, hpositions⟩ :=
    List.forall₂_cons_left_iff.1 hplaces
  obtain ⟨expressionPlace, rest, hexpression, hplaces, hothers⟩ :=
    List.forall₂_cons_left_iff.1 hplaces
  obtain ⟨pathPlace, nothing, hpath, hplaces, hrest⟩ :=
    List.forall₂_cons_left_iff.1 hplaces
  cases hplaces
  subst hrest
  subst hothers
  subst hpositions
  refine ⟨first, records, actorPlace, expressionPlace, pathPlace, hrecords,
    hactor, hexpression, hpath, ?_⟩
  rw [Table.requiredRows_eq, List.filterMap_map, ← List.filterMap_eq_map]
  unfold poseRecords
  rw [List.filterMap_filter, List.filterMap_filter]
  refine List.filterMap_congr fun record _ => ?_
  simp only [List.forall_mem_cons, List.not_mem_nil, false_imp_iff,
    implies_true, and_true]
  by_cases hlong : actorPlace < record.length
      ∧ expressionPlace < record.length ∧ pathPlace < record.length
  · simp only [hlong, true_and, decide_eq_true_eq, decide_true, if_true]
    exact standingRow?_eq _ _ _
  · simp [hlong]

end Sheet

-- ============================================================ entries

namespace Catalog

namespace Kind

/-- The rows of the sheet for a kind of resource. -/
def rows : Kind → Sheets → List KeyedRow
  | background, sheets => sheets.backgrounds
  | music, sheets => sheets.music
  | soundEffect, sheets => sheets.soundEffects
  | sequence, sheets => sheets.sequences

/-- The entry in a row. -/
def ofRow : (kind : Kind) → KeyedRow → kind.Entry
  | background, row => BackgroundEntry.mk row.id row.value
  | music, row => MusicEntry.mk row.id row.value
  | soundEffect, row => SoundEffectEntry.mk row.id row.value
  | sequence, row => SequenceEntry.mk row.id row.value

/-- The id of an entry. -/
def idOf : (kind : Kind) → kind.Entry → String
  | background => BackgroundEntry.id
  | music => MusicEntry.id
  | soundEffect => SoundEffectEntry.id
  | sequence => SequenceEntry.id

/-- The entry that a catalog has for an id. -/
def find? : (kind : Kind) → Catalog → String → Option kind.Entry
  | background, catalog => catalog.background?
  | music, catalog => catalog.musicTrack?
  | soundEffect, catalog => catalog.soundEffect?
  | sequence, catalog => catalog.sequenceTemplate?

theorem idOf_ofRow (kind : Kind) (row : KeyedRow) :
    kind.idOf (kind.ofRow row) = row.id := by
  cases kind <;> rfl

theorem find?_eq (kind : Kind) (catalog : Catalog) (id : String) :
    kind.find? catalog id
      = findById? kind.idOf (kind.entries catalog) id := by
  cases kind <;> rfl

end Kind

-- ============================================================ history

/-- What sheets put on a shelf; poses are not put there when the number of
an actor is too long. -/
def Sheets.entries? (sheets : Sheets) :
    (shelf : Shelf) → Option (List shelf.Entry)
  | .resources kind => some ((kind.rows sheets).map kind.ofRow)
  | .poses => (standingEntries sheets.standings).toOption

/-- What a request writes on a shelf, if it writes there. A catalog is
built from all sheets or not at all. -/
def Request.written? : Request → (shelf : Shelf) → Option (List shelf.Entry)
  | .set other entries, shelf =>
      if h : other = shelf then some (h ▸ entries) else none
  | .update sheets, shelf => sheets.entries? shelf
  | .build sheets, shelf =>
      if (standingEntries sheets.standings).isOk then sheets.entries? shelf
      else none

/-- What requests write on a shelf last. -/
def Request.lastWritten? (shelf : Shelf) (requests : List Request) :
    Option (List shelf.Entry) :=
  requests.reverse.findSome? fun request => request.written? shelf

section History

variable {shelf other : Shelf}

theorem written?_set_self (entries : List shelf.Entry) :
    (Request.set shelf entries).written? shelf = some entries :=
  dif_pos rfl

theorem written?_set_of_ne (h : other ≠ shelf) (entries : List other.Entry) :
    (Request.set other entries).written? shelf = none :=
  dif_neg h

theorem entries_put_self (entries : List shelf.Entry) (catalog : Catalog) :
    shelf.entries (shelf.put entries catalog) = entries := by
  cases shelf with
  | resources kind => cases kind <;> rfl
  | poses => rfl

theorem entries_put_of_ne (h : other ≠ shelf) (entries : List other.Entry)
    (catalog : Catalog) :
    shelf.entries (other.put entries catalog) = shelf.entries catalog := by
  cases other with
  | resources kind =>
      cases shelf with
      | resources own =>
          cases kind <;> cases own <;> first | rfl | exact absurd rfl h
      | poses => cases kind <;> rfl
  | poses =>
      cases shelf with
      | resources own => cases own <;> rfl
      | poses => exact absurd rfl h

/-- The resources are refilled whatever becomes of the poses. -/
theorem entries_update (shelf : Shelf) (catalog : Catalog) (sheets : Sheets) :
    shelf.entries (catalog.update sheets).1
      = (sheets.entries? shelf).getD (shelf.entries catalog) := by
  unfold update
  cases shelf with
  | resources kind =>
      cases standingEntries sheets.standings with
      | error e => cases kind <;> rfl
      | ok entries => cases kind <;> rfl
  | poses =>
      unfold Sheets.entries?
      cases standingEntries sheets.standings with
      | error e => rfl
      | ok entries => rfl

/-- A catalog that is built is the empty one updated. -/
theorem entries_build (shelf : Shelf) (catalog : Catalog) (sheets : Sheets) :
    shelf.entries (catalog.serve (.build sheets)).1
      = ((Request.build sheets).written? shelf).getD
          (shelf.entries catalog) := by
  unfold serve ofSheets Request.written?
  dsimp only
  cases hposes : standingEntries sheets.standings with
  | error e => rfl
  | ok entries =>
      have hupdate := entries_update shelf empty sheets
      unfold update at hupdate
      rw [hposes] at hupdate
      show shelf.entries { empty.refill sheets with standingPoses := entries }
        = (sheets.entries? shelf).getD _
      rw [hupdate]
      cases shelf with
      | resources kind => rfl
      | poses =>
          unfold Sheets.entries?
          rw [hposes]
          rfl

/-- A request leaves on a shelf what it writes there, or else what was
there. -/
theorem entries_serve (shelf : Shelf) (catalog : Catalog)
    (request : Request) :
    shelf.entries (catalog.serve request).1
      = (request.written? shelf).getD (shelf.entries catalog) := by
  cases request with
  | set other entries =>
      by_cases h : other = shelf
      · subst h
        rw [written?_set_self]
        exact entries_put_self entries catalog
      · rw [written?_set_of_ne h]
        exact entries_put_of_ne h entries catalog
  | update sheets => exact entries_update shelf catalog sheets
  | build sheets => exact entries_build shelf catalog sheets

theorem lastWritten?_concat (shelf : Shelf) (requests : List Request)
    (request : Request) :
    Request.lastWritten? shelf (requests ++ [request])
      = (request.written? shelf).or
          (Request.lastWritten? shelf requests) := by
  unfold Request.lastWritten?
  rw [List.reverse_append, List.reverse_singleton, List.singleton_append,
    List.findSome?_cons]
  cases request.written? shelf <;> rfl

theorem serveAll_concat (catalog : Catalog) (requests : List Request)
    (request : Request) :
    catalog.serveAll (requests ++ [request])
      = ((catalog.serveAll requests).serve request).1 := by
  unfold serveAll
  rw [List.foldl_append]
  rfl

/-- Requests leave on a shelf what they write there last. Nothing else that
was there or on another shelf has a part in it. -/
theorem entries_serveAll (shelf : Shelf) (catalog : Catalog)
    (requests : List Request) :
    shelf.entries (catalog.serveAll requests)
      = (Request.lastWritten? shelf requests).getD
          (shelf.entries catalog) := by
  induction requests using List.reverseRecOn with
  | nil => rfl
  | append_singleton requests request ih =>
      rw [serveAll_concat, entries_serve, ih, lastWritten?_concat,
        Option.getD_or]

end History

-- ============================================================ answers

/-- The counts tell what is on each shelf. -/
theorem lookup_counts (shelf : Shelf) (catalog : Catalog) :
    catalog.counts.lookup shelf.name
      = some (shelf.entries catalog).length := by
  cases shelf with
  | resources kind => cases kind <;> rfl
  | poses => rfl

/-- The number in an id cell of a sheet of poses; a cell without a number
counts as zero. -/
def actorNumber (cell : String) : Int := (Numeral.read cell).value?.getD 0

theorem actorNumber_trim (cell : String) :
    actorNumber (Text.trim cell) = actorNumber cell := by
  have hchars : Text.trimChars (Text.trim cell).toList
      = Text.trimChars cell.toList := by
    rw [Text.toList_trim]
    exact Text.dropEnds_dropEnds Text.isBlankChar cell.toList
  unfold actorNumber Numeral.read Numeral.readChars
  rw [hchars]

/-- The pose in a row. -/
def poseOf (row : StandingRow) : StandingEntry :=
  ⟨actorNumber row.actorId, row.expression, row.resourcePath⟩

theorem standingEntries_ok {rows : List StandingRow}
    {entries : List StandingEntry} (h : standingEntries rows = .ok entries) :
    entries = rows.map poseOf := by
  have hrow : ∀ row entry, standingEntry row = .ok entry →
      entry = poseOf row := by
    intro row entry hentry
    unfold standingEntry at hentry
    unfold poseOf actorNumber
    cases hread : Numeral.read row.actorId with
    | integer z =>
        rw [hread] at hentry
        cases hentry
        rfl
    | notInteger =>
        rw [hread] at hentry
        cases hentry
        rfl
    | tooLong digits =>
        rw [hread] at hentry
        cases hentry
  exact eq_map_of_mapM h hrow

/-- What a catalog answers about a kind of resource: for an id, the entry
in the first of the records that has it, whatever the case and the spaces
around it; for no id, nothing; and their number when it counts. -/
structure Kind.AnswersFrom (kind : Kind) (catalog : Catalog)
    (idPlace valuePlace : Nat) (kept : List (List String)) : Prop where
  lookup : ∀ id, kind.find? catalog id
    = if Text.trim id = "" then none
      else (kept.find? fun record =>
          Text.lower (Text.trim (Header.fieldAt record (some idPlace)))
            = Text.lower (Text.trim id)).map
        fun record => kind.ofRow (Sheet.keyedRow idPlace valuePlace record)
  count : catalog.counts.lookup (Shelf.resources kind).name
    = some kept.length

theorem Kind.answersFrom_of_entries {kind : Kind} {catalog : Catalog}
    {idPlace valuePlace : Nat} {kept : List (List String)}
    (h : kind.entries catalog
      = (kept.map (Sheet.keyedRow idPlace valuePlace)).map kind.ofRow) :
    kind.AnswersFrom catalog idPlace valuePlace kept := by
  constructor
  · intro id
    rw [find?_eq, h, List.map_map]
    unfold findById?
    simp only [List.find?_map, Function.comp_def, idOf_ofRow,
      Text.sameName_eq]
    rfl
  · rw [lookup_counts]
    show some (kind.entries catalog).length = some kept.length
    rw [h, List.length_map, List.length_map]

/-- What a catalog answers about poses: for an actor and an expression, the
pose in the first of the records that has both, whatever the case of the
expression; and their number when it counts. -/
structure PosesFrom (catalog : Catalog)
    (actorPlace expressionPlace pathPlace : Nat)
    (kept : List (List String)) : Prop where
  lookup : ∀ actor expression, catalog.standingPose? actor expression
    = (kept.find? fun record =>
          actorNumber (Header.fieldAt record (some actorPlace)) = actor
            ∧ Text.lower (Text.trim
                (Header.fieldAt record (some expressionPlace)))
              = Text.lower expression).map
        fun record =>
          ⟨actorNumber (Header.fieldAt record (some actorPlace)),
            Text.trim (Header.fieldAt record (some expressionPlace)),
            Text.trim (Header.fieldAt record (some pathPlace))⟩
  count : catalog.counts.lookup Shelf.poses.name = some kept.length

theorem posesFrom_of_entries {catalog : Catalog}
    {actorPlace expressionPlace pathPlace : Nat} {kept : List (List String)}
    (h : catalog.standingPoses
      = (kept.map (Sheet.poseRow actorPlace expressionPlace pathPlace)).map
          poseOf) :
    PosesFrom catalog actorPlace expressionPlace pathPlace kept := by
  have hpose : ∀ record,
      poseOf (Sheet.poseRow actorPlace expressionPlace pathPlace record)
        = ⟨actorNumber (Header.fieldAt record (some actorPlace)),
            Text.trim (Header.fieldAt record (some expressionPlace)),
            Text.trim (Header.fieldAt record (some pathPlace))⟩ := by
    intro record
    unfold poseOf Sheet.poseRow
    simp only [actorNumber_trim]
  constructor
  · intro actor expression
    unfold standingPose?
    rw [h, List.map_map]
    simp only [List.find?_map, Function.comp_def, hpose, Text.sameName_eq,
      Bool.decide_and]
  · rw [lookup_counts]
    show some catalog.standingPoses.length = some kept.length
    rw [h, List.length_map, List.length_map]

/-- Look-ups answer from the sheets that were loaded last. A sheet with an
id column and a value column that can be loaded has a header with both and
records below it; whatever a catalog had in its tables and however it was
asked to set, update and build them, as long as the last that was written
into the table for some kind of resource are the rows of this sheet, it
answers for this kind from the records that are long enough: with the
first one whose id is meant, and with their number. The same holds of the
poses and of the records of a sheet of poses that are long enough and not
blank, when no number of an actor is too long. -/
theorem answers_of_sheets :
    (∀ (kind : Kind) tree format keyColumn valueColumn path rows,
        Sheet.loadKeyed tree format keyColumn valueColumn path = .ok rows →
        ∃ first records idPlace valuePlace,
          Sheet.readRecords tree format path = .ok (first :: records)
            ∧ (Header.ofRecord first).position? keyColumn = some idPlace
            ∧ (Header.ofRecord first).position? valueColumn
                = some valuePlace
            ∧ ∀ (catalog : Catalog) requests,
                Request.lastWritten? (.resources kind) requests
                    = some (rows.map kind.ofRow) →
                kind.AnswersFrom (catalog.serveAll requests) idPlace
                  valuePlace (Sheet.keyedRecords idPlace valuePlace records))
      ∧ ∀ tree format path rows entries,
          Sheet.loadStandings tree format path = .ok rows →
          standingEntries rows = .ok entries →
          ∃ first records actorPlace expressionPlace pathPlace,
            Sheet.readRecords tree format path = .ok (first :: records)
              ∧ (Header.ofRecord first).position? "actorId"
                  = some actorPlace
              ∧ (Header.ofRecord first).position? "expression"
                  = some expressionPlace
              ∧ (Header.ofRecord first).position? "resourcePath"
                  = some pathPlace
              ∧ ∀ (catalog : Catalog) requests,
                  Request.lastWritten? .poses requests = some entries →
                  PosesFrom (catalog.serveAll requests) actorPlace
                    expressionPlace pathPlace (Sheet.poseRecords actorPlace
                      expressionPlace pathPlace records) := by
  constructor
  · intro kind tree format keyColumn valueColumn path rows hload
    obtain ⟨first, records, idPlace, valuePlace, hrecords, hid, hvalue,
      hrows⟩ := Sheet.rows_of_loadKeyed hload
    refine ⟨first, records, idPlace, valuePlace, hrecords, hid, hvalue,
      fun catalog requests hlast => ?_⟩
    have hentries := entries_serveAll (.resources kind) catalog requests
    rw [hlast, hrows] at hentries
    exact Kind.answersFrom_of_entries hentries
  · intro tree format path rows entries hload hposes
    obtain ⟨first, records, actorPlace, expressionPlace, pathPlace, hrecords,
      hactor, hexpression, hpath, hrows⟩ := Sheet.rows_of_loadStandings hload
    refine ⟨first, records, actorPlace, expressionPlace, pathPlace, hrecords,
      hactor, hexpression, hpath, fun catalog requests hlast => ?_⟩
    have hentries := entries_serveAll .poses catalog requests
    rw [hlast, standingEntries_ok hposes, hrows] at hentries
    exact posesFrom_of_entries hentries

/-- Records under the columns `description` and `id`: two name the roof,
one is too short, and one has no id. -/
def roofRecords : List (List String) :=
  [["School roof", " Roof "], ["Cellar"], ["Late roof", "ROOF"],
    ["Nowhere", ""]]

/-- Records under the columns of a sheet of poses: one is blank, and one
has no number. -/
def smileRecords : List (List String) :=
  [["3", "Smile", "smile"], ["oops", "Idle", "idle"], [" ", "", ""],
    ["+03", "SMILE", "late"]]

/-- The rows of these sheets. -/
def roofRows : List KeyedRow :=
  [⟨"Roof", "School roof"⟩, ⟨"ROOF", "Late roof"⟩, ⟨"", "Nowhere"⟩]

def smileRows : List StandingRow :=
  [⟨"3", "Smile", "smile"⟩, ⟨"oops", "Idle", "idle"⟩, ⟨"+03", "SMILE", "late"⟩]

/-- An update with these rows, between requests for other tables. -/
def roofRequests : List Request :=
  [.set (.resources .background) [BackgroundEntry.mk "roof" "Old roof"],
    .update ⟨roofRows, [], [], [], smileRows⟩,
    .set (.resources .music) [MusicEntry.mk "roof" "song"]]

/-- A catalog that has a roof and a pose already. -/
def oldCatalog : Catalog :=
  ⟨[⟨"roof", "Older roof"⟩], [], [], [], [⟨0, "idle", "old"⟩]⟩

/-- The roof and the poses of the sheets are found, and the old ones are
not. -/
theorem answers_of_roofRequests :
    (oldCatalog.serveAll roofRequests).background? " rOOf"
        = some ⟨"Roof", "School roof"⟩
      ∧ (oldCatalog.serveAll roofRequests).background? " " = none
      ∧ (oldCatalog.serveAll roofRequests).counts.lookup "backgrounds"
          = some 3
      ∧ (oldCatalog.serveAll roofRequests).standingPose? 0 "idle"
          = some ⟨0, "Idle", "idle"⟩
      ∧ (oldCatalog.serveAll roofRequests).counts.lookup "standing_poses"
          = some 3 := by
  have hroofs : Sheet.readRecords
      (Build.sheetTree (["description", "id"] :: roofRecords))
      ⟨",", "ascii"⟩ (.ofString "sheet")
        = .ok (["description", "id"] :: roofRecords) :=
    (Sheet.readRecords_eq Build.reads_ascii rfl).trans (by decide +kernel)
  have hsmiles : Sheet.readRecords
      (Build.sheetTree (Sheet.standingColumns :: smileRecords))
      ⟨",", "ascii"⟩ (.ofString "sheet")
        = .ok (Sheet.standingColumns :: smileRecords) :=
    (Sheet.readRecords_eq Build.reads_ascii rfl).trans (by decide +kernel)
  have hposes : standingEntries smileRows
      = .ok [⟨3, "Smile", "smile"⟩, ⟨0, "Idle", "idle"⟩,
          ⟨3, "SMILE", "late"⟩] := by
    decide +kernel
  obtain ⟨_, _, idPlace, valuePlace, hrecords, hid, hvalue, hanswers⟩ :=
    answers_of_sheets.1 .background
      (Build.sheetTree (["description", "id"] :: roofRecords))
      ⟨",", "ascii"⟩ "id" "description" (.ofString "sheet") roofRows
      (by decide +kernel)
  rw [hroofs] at hrecords
  cases hrecords
  have hidPlace : some idPlace = some 1 := hid.symm.trans (by decide +kernel)
  have hvaluePlace : some valuePlace = some 0 :=
    hvalue.symm.trans (by decide +kernel)
  cases hidPlace
  cases hvaluePlace
  obtain ⟨_, _, actorPlace, expressionPlace, pathPlace, hrecords, hactor,
    hexpression, hpath, hpose⟩ := answers_of_sheets.2
      (Build.sheetTree (Sheet.standingColumns :: smileRecords))
      ⟨",", "ascii"⟩ (.ofString "sheet") smileRows _ (by decide +kernel)
      hposes
  rw [hsmiles] at hrecords
  cases hrecords
  have hactorPlace : some actorPlace = some 0 :=
    hactor.symm.trans (by decide +kernel)
  have hexpressionPlace : some expressionPlace = some 1 :=
    hexpression.symm.trans (by decide +kernel)
  have hpathPlace : some pathPlace = some 2 :=
    hpath.symm.trans (by decide +kernel)
  cases hactorPlace
  cases hexpressionPlace
  cases hpathPlace
  have hlast : Request.lastWritten? .poses roofRequests
      = some [⟨3, "Smile", "smile"⟩, ⟨0, "Idle", "idle"⟩,
          ⟨3, "SMILE", "late"⟩] := by
    decide +kernel
  obtain ⟨hroof, hroofCount⟩ := hanswers oldCatalog roofRequests rfl
  obtain ⟨hsmile, hsmileCount⟩ := hpose oldCatalog roofRequests hlast
  exact ⟨(hroof " rOOf").trans (by decide +kernel),
    (hroof " ").trans (by decide +kernel),
    hroofCount.trans (by decide +kernel),
    (hsmile 0 "idle").trans (by decide +kernel),
    hsmileCount.trans (by decide +kernel)⟩

end Catalog

end Storyline
