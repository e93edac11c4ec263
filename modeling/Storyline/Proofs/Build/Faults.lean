/-
Which error ends a build. A build looks for all its sheets before it
reads any, the stories first; it reads them in another order, the stories
last. Whatever is wrong with its sheets, and however many things are, it
ends with the first of them in that way of going about it.

# What is compared

The error of a run, and the first fault of a list of sheets. The fault of
a sheet is told from its bytes alone (`RequiredSheet.fault?`), without
building a table: the bytes are no text, the text has no record, or the
first record names a column nowhere.

# What carries it

* of several steps the first fault counts (`StopsAt.bind`,
  `StopsAt.forM`, `StopsAt.mapM`);
* a single sheet stops at its own fault (`stopsAt_read`), and what is
  made of its rows afterwards goes through.

Main statement: `error_of_run`.
-/
import Storyline.Proofs.Build.Integrity
import Storyline.Proofs.FileTree
import Storyline.Proofs.Steps
import Storyline.Proofs.Text.Encoding

namespace Storyline

-- ============================================================= absence

namespace FileTree

/-- Whether there is a file at a path. -/
def holdsFile (tree : FileTree) (p : Path) : Bool :=
  (tree.read p).toOption.isSome

/-- What is said of a path without a file. The file system does not even
answer for one that is too long. -/
def absence (tree : FileTree) (p : Path) : Error :=
  if tree.locate p = .error .tooLong then .nameTooLong p
  else .sourceNotFound p.text none

end FileTree

theorem FileTree.holdsFile_iff {tree : FileTree} {p : Path} :
    tree.holdsFile p = true ↔ ∃ bytes, tree.read p = .ok bytes := by
  unfold holdsFile
  cases tree.read p <;> simp [Except.toOption]

/-- Looking for a sheet stops where there is no file. -/
theorem Sources.stopsAt_ensureFile (tree : FileTree) (p : Path) :
    StopsAt (if tree.holdsFile p then none else some (tree.absence p))
      (ensureFile tree p) := by
  by_cases hfile : tree.holdsFile p = true
  · rw [if_pos hfile]
    unfold ensureFile
    rw [FileTree.isFile_eq_true.2 (FileTree.holdsFile_iff.1 hfile)]
    exact ⟨(), rfl⟩
  · rw [if_neg hfile]
    unfold FileTree.holdsFile FileTree.read at hfile
    unfold ensureFile FileTree.isFile FileTree.find? FileTree.absence
    cases hlocate : tree.locate p with
    | error obstacle => cases obstacle <;> rfl
    | ok place =>
        rw [hlocate] at hfile
        simp only at hfile ⊢
        cases hat : tree.at? place with
        | none => rfl
        | some entry =>
            cases entry with
            | directory => rfl
            | file content =>
                rw [hat] at hfile
                exact absurd rfl hfile

-- ============================================================== sheets

/-- A sheet and the columns that are required of it: there are some, and
none is without a name. -/
structure RequiredSheet where
  path : Path
  columns : List String
  nonempty : columns ≠ []
  named : ∀ column ∈ columns, Text.lower column ≠ ""

/-- The sheets of a build in the order in which they are read. -/
def Sources.sheets (sources : Sources) : List RequiredSheet :=
  [⟨sources.actorSheet, Sheet.actorColumns, by decide, by decide +kernel⟩,
    ⟨sources.backgroundSheet, ["id", "description"], by decide,
      by decide +kernel⟩,
    ⟨sources.musicSheet, ["id", "resourceName"], by decide,
      by decide +kernel⟩,
    ⟨sources.soundEffectSheet, ["id", "resourceName"], by decide,
      by decide +kernel⟩,
    ⟨sources.sequenceSheet, ["id", "dsuCommand"], by decide,
      by decide +kernel⟩,
    ⟨sources.standingSheet, Sheet.standingColumns, by decide,
      by decide +kernel⟩]
    ++ sources.stories.map fun story =>
      ⟨story.path, Script.columns, by decide, by decide +kernel⟩

/-- The sheets are looked for before they are read. -/
theorem Sources.path_mem_paths {sources : Sources} {sheet : RequiredSheet}
    (h : sheet ∈ sources.sheets) : sheet.path ∈ sources.paths := by
  have hmem : sheet.path ∈ sources.sheets.map (·.path) :=
    List.mem_map_of_mem h
  unfold sheets at hmem
  rw [List.map_append, List.map_map] at hmem
  exact List.mem_append.2 (List.mem_append.1 hmem).symm

/-- A format with a separator of one character and an encoding that is
known, in which no text lacks the mark of its byte order. -/
structure Sheet.Format.Reads (format : Format) (separator : Char)
    (encoding : Text.Encoding) : Prop where
  separator : separator? format.separator = some separator
  noNull : format.encoding.toList.contains '\x00' = false
  known : Text.Encoding.ofName? format.encoding = some encoding
  marked : ∀ bytes, encoding.decode bytes ≠ .unmarked

/-- The first column that no cell of a header names, whatever the case and
the spaces and marks around it. -/
def Header.missing? (cells columns : List String) : Option String :=
  columns.find? fun column => !cells.any fun cell =>
    Text.lower (cleanCell cell) = Text.lower column

namespace RequiredSheet

/-- What is wrong with a sheet of these records: that there is none, or
what its header lacks. -/
def headerFault? (sheet : RequiredSheet) :
    List (List String) → Option Error
  | [] =>
      some (.malformedHeader sheet.path.text
        (sheet.columns.head sheet.nonempty) (some "sheet is empty"))
  | cells :: _ =>
      (Header.missing? cells sheet.columns).map fun column =>
        .malformedHeader sheet.path.text column none

/-- What is wrong with a sheet of these bytes: that they are no text in
its encoding, which goes by a name, or what is wrong with its records. -/
def fault? (sheet : RequiredSheet) (separator : Char)
    (encoding : Text.Encoding) (name : String) (bytes : List UInt8) :
    Option Error :=
  match encoding.decode bytes with
  | .malformed | .unmarked =>
      some (.sourceNotFound sheet.path.text (some ("not valid " ++ name)))
  | .text cs =>
      sheet.headerFault? ((Sheet.recordsWith separator
        (Text.unifyBreaks cs)).map (·.map String.ofList))

/-- What is wrong with a sheet in a tree, where it is a file. -/
def faultIn? (sheet : RequiredSheet) (tree : FileTree) (separator : Char)
    (encoding : Text.Encoding) (name : String) : Option Error :=
  (tree.read sheet.path).toOption.bind
    (sheet.fault? separator encoding name)

end RequiredSheet

-- =========================================================== one sheet

/-- A column with a name is found where a cell names it. -/
theorem Header.isSome_position? {column : String}
    (h : Text.lower column ≠ "") (cells : List String) :
    ((ofRecord cells).position? column).isSome
      = cells.any fun cell =>
          Text.lower (cleanCell cell) = Text.lower column := by
  have hcell : ∀ cell : String,
      ((cleanCell cell ≠ "" && Text.lower (cleanCell cell)
        = Text.lower column : Bool))
      = decide (Text.lower (cleanCell cell) = Text.lower column) := by
    intro cell
    by_cases hempty : cleanCell cell = ""
    · have hnothing : Text.lower "" = "" := by decide +kernel
      have hlower : Text.lower "" ≠ Text.lower column := fun heq =>
        h (heq.symm.trans hnothing)
      rw [hempty, decide_eq_false hlower, Bool.and_false]
    · rw [decide_eq_true hempty, Bool.true_and]
  unfold position? ofRecord
  rw [List.findIdx?_isSome, List.any_map]
  simp only [Function.comp_def, hcell]

/-- A header without a column is refused for the first one missing. -/
theorem Header.stopsAt_require {columns : List String}
    (h : ∀ column ∈ columns, Text.lower column ≠ "") (cells : List String)
    (path : String) :
    StopsAt ((missing? cells columns).map fun column =>
        .malformedHeader path column none)
      ((ofRecord cells).require path columns) := by
  induction columns with
  | nil => exact ⟨[], rfl⟩
  | cons column rest ih =>
      rw [List.forall_mem_cons] at h
      have hfound := isSome_position? h.1 cells
      unfold missing? require
      rw [List.find?_cons, ← hfound]
      cases (ofRecord cells).position? column with
      | none => rfl
      | some position =>
          exact (ih h.2).bind_ok fun others _ => ⟨position :: others, rfl⟩

/-- The records of a sheet make a table, unless one of these faults
stands in the way. -/
theorem RequiredSheet.stopsAt_ofRecords (sheet : RequiredSheet)
    (records : List (List String)) :
    StopsAt (sheet.headerFault? records)
      (Table.ofRecords sheet.path sheet.columns records) := by
  cases records with
  | nil =>
      obtain ⟨path, columns, hnonempty, hnamed⟩ := sheet
      cases columns with
      | nil => exact absurd rfl hnonempty
      | cons column rest => rfl
  | cons cells rest =>
      exact (Header.stopsAt_require sheet.named _ _).bind_ok
        fun positions _ => ⟨_, rfl⟩

section Sheets

variable {tree : FileTree} {format : Sheet.Format} {separator : Char}
  {encoding : Text.Encoding}

/-- The records of a file are those of its text; bytes that are no text
are an error about the sheet. -/
theorem Sheet.readRecords_eq {path : Path} {bytes : List UInt8}
    (hformat : format.Reads separator encoding)
    (hbytes : tree.read path = .ok bytes) :
    readRecords tree format path
      = match encoding.decode bytes with
        | .malformed | .unmarked => .error (.sourceNotFound path.text
            (some ("not valid " ++ format.encoding)))
        | .text cs => .ok ((recordsWith separator
            (Text.unifyBreaks cs)).map (·.map String.ofList)) := by
  unfold readRecords readText decodeText records
  rw [hbytes, hformat.noNull, hformat.known, hformat.separator]
  simp only [Bool.false_eq_true, if_false]
  cases hdecode : encoding.decode bytes with
  | unmarked => exact absurd hdecode (hformat.marked bytes)
  | malformed => rfl
  | text cs =>
      show Except.ok _ = Except.ok _
      rw [String.toList_ofList]

/-- Reading a sheet that is a file stops at its fault. -/
theorem RequiredSheet.stopsAt_read (sheet : RequiredSheet)
    (hformat : format.Reads separator encoding)
    (hfile : tree.holdsFile sheet.path = true) :
    StopsAt (sheet.faultIn? tree separator encoding format.encoding)
      (Table.read tree format sheet.path sheet.columns) := by
  obtain ⟨bytes, hbytes⟩ := FileTree.holdsFile_iff.1 hfile
  unfold faultIn? fault? Table.read
  rw [hbytes, Sheet.readRecords_eq hformat hbytes]
  simp only [Except.toOption, Option.bind_some]
  cases encoding.decode bytes with
  | malformed | unmarked => rfl
  | text cs => exact sheet.stopsAt_ofRecords _

-- ========================================================== the actors

/-- No id of the actor sheet is a number with too many digits. -/
def ShortIds (tree : FileTree) (format : Sheet.Format) (path : Path) :
    Prop :=
  ∀ table, Table.read tree format path Sheet.actorColumns = .ok table →
    ∀ row ∈ table.rows, ∀ digits,
      Numeral.read (table.header.field row "id") ≠ .tooLong digits

theorem Sheet.exists_actorsOfRows {rows : List (List String)}
    (h : ∀ id name, [id, name] ∈ rows → ∀ digits,
      Numeral.read id ≠ .tooLong digits) :
    ∃ actors, actorsOfRows rows = .ok actors := by
  induction rows with
  | nil => exact ⟨[], rfl⟩
  | cons row rest ih =>
      obtain ⟨others, hothers⟩ :=
        ih fun id name hmem => h id name (List.mem_cons_of_mem _ hmem)
      -- only a row with two fields is looked at
      rcases row with _ | ⟨id, _ | ⟨name, _ | ⟨third, more⟩⟩⟩
      · exact ⟨others, hothers⟩
      · exact ⟨others, hothers⟩
      · unfold actorsOfRows
        cases hread : Numeral.read id with
        | tooLong digits =>
            exact absurd hread (h id name List.mem_cons_self digits)
        | notInteger => exact ⟨others, hothers⟩
        | integer z => exact ⟨_, by rw [hothers]; rfl⟩
      · exact ⟨others, hothers⟩

/-- The first of the required fields of a row is its field in the first
required column. -/
theorem Table.field_of_required? {path : Path} {column : String}
    {others : List String} {records : List (List String)} {table : Table}
    (h : ofRecords path (column :: others) records = .ok table)
    {row : List String} {cell : String} {cells : List String}
    (hrow : table.required? row = some (cell :: cells)) :
    table.header.field row column = cell := by
  cases records with
  | nil => cases h
  | cons first rows =>
      obtain ⟨positions, hpositions, h⟩ := Error.bind_eq_ok.1 h
      cases h
      unfold Header.require at hpositions
      unfold Header.field
      split at hpositions
      · cases hpositions
      · next position hposition =>
        obtain ⟨behind, -, hpositions⟩ := Error.bind_eq_ok.1 hpositions
        cases hpositions
        unfold required? at hrow
        rw [List.mapM_cons] at hrow
        obtain ⟨found, hfound, hrow⟩ := Option.bind_eq_some_iff.1 hrow
        obtain ⟨rest, -, hrow⟩ := Option.bind_eq_some_iff.1 hrow
        cases hrow
        rw [hposition]
        show row[position]?.getD "" = cell
        rw [hfound, Option.getD_some]

/-- Reading the actors stops at the fault of their sheet. -/
theorem Sheet.stopsAt_loadActors {path : Path} {fault : Option Error}
    (hids : ShortIds tree format path)
    (h : StopsAt fault (Table.read tree format path actorColumns)) :
    StopsAt fault (loadActors tree format path) := by
  refine h.bind_ok fun table htable => exists_actorsOfRows ?_
  intro id name hmem
  obtain ⟨records, -, hrecords⟩ := Error.bind_eq_ok.1 htable
  obtain ⟨row, hrow, hfields⟩ := List.mem_filterMap.1 hmem
  rw [← Table.field_of_required? hrecords hfields]
  exact hids table htable row hrow

-- ========================================================== the build

namespace Build

variable {sources : Sources} {previous : Option Database}

theorem holdsFile_of_ensureFiles (h : sources.ensureFiles tree = .ok ()) :
    ∀ p ∈ sources.paths, tree.holdsFile p = true := by
  have hnone := (StopsAt.forM fun p _ =>
    Sources.stopsAt_ensureFile tree p).eq_none h
  intro p hp
  have hfile := List.findSome?_eq_none_iff.1 hnone p hp
  by_contra habsent
  rw [if_neg habsent] at hfile
  cases hfile

theorem stopsAt_loadKeyed {fault : Option Error} {path : Path}
    {keyColumn valueColumn : String}
    (h : StopsAt fault
      (Table.read tree format path [keyColumn, valueColumn])) :
    StopsAt fault
      (Sheet.loadKeyed tree format keyColumn valueColumn path) :=
  h.bind_ok fun _ _ => ⟨_, rfl⟩

theorem stopsAt_loadStory {fault : Option Error} {story : StorySource}
    (h : StopsAt fault
      (Table.read tree format story.path Script.columns)) :
    StopsAt fault (loadStory tree format story) :=
  (h.bind_ok fun _ _ => ⟨_, rfl⟩).bind_ok fun _ _ => ⟨_, rfl⟩

/-- Reading the sheets of a build stops at the first path without a file,
and if there is none, where reading the first sheet stops that does. -/
theorem stopsAt_load_of_read {fault : RequiredSheet → Option Error}
    (hids : ShortIds tree format sources.actorSheet)
    (hread : (∀ p ∈ sources.paths, tree.holdsFile p = true) →
      ∀ sheet ∈ sources.sheets, StopsAt (fault sheet)
        (Table.read tree format sheet.path sheet.columns)) :
    StopsAt
      ((sources.paths.findSome? fun p =>
          if tree.holdsFile p then none else some (tree.absence p)).or
        (sources.sheets.findSome? fault))
      (load tree format sources) := by
  refine (StopsAt.forM fun p _ => Sources.stopsAt_ensureFile tree p).bind
    fun _ hfiles => ?_
  replace hread := hread (holdsFile_of_ensureFiles hfiles)
  unfold Sources.sheets at hread ⊢
  simp only [List.cons_append, List.nil_append, List.forall_mem_cons]
    at hread ⊢
  obtain ⟨hactors, hbackgrounds, hmusic, heffects, hsequences, hstandings,
    hstories⟩ := hread
  simp only [StopsAt.findSome?_cons]
  refine (Sheet.stopsAt_loadActors hids hactors).bind fun _ _ =>
    (stopsAt_loadKeyed hbackgrounds).bind fun _ _ =>
    (stopsAt_loadKeyed hmusic).bind fun _ _ =>
    (stopsAt_loadKeyed heffects).bind fun _ _ =>
    (stopsAt_loadKeyed hsequences).bind fun _ _ =>
    StopsAt.bind (hstandings.bind_ok fun _ _ => ⟨_, rfl⟩) fun _ _ => ?_
  rw [List.findSome?_map]
  refine (StopsAt.mapM fun story hstory => ?_).bind_ok
    fun _ _ => ⟨_, rfl⟩
  have htable := hstories _ (List.mem_map_of_mem hstory)
  exact stopsAt_loadStory htable

/-- In a known format it stops at the first faulty sheet then. -/
theorem stopsAt_load (hformat : format.Reads separator encoding)
    (hids : ShortIds tree format sources.actorSheet) :
    StopsAt
      ((sources.paths.findSome? fun p =>
          if tree.holdsFile p then none else some (tree.absence p)).or
        (sources.sheets.findSome? fun sheet =>
          sheet.faultIn? tree separator encoding format.encoding))
      (load tree format sources) :=
  stopsAt_load_of_read hids fun hfiles sheet hsheet =>
    sheet.stopsAt_read hformat
      (hfiles _ (Sources.path_mem_paths hsheet))

/-- The first path without a file makes the first fault. -/
theorem findSome?_absence (paths : List Path) :
    (paths.findSome? fun p =>
        if tree.holdsFile p then none else some (tree.absence p))
      = (paths.find? fun p => !tree.holdsFile p).map tree.absence := by
  induction paths with
  | nil => rfl
  | cons p rest ih =>
      rw [List.findSome?_cons, List.find?_cons]
      cases tree.holdsFile p with
      | false => rfl
      | true => exact ih

/-- When there is a file at each path, reading the sheets of a build ends
where reading one of them does, if all sheets before it have been read. -/
theorem load_of_read_error {before after : List RequiredSheet}
    {sheet : RequiredSheet} {e : Error}
    (hids : ShortIds tree format sources.actorSheet)
    (hfiles : ∀ p ∈ sources.paths, tree.holdsFile p = true)
    (hsheets : sources.sheets = before ++ sheet :: after)
    (hbefore : ∀ earlier ∈ before, ∃ table,
      Table.read tree format earlier.path earlier.columns = .ok table)
    (h : Table.read tree format sheet.path sheet.columns = .error e) :
    load tree format sources = .error e := by
  have hload := stopsAt_load_of_read hids fun _ other _ =>
    StopsAt.errorOf? (Table.read tree format other.path other.columns)
  rw [findSome?_absence, List.find?_eq_none.2 fun p hp => by
    rw [hfiles p hp]; decide, hsheets, List.findSome?_append,
    List.findSome?_eq_none_iff.2 fun earlier hearlier =>
      errorOf?_eq_none_iff.2 (hbefore earlier hearlier),
    List.findSome?_cons, h] at hload
  exact hload

/-- A build whose sheets cannot be read ends with that error. -/
theorem run_of_load_error {e : Error}
    (h : load tree format sources = .error e) :
    run tree format sources previous = .error e := by
  unfold run
  rw [h]
  rfl

/-- The error of a build. When some path has no file, it is about the
first of those in the order in which sheets are looked for, whatever is
wrong with other sheets; otherwise it is the fault of the first faulty
sheet in the order in which they are read. When no sheet is faulty, all of
them are loaded. -/
theorem error_of_run (hformat : format.Reads separator encoding)
    (hids : ShortIds tree format sources.actorSheet) :
    (∀ p, sources.paths.find? (fun p => !tree.holdsFile p) = some p →
        run tree format sources previous = .error (tree.absence p))
      ∧ ((∀ p ∈ sources.paths, tree.holdsFile p = true) →
        (∀ e, (sources.sheets.findSome? fun sheet =>
              sheet.faultIn? tree separator encoding format.encoding)
              = some e →
            run tree format sources previous = .error e)
          ∧ ((∀ sheet ∈ sources.sheets, sheet.faultIn? tree separator
                encoding format.encoding = none) →
            ∃ loaded, load tree format sources = .ok loaded)) := by
  have hload :=
    @stopsAt_load tree format separator encoding sources hformat hids
  rw [findSome?_absence] at hload
  refine ⟨fun p hp => ?_, fun hfiles => ⟨fun e he => ?_, fun hsound => ?_⟩⟩
  · rw [hp] at hload
    exact run_of_load_error hload
  all_goals
    rw [List.find?_eq_none.2 fun p hp => by rw [hfiles p hp]; decide]
      at hload
  · rw [he] at hload
    exact run_of_load_error hload
  · rw [List.findSome?_eq_none_iff.2 hsound] at hload
    exact hload

end Build

end Sheets

namespace Build

/-- The files of a build, of which one is empty, one is not text, and one
has the columns of another sheet. -/
def faultyTree : FileTree :=
  ⟨[(["story"], sheetFile [Script.columns]),
    (["actors"], sheetFile [["id", "displayName"], ["1", "Player"]]),
    (["backgrounds"], sheetFile [["ID", " Description "]]),
    (["media"], .file []),
    (["sequences"], .file [0xFF]),
    (["poses"], sheetFile [["id", "displayName"]])]⟩

/-- The sources of that build with a story that is nowhere. -/
def goneSources : Sources :=
  { echoSources with stories := [⟨.ofString "gone", "Gone"⟩] }

/-- A tree with one sheet. -/
def sheetTree (records : List (List String)) : FileTree :=
  ⟨[(["sheet"], sheetFile records)]⟩

theorem reads_ascii : Sheet.Format.Reads ⟨",", "ascii"⟩ ',' .ascii :=
  ⟨by decide +kernel, by decide +kernel, by decide +kernel,
    Text.Encoding.decode_ne_unmarked (by decide)⟩

theorem shortIds_faultyTree :
    ShortIds faultyTree ⟨",", "ascii"⟩ echoSources.actorSheet := by
  intro table htable row hrow digits hlong
  have hread : Table.read faultyTree ⟨",", "ascii"⟩ echoSources.actorSheet
      Sheet.actorColumns
      = .ok ⟨⟨["id", "displayName"]⟩, [0, 1], [["1", "Player"]]⟩ := by
    decide +kernel
  rw [hread] at htable
  cases htable
  rw [List.mem_singleton.1 hrow, show Numeral.read _ = .integer 1 by
    decide +kernel] at hlong
  cases hlong

/-- Three sheets are faulty, and the first of them in reading order is
named; a story that is missing would be named instead. -/
theorem error_faultyTree :
    run faultyTree ⟨",", "ascii"⟩ echoSources none
        = .error (.malformedHeader "media" "id" (some "sheet is empty"))
      ∧ run faultyTree ⟨",", "ascii"⟩ goneSources none
        = .error (.sourceNotFound "gone" none) := by
  constructor
  · exact ((error_of_run reads_ascii shortIds_faultyTree).2
      (by decide +kernel)).1 _ (by decide +kernel)
  · have hgone : faultyTree.absence (.ofString "gone")
        = .sourceNotFound "gone" none := by decide +kernel
    have hids : ShortIds faultyTree ⟨",", "ascii"⟩
        goneSources.actorSheet := shortIds_faultyTree
    rw [← hgone]
    exact (error_of_run reads_ascii hids).1 _ (by decide +kernel)

/-- A path of one component that is too long leads nowhere, in any
tree. -/
theorem locate_tooLong {tree : FileTree} {name : String}
    (hnull : Path.hasNull ⟨.here, [name]⟩ = false)
    (hlong : FileTree.componentLimit < name.utf8ByteSize) :
    tree.locate ⟨.here, [name]⟩ = .error .tooLong := by
  unfold FileTree.locate FileTree.obstacleIn?
  rw [hnull, if_neg Bool.false_ne_true]
  by_cases hpath : FileTree.pathLimit
      < (Path.text ⟨.here, [name]⟩).utf8ByteSize
  · rw [if_pos hpath]
  · rw [if_neg hpath]
    show FileTree.walk tree [] [name] = _
    unfold FileTree.walk
    rw [show tree.at? [] = some .directory by rfl]
    exact if_pos hlong

theorem holdsFile_of_tooLong {tree : FileTree} {p : Path}
    (h : tree.locate p = .error .tooLong) : tree.holdsFile p = false := by
  unfold FileTree.holdsFile FileTree.read
  rw [h]
  rfl

/-- The error of the file system ends the build. -/
theorem run_of_tooLong {tree : FileTree} {format : Sheet.Format}
    {sources : Sources} {previous : Option Database} {p : Path}
    {rest : List Path} (hpaths : sources.paths = p :: rest)
    (hlocate : tree.locate p = .error .tooLong) :
    run tree format sources previous = .error (.nameTooLong p) := by
  have hlooked : Sources.ensureFile tree p = .error (.nameTooLong p) := by
    unfold Sources.ensureFile FileTree.isFile FileTree.find?
    rw [hlocate]
    rfl
  unfold run load Sources.ensureFiles
  rw [hpaths]
  show (((Sources.ensureFile tree p >>= fun _ => _) >>= fun _ => _)
    >>= fun _ => _) = _
  rw [hlooked]
  rfl

/-- A name with one letter too many. -/
def longName : String := String.ofList (List.replicate 256 'a')

/-- Sources with an actor sheet of that name. -/
def longSources : Sources :=
  { echoSources with stories := [], actorSheet := ⟨.here, [longName]⟩ }

theorem utf8ByteSize_replicate (n : Nat) :
    (String.ofList (List.replicate n 'a')).utf8ByteSize = n := by
  induction n with
  | zero => rfl
  | succ n ih =>
      rw [List.replicate_succ, String.ofList_cons,
        String.utf8ByteSize_append, ih, String.utf8ByteSize_singleton,
        show Char.utf8Size 'a' = 1 by rfl, Nat.add_comm]

theorem locate_longName (tree : FileTree) :
    tree.locate ⟨.here, [longName]⟩ = .error .tooLong := by
  apply locate_tooLong
  · unfold Path.hasNull longName
    rw [List.any_cons, String.toList_ofList]
    decide +kernel
  · unfold longName
    rw [utf8ByteSize_replicate]
    decide

/-- Of a path that is too long it is not said that the sheet is missing,
although it is the first path without a file. -/
theorem longName_not_sourceNotFound :
    longSources.paths.find? (fun p => !faultyTree.holdsFile p)
        = some ⟨.here, [longName]⟩
      ∧ run faultyTree ⟨",", "ascii"⟩ longSources none
        = .error (.nameTooLong ⟨.here, [longName]⟩)
      ∧ ∀ path detail, run faultyTree ⟨",", "ascii"⟩ longSources none
        ≠ .error (.sourceNotFound path detail) := by
  have hlocate := locate_longName faultyTree
  have habsent := holdsFile_of_tooLong hlocate
  have hrun := @run_of_tooLong faultyTree ⟨",", "ascii"⟩ longSources none
    _ _ rfl hlocate
  refine ⟨?_, hrun, fun path detail h => ?_⟩
  · refine List.find?_cons_of_pos ?_
    show (!faultyTree.holdsFile ⟨.here, [longName]⟩) = true
    rw [habsent]
    rfl
  · rw [hrun] at h
    cases h

end Build

end Storyline
