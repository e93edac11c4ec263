/-
What becomes of the authors' own data, the variables and the items of a
database, over any number of builds, whatever else is edited in between.
A build that does not come to write leaves the database as it is; one
that does carries the variables over and drops the items that the catalog
replaces, and what it writes is read by the next one.

# What carries it

The invariant is `Keeps`: the database can be read, the variables are the
ones of the beginning, and so are the items, less those that were
dropped when it was written. One build keeps it (`Keeps.build`), because
it leaves all files as they are or has its database in place
(`Ends.writes_or`); so every history does.

Main statement: `keeps_of_history`.
-/
import Storyline.Proofs.Build.ReadBack
import Storyline.Proofs.Command.Outputs
import Storyline.Proofs.Sheet.Spelling
import Storyline.Proofs.Text.Utf8

namespace Storyline

/-- Items that were dropped are gone. -/
theorem Item.withoutLegacy_withoutLegacy (items : List Item) :
    withoutLegacy (withoutLegacy items) = withoutLegacy items := by
  unfold withoutLegacy
  rw [List.filter_filter]
  simp only [Bool.and_self]

namespace Command

open Json (countLimit lt_countLimit)

variable {settings : Settings} {options : CompileOptions}
  {tree after : FileTree} {p : Path} {database : Database}
  {ending : Ending}

-- ===================================================== reading it again

/-- A lawful database is read from the file that it was written to. -/
theorem holds_of_lawful (h : database.Lawful)
    (hread : tree.read p = .ok (Text.utf8Bytes (databaseText database))) :
    Holds tree p database := by
  refine ⟨_, _, hread, Text.decodeUtf8_utf8Bytes _, ?_⟩
  unfold databaseText
  rw [Sheet.unifyBreaks_of_not_mem
      (Json.return_not_mem_indented (Database.fits_toJson h)),
    String.ofList_toList]
  exact Database.document_toJson h

/-- A database is what its file has, wherever else the files differ. -/
theorem Holds.congr (h : Holds tree p database)
    (hread : ∀ bytes, tree.read p = .ok bytes → after.read p = .ok bytes) :
    Holds after p database := by
  obtain ⟨bytes, cs, hbytes, hrest⟩ := h
  exact ⟨bytes, cs, hread bytes hbytes, hrest⟩

/-- What is in a file can be carried over. -/
theorem Holds.portable (h : Holds tree p database)
    (hfinite : ∀ var ∈ database.vars, ∀ entry ∈ var, entry.2.OnlyFinite) :
    database.Portable := by
  obtain ⟨_, _, -, -, hdocument⟩ := h
  exact Database.portable_of_document hdocument hfinite

-- ============================================================ one build

/-- What a build counts, bytes and stories, has numbers that are short
enough to be read. -/
structure Sized (settings : Settings) (options : CompileOptions)
    (tree : FileTree) : Prop where
  tree : Build.Countable tree
  stories : ∀ sources, sheetsOf settings options = .ok sources →
    sources.stories.length < countLimit

/-- A build that comes to write the database: it has a plan and is no dry
run, the folder can be made, and the path can be written. -/
def Writes (settings : Settings) (options : CompileOptions)
    (tree : FileTree) : Prop :=
  ∃ prepared made, Planned settings options tree prepared
    ∧ options.dryRun = false
    ∧ (FileTree.makeDirectory prepared.output).run tree = (.ok (), made)
    ∧ made.Writable prepared.databasePath

theorem not_writes_of_plan {stop : Stop}
    (h : plan settings options tree = .error stop) :
    ¬ Writes settings options tree := by
  rintro ⟨prepared, made, hplan, -⟩
  rw [plan_eq_ok_iff.2 hplan] at h
  cases h

/-- What a plan carries over from the database that is there. -/
theorem Planned.carries {prepared : Prepared}
    (h : Planned settings options tree prepared)
    (hsized : Sized settings options tree)
    (hholds : Holds tree (databasePathOf settings options) database)
    (hportable : database.Portable) :
    prepared.result.database.Lawful
      ∧ prepared.result.database.vars = database.vars
      ∧ prepared.result.database.items
          = Item.withoutLegacy database.items := by
  have hold := h.previous
  rw [h.databasePath_eq, oldDatabase_eq_some_iff.2 hholds] at hold
  have hrun := h.result
  rw [← Except.ok.inj hold] at hrun
  refine ⟨Build.lawful_of_run hsized.tree (hsized.stories _ h.sheetsOf_eq)
    (fun other hother => ?_) hrun, Build.carried_of_run hrun⟩
  cases hother
  exact hportable

/-- A build that does not come to write leaves all files as they are; one
that does leaves the database that it has worked out, if its catalog is
another file. -/
theorem Ends.writes_or (h : Ends settings options tree ending after)
    (hcatalog : (catalogPathOf settings options).place
      ≠ (databasePathOf settings options).place) :
    ¬ Writes settings options tree ∧ FileTree.AddsDirectories tree after
      ∨ Writes settings options tree
        ∧ ∃ prepared, Planned settings options tree prepared
          ∧ after.read prepared.databasePath
            = .ok prepared.databaseBytes := by
  cases h with
  | unplanned hplan => exact Or.inl ⟨not_writes_of_plan hplan, .refl _⟩
  | dry hplan hdry =>
      refine Or.inl ⟨?_, .refl _⟩
      rintro ⟨_, _, -, hwet, -⟩
      rw [hdry] at hwet
      cases hwet
  | @failed prepared e after hplan hwet hwrites =>
      cases written_of_run hwrites with
      | neither e hadds hfails =>
          refine Or.inl ⟨?_, hadds⟩
          rintro ⟨other, made, hother, -, hmade, hwritable⟩
          cases hplan.unique hother
          exact hfails made hmade hwritable
      | databaseOnly e hmade hdatabase _ =>
          exact Or.inr ⟨⟨prepared, _, hplan, hwet, hmade, hdatabase⟩,
            prepared, hplan, hdatabase.read_put⟩
  | @wrote prepared after hplan hwet hwrites =>
      cases written_of_run hwrites with
      | both htakes =>
          refine Or.inr ⟨⟨prepared, _, hplan, hwet, htakes.folder,
            htakes.database⟩, prepared, hplan, htakes.read_database ?_⟩
          rw [hplan.databasePath_eq, hplan.catalogPath_eq]
          exact hcatalog

/-- One build: either it does not write, and the database is what it was,
or it writes, and carries over what it should. -/
theorem Ends.holds (h : Ends settings options tree ending after)
    (hcatalog : (catalogPathOf settings options).place
      ≠ (databasePathOf settings options).place)
    (hsized : Sized settings options tree)
    (hholds : Holds tree (databasePathOf settings options) database)
    (hportable : database.Portable) :
    ¬ Writes settings options tree
        ∧ Holds after (databasePathOf settings options) database
      ∨ Writes settings options tree
        ∧ ∃ next : Database,
            Holds after (databasePathOf settings options) next
              ∧ next.Portable ∧ next.vars = database.vars
              ∧ next.items = Item.withoutLegacy database.items := by
  rcases h.writes_or hcatalog with
    ⟨hquiet, hadds⟩ | ⟨hwrites, prepared, hplan, hread⟩
  · exact Or.inl ⟨hquiet, hholds.congr fun _ => hadds.read⟩
  · obtain ⟨hlawful, hvars, hitems⟩ :=
      hplan.carries hsized hholds hportable
    rw [hplan.databasePath_eq] at hread
    exact Or.inr ⟨hwrites, _, holds_of_lawful hlawful hread,
      hlawful.toPortable, hvars, hitems⟩

-- =========================================================== many builds

/-- What may happen to a tree of files with a database at a path: builds
that have their database there and their catalog elsewhere, however they
end, command lines that ask for no build or cannot be used, and edits that
leave the database as it is. The proposition says whether one of the
builds has come to write the database. -/
inductive History (p : Path) (start : FileTree) : Prop → FileTree → Prop where
  | start : History p start False start
  | edit {written : Prop} {tree after : FileTree}
      (before : History p start written tree)
      (hread : after.read p = tree.read p) : History p start written after
  | other {written : Prop} {tree : FileTree} (settings : Settings)
      {words : List String} (before : History p start written tree)
      (hwords : ∀ options, Invocation.ofWords words ≠ .compile options) :
      History p start written (run settings words tree).world.tree
  | build {written : Prop} {tree : FileTree} {settings : Settings}
      {words : List String} {options : CompileOptions}
      (before : History p start written tree)
      (hwords : Invocation.ofWords words = .compile options)
      (hdatabase : databasePathOf settings options = p)
      (hcatalog : (catalogPathOf settings options).place ≠ p.place)
      (hsized : Sized settings options tree) :
      History p start (written ∨ Writes settings options tree)
        (run settings words tree).world.tree

/-- A database at a path that has kept what a first one had: its
variables, and its items as far as they are not dropped. -/
structure Keeps (p : Path) (first : Database) (written : Prop)
    (tree : FileTree) (database : Database) : Prop where
  holds : Holds tree p database
  portable : database.Portable
  vars : database.vars = first.vars
  untouched : ¬ written → database.items = first.items
  dropped : written → database.items = Item.withoutLegacy first.items

variable {first : Database} {written : Prop}

theorem Keeps.edit (h : Keeps p first written tree database)
    (hread : after.read p = tree.read p) :
    Keeps p first written after database :=
  { h with holds := h.holds.congr fun _ hbytes => hread.trans hbytes }

theorem Keeps.build (h : Keeps p first written tree database)
    {words : List String}
    (hwords : Invocation.ofWords words = .compile options)
    (hdatabase : databasePathOf settings options = p)
    (hcatalog : (catalogPathOf settings options).place ≠ p.place)
    (hsized : Sized settings options tree) :
    ∃ next, Keeps p first (written ∨ Writes settings options tree)
      (run settings words tree).world.tree next := by
  subst hdatabase
  rcases (ends_of_run hwords settings tree).holds hcatalog hsized h.holds
    h.portable with ⟨hquiet, hholds⟩ | ⟨hwrites, next, hholds, hportable,
      hvars, hitems⟩
  · refine ⟨database, hholds, h.portable, h.vars, fun hnot => ?_,
      fun hwritten => ?_⟩
    · exact h.untouched fun hwritten => hnot (Or.inl hwritten)
    · exact h.dropped (hwritten.resolve_right hquiet)
  · refine ⟨next, hholds, hportable, hvars.trans h.vars,
      fun hnot => absurd (Or.inr hwrites) hnot, fun _ => ?_⟩
    rw [hitems]
    by_cases hbefore : written
    · rw [h.dropped hbefore, Item.withoutLegacy_withoutLegacy]
    · rw [h.untouched hbefore]

/-- The authors' data outlive every history. If a path leads to a
database without doubles that are no numbers, then after any number of
builds and edits it leads to a database again; the variables are the same
and in the same order; and so are the items as long as no build has come
to write the database, whereas afterwards they are those that are in none
of the categories of the catalog.

The numbers of bytes and of stories that a build counts have at most 4300
digits, and the catalog goes to another place than the database. -/
theorem keeps_of_history {start : FileTree} (hfirst : Holds start p first)
    (hfinite : ∀ var ∈ first.vars, ∀ entry ∈ var, entry.2.OnlyFinite)
    (h : History p start written tree) :
    ∃ database : Database, Holds tree p database
      ∧ database.vars = first.vars
      ∧ (¬ written → database.items = first.items)
      ∧ (written → database.items = first.items.filter fun item =>
          !(["BG", "BGM", "SFX", "Sequence"].contains
            ((item.fields.lookup "Category").getD ""))) := by
  have hkeeps : ∃ database, Keeps p first written tree database := by
    induction h with
    | start =>
        exact ⟨first, hfirst, hfirst.portable hfinite, rfl, fun _ => rfl,
          False.elim⟩
    | edit _ hread ih =>
        obtain ⟨database, hkeeps⟩ := ih
        exact ⟨database, hkeeps.edit hread⟩
    | other settings _ hwords ih =>
        rw [tree_run_of_no_build settings hwords]
        exact ih
    | build _ hwords hdatabase hcatalog hsized ih =>
        obtain ⟨database, hkeeps⟩ := ih
        exact hkeeps.build hwords hdatabase hcatalog hsized
  obtain ⟨database, hkeeps⟩ := hkeeps
  exact ⟨database, hkeeps.holds, hkeeps.vars, hkeeps.untouched,
    hkeeps.dropped⟩

/-- The sheets of the echo and a database from before. -/
def keptTree : FileTree :=
  ⟨(["build"], .directory)
    :: (["build", "database"],
        .file (Text.utf8Bytes (databaseText Build.keptDatabase)))
    :: Build.echoTree.entries⟩

theorem holds_keptTree :
    Holds keptTree (.ofString "build/database") Build.keptDatabase :=
  holds_of_lawful ⟨Build.portable_keptDatabase, nofun, nofun⟩ (by rfl)

/-- The same with a note that somebody has left. -/
def notedTree : FileTree :=
  ⟨(["note"], .file []) :: keptTree.entries⟩

theorem countable_notedTree : Build.Countable notedTree := by
  refine Build.countable_of_small ?_
  unfold notedTree keptTree
  simp only [List.forall_mem_cons]
  refine ⟨by decide, by decide, ?_, by decide +kernel⟩
  -- the text is counted as a list of characters
  show (Text.utf8Bytes (String.ofList _)).length < _
  unfold Text.utf8Bytes
  rw [String.toList_ofList]
  decide +kernel

/-- What the command line that is nothing but its name asks for. -/
def plainOptions : CompileOptions :=
  { root := none, output := none, stories := [], dryRun := false,
    verbose := false }

theorem sized_notedTree : Sized bareSettings plainOptions notedTree := by
  refine ⟨countable_notedTree, fun sources hsources => ?_⟩
  have hnone : (sheetsOf bareSettings plainOptions).map
      (fun sources => sources.stories.length) = .ok 0 := by rfl
  rw [hsources] at hnone
  rw [show sources.stories.length = 0 from Except.ok.inj hnone]
  exact lt_countLimit (by decide)

/-- After the note was left and a build was run, the database has its
variable still, and of its items the one that the catalog does not
replace if the build came to write. -/
theorem keeps_kept :
    ∃ database : Database,
      Holds (run bareSettings ["compile"] notedTree).world.tree
          (.ofString "build/database") database
        ∧ database.vars = Build.keptDatabase.vars
        ∧ (Writes bareSettings plainOptions notedTree →
            database.items = [⟨"Key", [("Category", "Misc")]⟩]) := by
  have hfinite : ∀ var ∈ Build.keptDatabase.vars, ∀ entry ∈ var,
      entry.2.OnlyFinite := by
    unfold Json.OnlyFinite
    decide
  have hnoted : History (.ofString "build/database") keptTree False
      notedTree := .edit .start (by rfl)
  have hbuilt : History (.ofString "build/database") keptTree
      (False ∨ Writes bareSettings plainOptions notedTree)
      (run bareSettings ["compile"] notedTree).world.tree :=
    .build hnoted (by rfl) (by rfl) (by decide) sized_notedTree
  obtain ⟨database, hafter, hvars, -, hdropped⟩ :=
    keeps_of_history holds_keptTree hfinite hbuilt
  exact ⟨database, hafter, hvars, fun hwrites => hdropped (Or.inr hwrites)⟩

end Command

end Storyline
