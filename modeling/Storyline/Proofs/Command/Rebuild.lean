/-
Building again. A build that ended well ends well again on the files that
it has left, and then leaves them as they are.

# What carries it

The second build takes another way than the first: the database from
before is the one that the first has written. That one need not be what
the first build has worked out, since a double that is no number is read
and carried over but cannot be written; it is what the text keeps of it
(`Database.printable`). This is read back (`Database.Lawful`), and a build
after it makes it again (`Build.exists_run_again`); the rest of the way is
the same, because the sheets are (`Planned.again`).

Main statement: `rebuild_of_run`.
-/
import Storyline.Proofs.Build.Sources
import Storyline.Proofs.Command.History
import Storyline.Proofs.Database.Printable

namespace Storyline

open Json (countLimit lt_countLimit)

namespace Build

variable {tree : FileTree} {format : Sheet.Format} {sources : Sources}
  {previous : Option Database} {result : Result}

/-- What the text of a database keeps of the one that a build makes is
what the build makes after what the text of the old one keeps of that. -/
theorem exists_run_printable
    (h : run tree format sources previous = .ok result) :
    ∃ kept, run tree format sources (previous.map Database.printable)
        = .ok kept
      ∧ kept.database = result.database.printable := by
  obtain ⟨hvars, hitems⟩ := carried_of_run h
  obtain ⟨kept, hkept, hdatabase, -⟩ :=
    exists_run_after h (previous.map Database.printable)
  refine ⟨kept, hkept, hdatabase.trans ?_⟩
  unfold Database.printable
  rw [hvars, hitems]
  cases previous <;> rfl

/-- A build after its own database makes that database again. -/
theorem exists_run_again (htree : Countable tree)
    (hstories : sources.stories.length < countLimit)
    (hprevious : ∀ database ∈ previous, database.printable.Portable)
    (h : run tree format sources previous = .ok result) :
    result.database.printable.Lawful
      ∧ ∃ next, run tree format sources (some result.database.printable)
          = .ok next
        ∧ next.database = result.database.printable
        ∧ next.catalog = result.catalog := by
  constructor
  · obtain ⟨kept, hkept, hdatabase⟩ := exists_run_printable h
    rw [← hdatabase]
    refine lawful_of_run htree hstories (fun database hdatabase => ?_) hkept
    obtain ⟨old, hold, rfl⟩ := Option.mem_map.1 hdatabase
    exact hprevious old hold
  · obtain ⟨-, hitems⟩ := carried_of_run h
    obtain ⟨next, hnext, hdatabase, hcatalog⟩ :=
      exists_run_after h (some result.database.printable)
    have hagain : Item.withoutLegacy
          (previousItems (some result.database.printable))
        = result.database.items := by
      show Item.withoutLegacy result.database.items = _
      rw [hitems, Item.withoutLegacy_withoutLegacy]
    rw [hagain] at hdatabase
    exact ⟨next, hnext, hdatabase, hcatalog⟩

end Build

namespace Command

variable {settings : Settings} {options : CompileOptions}
  {tree made : FileTree} {p : Path} {prepared : Prepared}

/-- The outputs of a build are two files, and neither is a sheet. -/
structure Apart (settings : Settings) (options : CompileOptions) :
    Prop where
  catalog : (catalogPathOf settings options).place
    ≠ (databasePathOf settings options).place
  sheets : ∀ sources, sheetsOf settings options = .ok sources →
    ∀ p ∈ sources.paths,
      p.place ≠ (databasePathOf settings options).place
        ∧ p.place ≠ (catalogPathOf settings options).place

-- ============================================== outputs that are there

/-- The outputs of a build are there already. -/
structure Settled (prepared : Prepared) (tree : FileTree) : Prop where
  folder : (FileTree.makeDirectory prepared.output).run tree
    = (.ok (), tree)
  database : tree.read prepared.databasePath = .ok prepared.databaseBytes
  catalog : tree.read prepared.catalogPath = .ok prepared.catalogBytes

namespace Settled

/-- Writing the database again changes nothing. -/
theorem at?_withDatabase (h : Settled prepared tree) :
    (prepared.withDatabase tree).at? = tree.at? :=
  FileTree.at?_put_same (FileTree.read_eq_ok.1 h.database).2

/-- Writing both outputs again changes nothing. -/
theorem at?_withOutputs (h : Settled prepared tree) :
    (prepared.withOutputs tree).at? = tree.at? := by
  have hat := (FileTree.read_eq_ok.1 h.catalog).2
  rw [← h.at?_withDatabase] at hat
  exact (FileTree.at?_put_same hat).trans h.at?_withDatabase

theorem takes (h : Settled prepared tree) : Takes prepared tree tree :=
  ⟨h.folder, FileTree.writable_of_read h.database,
    FileTree.writable_of_read
      (FileTree.read_of_at?_eq h.at?_withDatabase h.catalog)⟩

end Settled

-- ===================================================== the second build

/-- After a build that has written its outputs, there is a plan for the
same build again, and its outputs are there already. -/
theorem Planned.again (h : Planned settings options tree prepared)
    (hsized : Sized settings options tree) (hapart : Apart settings options)
    (htakes : Takes prepared tree made) :
    ∃ next, Planned settings options (prepared.withOutputs made) next
      ∧ Settled next (prepared.withOutputs made) := by
  obtain ⟨hne, hsheets⟩ := hapart
  simp only [← h.databasePath_eq, ← h.catalogPath_eq] at hne hsheets
  have hprevious : ∀ database ∈ prepared.previous,
      database.printable.Portable := by
    intro database hdatabase
    have hold := h.previous
    rw [hdatabase] at hold
    obtain ⟨_, _, -, -, hdocument⟩ := oldDatabase_eq_some_iff.1 hold
    exact Database.portable_printable_of_document hdocument
  obtain ⟨hlawful, result, hresult, hdatabase, hcatalog⟩ :=
    Build.exists_run_again hsized.tree (hsized.stories _ h.sheetsOf_eq)
      hprevious h.result
  -- the bytes that were written are those of what the text keeps
  have hbytes : prepared.databaseBytes
      = Text.utf8Bytes (databaseText result.database) := by
    unfold Prepared.databaseBytes databaseText
    rw [hdatabase, Database.indented_printable]
  have hread := htakes.read_database hne
  rw [hbytes] at hread
  have hholds : Holds (prepared.withOutputs made) prepared.databasePath
      prepared.result.database.printable := by
    refine holds_of_lawful hlawful ?_
    rw [← hdatabase]
    exact hread
  refine ⟨{ prepared with
      previous := some prepared.result.database.printable, result := result },
    ?_, ?_⟩
  · exact {
      level := h.level
      stories := h.stories
      project := h.project
      folder := h.folder
      sheets := h.sheets
      previous := oldDatabase_eq_some_iff.2 hholds
      result := Build.run_of_keeps (fun p hp bytes hsheet =>
        have hother := hsheets _ h.sheetsOf_eq p hp
        htakes.read_other hother.1 hother.2 hsheet) hresult }
  · refine ⟨FileTree.makeDirectory_again htakes.folder htakes.keeps, hread,
      ?_⟩
    unfold Prepared.catalogBytes
    rw [hcatalog]
    exact htakes.read_catalog

/-- Building again changes nothing. A build that ends with exit code 0
and is no dry run, run again on the files that it leaves, ends with exit
code 0 again; and then there is the same at every place, and the database
and the catalog are read byte for byte as they were. What the first build
found where its database goes does not matter.

Both outputs are at places of their own, and the numbers of bytes and of
stories that the build counts have at most 4300 digits. -/
theorem rebuild_of_run {words : List String}
    (hwords : Invocation.ofWords words = .compile options)
    (hwet : options.dryRun = false) (hsized : Sized settings options tree)
    (hapart : Apart settings options)
    (hending : (run settings words tree).ending = .exited 0) :
    let first := (run settings words tree).world.tree
    let again := run settings words first
    again.ending = .exited 0
      ∧ again.world.tree.at? = first.at?
      ∧ ∃ database catalog,
          first.read (databasePathOf settings options) = .ok database
            ∧ first.read (catalogPathOf settings options) = .ok catalog
            ∧ again.world.tree.read (databasePathOf settings options)
                = .ok database
            ∧ again.world.tree.read (catalogPathOf settings options)
                = .ok catalog := by
  intro first again
  obtain ⟨prepared, made, hplan, htakes, hfirst⟩ :=
    (ends_of_run hwords settings tree).of_success hwet hending
  obtain ⟨next, hnext, hsettled⟩ := hplan.again hsized hapart htakes
  rw [← hfirst] at hnext hsettled
  obtain ⟨hends, hagain⟩ := (ends_of_run hwords settings _).of_planned hnext
    hwet hsettled.takes
  have hat : again.world.tree.at? = first.at? :=
    (congrArg FileTree.at? hagain).trans hsettled.at?_withOutputs
  have hdatabase := hsettled.database
  have hcatalog := hsettled.catalog
  rw [hnext.databasePath_eq] at hdatabase
  rw [hnext.catalogPath_eq] at hcatalog
  exact ⟨hends, hat, _, _, hdatabase, hcatalog,
    FileTree.read_of_at?_eq hat hdatabase,
    FileTree.read_of_at?_eq hat hcatalog⟩

/-- The project of the echo, with its stories. -/
def echoSettings : Settings :=
  { bareSettings with
    storyFiles := [⟨"story", "Echo"⟩, ⟨"story", "Again"⟩] }

theorem sources_echoSettings :
    echoSettings.sources none = .ok Build.echoSources := by rfl

theorem sheetsOf_echoSettings :
    sheetsOf echoSettings plainOptions = .ok Build.echoSources := by rfl

theorem databasePath_echoSettings :
    echoSettings.databasePath (Path.ofString "build")
      = .ofString "build/database" := by rfl

/-- The database from before is no obstacle to building the echo. -/
theorem exists_planned_echo :
    ∃ prepared, Planned echoSettings plainOptions keptTree prepared := by
  have hsheets : ∀ p ∈ Build.echoSources.paths,
      keptTree.read p = Build.echoTree.read p := by decide +kernel
  obtain ⟨first, hfirst⟩ := Build.exists_run_echo
  obtain ⟨result, hresult, -⟩ :=
    Build.exists_run_after hfirst (some Build.keptDatabase)
  have hresult := Build.run_of_keeps
    (fun p hp _ hread => (hsheets p hp).trans hread) hresult
  have hprevious := oldDatabase_eq_some_iff.2 holds_keptTree
  rw [← databasePath_echoSettings] at hprevious
  exact ⟨⟨echoSettings, .ofString "build", Build.echoSources,
      some Build.keptDatabase, result⟩,
    by rfl, by rfl, by rfl, by rfl, sources_echoSettings, hprevious,
    hresult⟩

/-- There is room for both outputs of the echo. -/
theorem takes_keptTree {prepared : Prepared}
    (h : Planned echoSettings plainOptions keptTree prepared) :
    Takes prepared keptTree keptTree := by
  have hdatabase : keptTree.Writable prepared.databasePath := by
    rw [h.databasePath_eq]
    obtain ⟨_, _, hread, -⟩ := holds_keptTree
    exact FileTree.writable_of_read hread
  refine ⟨by rw [h.folder]; rfl, hdatabase, ?_, ?_⟩
  · exact FileTree.locate_of_keeps
      (FileTree.keepsDirectories_put hdatabase.noDirectory _)
      (by rw [h.catalogPath_eq]; rfl)
  · unfold Prepared.withDatabase
    rw [h.databasePath_eq, h.catalogPath_eq,
      FileTree.at?_put_of_ne (by decide)]
    exact nofun

theorem apart_echo : Apart echoSettings plainOptions := by
  refine ⟨by decide, ?_⟩
  intro sources hsources
  cases sheetsOf_echoSettings.symm.trans hsources
  decide

/-- The echo is built beside the database from before, and once more. -/
theorem rebuild_echo :
    let first := (run echoSettings ["compile"] keptTree).world.tree
    (run echoSettings ["compile"] first).ending = .exited 0
      ∧ (run echoSettings ["compile"] first).world.tree.at? = first.at? := by
  have hwords : Invocation.ofWords ["compile"] = .compile plainOptions := by
    rfl
  obtain ⟨prepared, hplan⟩ := exists_planned_echo
  have hfirst := (ends_of_run hwords echoSettings keptTree).of_planned hplan
    rfl (takes_keptTree hplan)
  have hsized : Sized echoSettings plainOptions keptTree := by
    refine ⟨fun entry hentry => countable_notedTree entry
      (List.mem_cons_of_mem _ hentry), fun sources hsources => ?_⟩
    cases sheetsOf_echoSettings.symm.trans hsources
    exact lt_countLimit (by decide)
  obtain ⟨hends, hat, -⟩ :=
    rebuild_of_run hwords rfl hsized apart_echo hfirst.1
  exact ⟨hends, hat⟩

end Command

end Storyline
