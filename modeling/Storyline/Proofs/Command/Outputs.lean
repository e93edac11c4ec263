/-
What a command leaves in the files. A build writes at its very end, the
database and then the catalog, so whatever stops it before leaves all
files as they were; the one thing that can stop it between the two is
that the catalog cannot be written, and then the database is the new one
already.

* `Written` has the ways in which writing the two can end, and `Takes`
  what is needed for both;
* `Ends` has the ways in which a build can end, and `ends_of_run` says
  that there are no others.

Main statement: `files_of_run`, for every command line; and
`catalog_in_the_way`, the database replaced without the catalog.
-/
import Storyline.Proofs.Build.Integrity
import Storyline.Proofs.Command.Stages

namespace Storyline.Command

variable {α : Type} {settings : Settings} {options : CompileOptions}
  {tree after : FileTree}

-- ========================================================== the outputs

/-- The files with the database of a build. -/
def Prepared.withDatabase (prepared : Prepared) (tree : FileTree) :
    FileTree :=
  tree.put prepared.databasePath.place (.file prepared.databaseBytes)

/-- The files with both outputs of a build. -/
def Prepared.withOutputs (prepared : Prepared) (tree : FileTree) : FileTree :=
  (prepared.withDatabase tree).put prepared.catalogPath.place
    (.file prepared.catalogBytes)

theorem addsDirectories_of_run {p : Path} {answer : Except Error Unit}
    {made : FileTree}
    (h : (FileTree.makeDirectory p).run tree = (answer, made)) :
    FileTree.AddsDirectories tree made := by
  have hadds := FileTree.addsDirectories_makeDirectory tree p
  rwa [h] at hadds

/-- A folder that has been made, and that a build can put both of its
outputs into. -/
structure Takes (prepared : Prepared) (tree made : FileTree) : Prop where
  folder : (FileTree.makeDirectory prepared.output).run tree
    = (.ok (), made)
  database : made.Writable prepared.databasePath
  catalog : (prepared.withDatabase made).Writable prepared.catalogPath

namespace Takes

variable {prepared : Prepared} {made : FileTree} {p : Path}

theorem keeps (h : Takes prepared tree made) :
    FileTree.KeepsDirectories made (prepared.withOutputs made) :=
  (FileTree.keepsDirectories_put h.database.noDirectory _).trans
    (FileTree.keepsDirectories_put h.catalog.noDirectory _)

theorem read_database (h : Takes prepared tree made)
    (hne : prepared.catalogPath.place ≠ prepared.databasePath.place) :
    (prepared.withOutputs made).read prepared.databasePath
      = .ok prepared.databaseBytes :=
  FileTree.read_put_of_ne h.database.read_put hne.symm h.catalog.noDirectory

theorem read_catalog (h : Takes prepared tree made) :
    (prepared.withOutputs made).read prepared.catalogPath
      = .ok prepared.catalogBytes := h.catalog.read_put

/-- Any other file is read as before. -/
theorem read_other (h : Takes prepared tree made) {bytes : List UInt8}
    (hdatabase : p.place ≠ prepared.databasePath.place)
    (hcatalog : p.place ≠ prepared.catalogPath.place)
    (hread : tree.read p = .ok bytes) :
    (prepared.withOutputs made).read p = .ok bytes :=
  FileTree.read_put_of_ne
    (FileTree.read_put_of_ne ((addsDirectories_of_run h.folder).read hread)
      hdatabase h.database.noDirectory)
    hcatalog h.catalog.noDirectory

end Takes

/-- How writing the outputs ends, and with which files: without either of
them, with the database alone when the catalog cannot be written, or
with both. -/
inductive Written (prepared : Prepared) (tree : FileTree) :
    Except Error Unit → FileTree → Prop where
  | neither (e : Error) {made : FileTree}
      (hadds : FileTree.AddsDirectories tree made)
      (hfails : ∀ made, (FileTree.makeDirectory prepared.output).run tree
        = (.ok (), made) → ¬ made.Writable prepared.databasePath) :
      Written prepared tree (.error e) made
  | databaseOnly (e : Error) {made : FileTree}
      (hmade : (FileTree.makeDirectory prepared.output).run tree
        = (.ok (), made))
      (hdatabase : made.Writable prepared.databasePath)
      (hfails : (FileTree.write prepared.catalogPath
          prepared.catalogBytes).run (prepared.withDatabase made)
        = (.error e, prepared.withDatabase made)) :
      Written prepared tree (.error e) (prepared.withDatabase made)
  | both {made : FileTree} (htakes : Takes prepared tree made) :
      Written prepared tree (.ok ()) (prepared.withOutputs made)

theorem run_writeBoth (prepared : Prepared) (tree : FileTree) :
    (writeBoth prepared).run tree
      = match (FileTree.makeDirectory prepared.output).run tree with
        | (.error e, made) => (.error e, made)
        | (.ok (), made) =>
          match (FileTree.write prepared.databasePath
              prepared.databaseBytes).run made with
          | (.error e, after) => (.error e, after)
          | (.ok (), after) =>
            (FileTree.write prepared.catalogPath
              prepared.catalogBytes).run after := by
  show (FileTree.makeDirectory prepared.output >>= fun _ =>
    FileTree.write prepared.databasePath prepared.databaseBytes >>= fun _ =>
      FileTree.write prepared.catalogPath prepared.catalogBytes).run tree = _
  rw [run_bind]
  cases (FileTree.makeDirectory prepared.output).run tree with
  | mk answer made =>
    cases answer with
    | error e => rfl
    | ok _ =>
        simp only
        rw [run_bind]
        cases (FileTree.write prepared.databasePath
            prepared.databaseBytes).run made with
        | mk answer after => cases answer <;> rfl

theorem written_of_run {prepared : Prepared} {answer : Except Error Unit}
    {after : FileTree}
    (h : (writeBoth prepared).run tree = (answer, after)) :
    Written prepared tree answer after := by
  have hadds :=
    FileTree.addsDirectories_makeDirectory tree prepared.output
  rw [run_writeBoth] at h
  cases hmade : (FileTree.makeDirectory prepared.output).run tree with
  | mk first made =>
    rw [hmade] at h hadds
    cases first with
    | error e =>
        cases h
        refine .neither e hadds fun other hother => ?_
        rw [hmade] at hother
        cases hother
    | ok _ =>
        rcases FileTree.run_write made prepared.databasePath
            prepared.databaseBytes with ⟨e, hwrite⟩ | ⟨hdatabase, hwrite⟩
        · simp only [hwrite] at h
          cases h
          refine .neither e hadds fun other hother hwritable => ?_
          cases hmade.symm.trans hother
          rw [hwritable.run_write] at hwrite
          cases hwrite
        · simp only [hwrite] at h
          rcases FileTree.run_write (prepared.withDatabase made)
              prepared.catalogPath prepared.catalogBytes with
            ⟨e, hfails⟩ | ⟨hcatalog, hboth⟩
          · cases h.symm.trans hfails
            exact .databaseOnly e hmade hdatabase hfails
          · cases h.symm.trans hboth
            exact .both ⟨hmade, hdatabase, hcatalog⟩

/-- The outputs are written where their folder takes both. -/
theorem Takes.run_writeBoth {prepared : Prepared} {made : FileTree}
    (h : Takes prepared tree made) :
    (writeBoth prepared).run tree = (.ok (), prepared.withOutputs made) := by
  rw [Command.run_writeBoth, h.folder]
  simp only [h.database.run_write]
  exact h.catalog.run_write

-- =========================================================== the ending

/-- How a command that stops ends. -/
def Stop.ending : Stop → Ending
  | .exit code => .exited code
  | .failure cause => .escaped cause

/-- A build that stops before it has a plan does not end well. -/
theorem Stop.ending_ne_of_plan {stop : Stop}
    (h : plan settings options tree = .error stop) :
    stop.ending ≠ .exited 0 := by
  intro hending
  cases stop with
  | exit code =>
      cases hending
      exact plan_ne_exit_zero settings options tree h
  | failure cause => cases hending

/-- How a build ends, and with which files: it has no plan, it has one
and is a dry run, or it writes, with an error or without one. -/
inductive Ends (settings : Settings) (options : CompileOptions)
    (tree : FileTree) : Ending → FileTree → Prop where
  | unplanned {stop : Stop}
      (hplan : plan settings options tree = .error stop) :
      Ends settings options tree stop.ending tree
  | dry {prepared : Prepared}
      (hplan : Planned settings options tree prepared)
      (hdry : options.dryRun = true) :
      Ends settings options tree (.exited 0) tree
  | failed {prepared : Prepared} {e : Error} {after : FileTree}
      (hplan : Planned settings options tree prepared)
      (hdry : options.dryRun = false)
      (hwrites : (writeBoth prepared).run tree = (.error e, after)) :
      Ends settings options tree (.escaped e) after
  | wrote {prepared : Prepared} {after : FileTree}
      (hplan : Planned settings options tree prepared)
      (hdry : options.dryRun = false)
      (hwrites : (writeBoth prepared).run tree = (.ok (), after)) :
      Ends settings options tree (.exited 0) after

theorem run_onFiles (action : FileAction α) (world : World) :
    (onFiles action).run world
      = ((action.run world.tree).1.mapError .failure,
          ⟨(action.run world.tree).2, world.printed⟩) := by
  show (orFail (action.run world.tree).1).run
    ⟨(action.run world.tree).2, world.printed⟩ = _
  cases (action.run world.tree).1 <;> rfl

/-- What a command came to, as the ending of the program. -/
def endingOf : Except Stop Unit → Ending
  | .ok () => .exited 0
  | .error stop => stop.ending

theorem run_eq (settings : Settings) (words : List String)
    (tree : FileTree) :
    run settings words tree
      = ⟨endingOf ((perform settings (.ofWords words)).run ⟨tree, ""⟩).1,
          ((perform settings (.ofWords words)).run ⟨tree, ""⟩).2⟩ := by
  unfold run
  obtain ⟨answer, world⟩ :=
    (perform settings (.ofWords words)).run ⟨tree, ""⟩
  cases answer with
  | ok _ => rfl
  | error stop => cases stop <;> rfl

/-- A build that is no dry run writes, and says where it has written. -/
theorem finish_of_wet {prepared : Prepared}
    (hwet : options.dryRun = false) :
    finish options prepared
      = onFiles (writeBoth prepared) >>= fun _ =>
          say ("database: " ++ prepared.databasePath.text) >>= fun _ =>
          say ("catalog: " ++ prepared.catalogPath.text) >>= fun _ =>
          say (if prepared.result.status = "ok_with_warnings" then
            "completed with warnings" else "ok") := by
  unfold finish
  rw [hwet]
  rfl

theorem ends_compile (settings : Settings) (options : CompileOptions)
    (world : World) :
    Ends settings options world.tree
      (endingOf ((compile settings options).run world).1)
      ((compile settings options).run world).2.tree := by
  obtain ⟨printed, hprepare⟩ := answers_prepare settings options world
  rw [compile_eq, run_bind, hprepare]
  cases hplan : plan settings options world.tree with
  | error stop => exact .unplanned hplan
  | ok prepared =>
      have hplanned := plan_eq_ok_iff.1 hplan
      simp only
      cases hdry : options.dryRun with
      | true =>
          unfold finish
          rw [hdry]
          exact .dry hplanned hdry
      | false =>
          rw [finish_of_wet hdry, run_bind, run_onFiles]
          cases hwrites : (writeBoth prepared).run world.tree with
          | mk answer after =>
            cases answer with
            | error e => exact .failed hplanned hdry hwrites
            | ok _ => exact .wrote hplanned hdry hwrites

/-- A command line that asks for a build ends as the build does. -/
theorem ends_of_run {words : List String}
    (hwords : Invocation.ofWords words = .compile options)
    (settings : Settings) (tree : FileTree) :
    Ends settings options tree (run settings words tree).ending
      (run settings words tree).world.tree := by
  have hperform : perform settings (.compile options)
      = compile settings options := rfl
  have hends := ends_compile settings options ⟨tree, ""⟩
  rw [run_eq, hwords, hperform]
  generalize (compile settings options).run ⟨tree, ""⟩ = outcome at hends ⊢
  exact hends

-- ============================================================ a build

variable {ending : Ending}

theorem Ends.of_dryRun (h : Ends settings options tree ending after)
    (hdry : options.dryRun = true) : after = tree := by
  cases h with
  | unplanned hplan => rfl
  | dry hplan _ => rfl
  | failed _ hwet _ | wrote _ hwet _ =>
      rw [hdry] at hwet
      cases hwet

/-- A build that ends badly has changed no file, or the database alone. -/
theorem Ends.of_failure (h : Ends settings options tree ending after)
    (hending : ending ≠ .exited 0) :
    after.fileAt? = tree.fileAt?
      ∨ ∃ prepared e, Planned settings options tree prepared
          ∧ ending = .escaped e
          ∧ (FileTree.write prepared.catalogPath
              prepared.catalogBytes).run after = (.error e, after)
          ∧ after.fileAt?
              = Function.update tree.fileAt? prepared.databasePath.place
                  (some prepared.databaseBytes) := by
  cases h with
  | unplanned hplan => exact Or.inl rfl
  | dry hplan _ => exact absurd rfl hending
  | wrote hplan _ _ => exact absurd rfl hending
  | @failed prepared e after hplan _ hwrites =>
      cases written_of_run hwrites with
      | neither e hadds _ => exact Or.inl hadds.fileAt?_eq
      | databaseOnly e hmade hdatabase hfails =>
          refine Or.inr ⟨prepared, e, hplan, rfl, hfails, ?_⟩
          unfold Prepared.withDatabase
          rw [hdatabase.fileAt?_put,
            (addsDirectories_of_run hmade).fileAt?_eq]

/-- A build that ends well has written both outputs. -/
theorem Ends.of_success (h : Ends settings options tree ending after)
    (hwet : options.dryRun = false) (hending : ending = .exited 0) :
    ∃ prepared made, Planned settings options tree prepared
      ∧ Takes prepared tree made ∧ after = prepared.withOutputs made := by
  cases h with
  | unplanned hplan => exact absurd hending (Stop.ending_ne_of_plan hplan)
  | dry hplan hdry =>
      rw [hwet] at hdry
      cases hdry
  | failed hplan _ _ => cases hending
  | @wrote prepared after hplan _ hwrites =>
      cases written_of_run hwrites with
      | both htakes => exact ⟨prepared, _, hplan, htakes, rfl⟩

/-- A build whose folder takes both of its outputs ends well. -/
theorem Ends.of_planned {prepared : Prepared} {made : FileTree}
    (h : Ends settings options tree ending after)
    (hplan : Planned settings options tree prepared)
    (hwet : options.dryRun = false) (htakes : Takes prepared tree made) :
    ending = .exited 0 ∧ after = prepared.withOutputs made := by
  have hwritten := htakes.run_writeBoth
  cases h with
  | unplanned hnone =>
      rw [plan_eq_ok_iff.2 hplan] at hnone
      cases hnone
  | dry _ hdry =>
      rw [hwet] at hdry
      cases hdry
  | failed hother _ hwrites =>
      cases hplan.unique hother
      cases hwrites.symm.trans hwritten
  | wrote hother _ hwrites =>
      cases hplan.unique hother
      cases hwrites.symm.trans hwritten
      exact ⟨rfl, rfl⟩

-- ======================================================== every command

/-- A command that is no build leaves the files as they are. -/
theorem quiet_perform (settings : Settings) {invocation : Invocation}
    (h : ∀ options, invocation ≠ .compile options) :
    Quiet (perform settings invocation) := by
  cases invocation with
  | compile options => exact absurd rfl (h options)
  | inspect options => exact quiet_inspect options
  | help => exact (answers_forM_say usage id).quiet
  | unusable => exact (Answers.throw _).quiet

theorem tree_run_of_no_build (settings : Settings) {words : List String}
    (h : ∀ options, Invocation.ofWords words ≠ .compile options) :
    (run settings words tree).world.tree = tree := by
  rw [run_eq]
  exact quiet_perform settings h ⟨tree, ""⟩

/-- The files after both outputs have been written. -/
theorem Takes.fileAt?_withOutputs {prepared : Prepared} {made : FileTree}
    (h : Takes prepared tree made) :
    (prepared.withOutputs made).fileAt?
      = Function.update
          (Function.update tree.fileAt? prepared.databasePath.place
            (some prepared.databaseBytes))
          prepared.catalogPath.place (some prepared.catalogBytes) := by
  unfold Prepared.withOutputs
  rw [h.catalog.fileAt?_put]
  unfold Prepared.withDatabase
  rw [h.database.fileAt?_put, (addsDirectories_of_run h.folder).fileAt?_eq]

/-- What a run leaves in the files.

A dry run leaves every file as it was. So does every run that does not
end with exit code 0, with one exception: a build that could not write
its catalog ends with the error of that and has the new database in
place of the old one, all other files being as they were. A build that
ends with exit code 0 and is no dry run has replaced the database and
the catalog and nothing else. -/
theorem files_of_run (settings : Settings) (words : List String)
    (tree : FileTree) :
    let outcome := run settings words tree
    (∀ options, Invocation.ofWords words = .compile options →
        options.dryRun = true →
          outcome.world.tree.fileAt? = tree.fileAt?)
      ∧ (outcome.ending ≠ .exited 0 →
          outcome.world.tree.fileAt? = tree.fileAt?
            ∨ ∃ options prepared e,
                Invocation.ofWords words = .compile options
                  ∧ Planned settings options tree prepared
                  ∧ outcome.ending = .escaped e
                  ∧ (FileTree.write prepared.catalogPath
                      prepared.catalogBytes).run outcome.world.tree
                        = (.error e, outcome.world.tree)
                  ∧ outcome.world.tree.fileAt?
                      = Function.update tree.fileAt?
                          prepared.databasePath.place
                          (some prepared.databaseBytes))
      ∧ (∀ options, Invocation.ofWords words = .compile options →
          options.dryRun = false → outcome.ending = .exited 0 →
            ∃ prepared, Planned settings options tree prepared
              ∧ outcome.world.tree.fileAt?
                  = Function.update
                      (Function.update tree.fileAt?
                        prepared.databasePath.place
                        (some prepared.databaseBytes))
                      prepared.catalogPath.place
                      (some prepared.catalogBytes)) := by
  intro outcome
  refine ⟨fun options hwords hdry => ?_, fun hending => ?_,
    fun options hwords hwet hending => ?_⟩
  · rw [(ends_of_run hwords settings tree).of_dryRun hdry]
  · by_cases hbuild : ∃ options, Invocation.ofWords words = .compile options
    · obtain ⟨options, hwords⟩ := hbuild
      rcases (ends_of_run hwords settings tree).of_failure hending with
        hsame | ⟨prepared, e, hfailed⟩
      · exact Or.inl hsame
      · exact Or.inr ⟨options, prepared, e, hwords, hfailed⟩
    · exact Or.inl (congrArg FileTree.fileAt?
        (tree_run_of_no_build settings fun options hwords =>
          hbuild ⟨options, hwords⟩))
  · obtain ⟨prepared, made, hplan, htakes, hafter⟩ :=
      (ends_of_run hwords settings tree).of_success hwet hending
    refine ⟨prepared, hplan, ?_⟩
    rw [← htakes.fileAt?_withOutputs]
    exact congrArg FileTree.fileAt? hafter

/-- A project without stories, with its sheets beside the build. -/
def bareSettings : Settings :=
  { sourceRoot := .ofString "."
    storyFiles := []
    actorSheet := "actors"
    backgroundSheet := "backgrounds"
    musicSheet := "media"
    soundEffectSheet := "media"
    sequenceSheet := "sequences"
    standingSheet := "poses"
    outputDir := .ofString "build"
    databaseFile := "database"
    catalogFile := "catalog"
    fieldSeparator := ","
    sourceEncoding := "ascii"
    logLevel := "INFO" }

/-- Sheets, an empty database, and a directory where the catalog should
be. -/
def blockedTree : FileTree :=
  ⟨(["build"], .directory)
    :: (["build", "database"], .file (Text.utf8Bytes "\x7b\x7d"))
    :: (["build", "catalog"], .directory)
    :: Build.echoTree.entries⟩

/-- A build that ends with an error and has replaced a file: the catalog
cannot be written, and the database is not what it was. -/
theorem catalog_in_the_way :
    (run bareSettings ["compile"] blockedTree).ending
        = .escaped (.isDirectory (.ofString "build/catalog"))
      ∧ (run bareSettings ["compile"] blockedTree).world.tree.fileAt?
            ["build", "database"]
          ≠ blockedTree.fileAt? ["build", "database"] := by
  decide +kernel

end Storyline.Command
