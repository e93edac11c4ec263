/-
A database that cannot be used. Whatever text the file of the old database
holds, a build that would go well without the file goes well with it: it
carries over what the database has, or says once that it ignores the file
and builds as if there were none. And a listing of any text is a listing
or an error. Bytes that are no text at all are another matter: they end
either command with an error that is not reported.

# What is compared

A run on a tree of files with a file at the database, and the same run on
the tree without it (`FileTree.without`).

# What carries it

* the two trees differ in one file (`FileTree.AddsFile`), and no directory
  on the way to the outputs is made where the file is, or else the build
  without it would not go well (`AddsFile.makeFrom`,
  `Takes.of_addsFile`);
* the sheets are read alike, and what comes of them does not depend on the
  database (`Build.exists_run_after`, `Planned.of_addsFile`).

Main statement: `recovery_of_run`.
-/
import Storyline.Proofs.Build.Sources
import Storyline.Proofs.Command.History
import Storyline.Proofs.Command.Transcript

namespace Storyline

-- ======================================================= a file removed

namespace FileTree

variable {tree after made : FileTree} {p : Path} {place other : Place}
  {bytes content : List UInt8}

/-- The tree without what is at a place. -/
def without (tree : FileTree) (place : Place) : FileTree :=
  ⟨tree.entries.filter (·.1 ≠ place)⟩

/-- There is a file where there was nothing, and otherwise the same. -/
structure AddsFile (tree after : FileTree) (place : Place)
    (content : List UInt8) : Prop where
  absent : tree.at? place = none
  present : after.at? place = some (.file content)
  others : ∀ other, other ≠ place → after.at? other = tree.at? other

theorem lookup_filter_self (place : Place)
    (entries : List (Place × Entry)) :
    (entries.filter (·.1 ≠ place)).lookup place = none := by
  rw [List.lookup_eq_none_iff]
  intro entry hentry
  have hne : entry.1 ≠ place := by
    simpa using (List.mem_filter.1 hentry).2
  exact bne_iff_ne.2 hne.symm

/-- A file that is removed is added to the tree without it. -/
theorem addsFile_without (h : tree.at? place = some (.file content)) :
    AddsFile (tree.without place) tree place content := by
  have hbase : isBase place = false := by
    unfold at? at h
    split at h
    · cases h
    · next hbase => exact Bool.eq_false_iff.2 hbase
  refine ⟨?_, h, fun other hother => ?_⟩
  · unfold at? without
    rw [hbase, if_neg Bool.false_ne_true, lookup_filter_self]
  · unfold at? without
    rw [lookup_filter_of_ne hother]

namespace AddsFile

theorem keeps (h : AddsFile tree after place content) :
    KeepsDirectories tree after := by
  intro other hother
  rw [h.others]
  · exact hother
  · rintro rfl
    rw [h.absent] at hother
    cases hother

theorem read (h : AddsFile tree after place content)
    (hread : tree.read p = .ok bytes) : after.read p = .ok bytes := by
  obtain ⟨hlocate, hat⟩ := read_eq_ok.1 hread
  refine read_eq_ok.2 ⟨locate_of_keeps h.keeps hlocate, ?_⟩
  rw [h.others]
  · exact hat
  · intro hplace
    rw [hplace, h.absent] at hat
    cases hat

/-- What is put elsewhere does not matter. -/
theorem put (h : AddsFile tree after place content) (hne : other ≠ place)
    (entry : Entry) :
    AddsFile (tree.put other entry) (after.put other entry) place
      content := by
  refine ⟨?_, ?_, fun third hthird => ?_⟩
  · rw [at?_put_of_ne hne.symm, h.absent]
  · rw [at?_put_of_ne hne.symm, h.present]
  · by_cases hother : third = other
    · subst hother
      unfold at? FileTree.put
      simp only [List.lookup_cons_self]
    · rw [at?_put_of_ne hother, at?_put_of_ne hother, h.others third hthird]

/-- Directories that can be made without the file can be made with it, if
none of them is where the file is. -/
theorem makeFrom (components : List String) :
    ∀ (anyMade : Bool) (passed : List String) (start : Place)
      (tree after : FileTree), AddsFile tree after place content →
        (FileTree.makeFrom p anyMade passed start components).run tree
            = (.ok (), made) →
          made.at? place ≠ some .directory →
            ∃ filled, AddsFile made filled place content
              ∧ (FileTree.makeFrom p anyMade passed start components).run
                  after = (.ok (), filled) := by
  induction components with
  | nil =>
      intro _ _ _ tree after hadds hmade _
      cases hmade
      exact ⟨after, hadds, rfl⟩
  | cons component rest ih =>
      intro anyMade passed start tree after hadds hmade hfree
      rw [run_makeFrom_cons] at hmade
      -- where this step leads there is a directory in the end
      have hne : ∀ (before : FileTree) (some : Bool),
          before.at? (next start component) = Option.some .directory →
          (FileTree.makeFrom p some (passed ++ [component])
            (next start component) rest).run before = (.ok (), made) →
          next start component ≠ place := by
        rintro before some hat hrest rfl
        have hdirectories := addsDirectories_makeFrom p rest some
          (passed ++ [component]) (next start component) before
        rw [hrest] at hdirectories
        exact hfree (hdirectories.at?_of_some hat)
      split at hmade
      · cases hmade
      · next hshort =>
        split at hmade
        · next hat =>
          obtain ⟨filled, hfilled, hrun⟩ := ih _ _ _ _ _ hadds hmade hfree
          refine ⟨filled, hfilled, ?_⟩
          rw [run_makeFrom_cons, if_neg hshort,
            hadds.others _ (hne _ _ hat hmade), hat]
          exact hrun
        · cases hmade
        · next hat =>
          have hplace := hne _ _ (at?_put (by rw [hat]; exact nofun) _) hmade
          obtain ⟨filled, hfilled, hrun⟩ :=
            ih _ _ _ _ _ (hadds.put hplace _) hmade hfree
          refine ⟨filled, hfilled, ?_⟩
          rw [run_makeFrom_cons, if_neg hshort, hadds.others _ hplace, hat]
          exact hrun

theorem makeDirectory (h : AddsFile tree after place content)
    (hmade : (FileTree.makeDirectory p).run tree = (.ok (), made))
    (hfree : made.at? place ≠ some .directory) :
    ∃ filled, AddsFile made filled place content
      ∧ (FileTree.makeDirectory p).run after = (.ok (), filled) := by
  unfold FileTree.makeDirectory at hmade ⊢
  split at hmade
  · cases hmade
  · exact makeFrom _ _ _ _ _ _ h hmade hfree

end AddsFile

end FileTree

namespace Command

variable {settings : Settings} {options : CompileOptions}
  {words : List String} {tree bare made : FileTree} {p : Path}
  {prepared fresh : Prepared} {bytes : List UInt8}

-- ========================================================= the outputs

/-- A folder that takes both outputs takes them when there is a file at
the database. -/
theorem Takes.of_addsFile (h : Takes fresh bare made)
    (hadds : FileTree.AddsFile bare tree fresh.databasePath.place bytes)
    (previous : Option Database) (result : Build.Result) :
    ∃ filled, Takes { fresh with previous, result } tree filled := by
  obtain ⟨filled, hfilled, hfolder⟩ :=
    hadds.makeDirectory h.folder h.database.noDirectory
  have hdatabase : filled.Writable fresh.databasePath := by
    refine ⟨FileTree.locate_of_keeps hfilled.keeps h.database.locate, ?_⟩
    rw [hfilled.present]
    exact nofun
  -- with a database in place, the trees differ in the bytes of that alone
  have hothers : ∀ place, place ≠ fresh.databasePath.place → ∀ entry,
      (filled.put fresh.databasePath.place entry).at? place
        = (fresh.withDatabase made).at? place := by
    intro place hplace entry
    unfold Prepared.withDatabase
    rw [FileTree.at?_put_of_ne hplace, FileTree.at?_put_of_ne hplace,
      hfilled.others place hplace]
  refine ⟨filled, hfolder, hdatabase,
    FileTree.locate_of_keeps (fun place hplace => ?_) h.catalog.locate, ?_⟩
  · refine (hothers place ?_ _).trans hplace
    rintro rfl
    unfold Prepared.withDatabase at hplace
    rw [FileTree.at?_put h.database.noDirectory] at hplace
    cases hplace
  · by_cases hplace : fresh.catalogPath.place = fresh.databasePath.place
    · show (filled.put fresh.databasePath.place (.file _)).at?
        fresh.catalogPath.place ≠ some .directory
      rw [hplace, FileTree.at?_put hdatabase.noDirectory]
      exact nofun
    · intro hdirectory
      exact h.catalog.noDirectory
        ((hothers _ hplace _).symm.trans hdirectory)

-- ==================================================== the old database

/-- What can be made of the bytes of an old database: a database, or
nothing, unless they are no text at all. -/
def readOld (bytes : List UInt8) : Except Utf8Error (Option Database) := do
  let cs ← Text.decodeUtf8 bytes
  match Json.document Database.ofJson
      (String.ofList (Text.unifyBreaks cs)) with
  | .flawed _ => return none
  | .valid database => return some database

theorem oldDatabase_of_read (h : tree.read p = .ok bytes) :
    oldDatabase tree p = (readOld bytes).mapError .notUtf8 := by
  unfold oldDatabase readOld
  rw [FileTree.find?_of_read h, h]
  simp only [bind, Except.bind, pure, Except.pure]
  cases Text.decodeUtf8 bytes with
  | error e => rfl
  | ok cs =>
      simp only [Except.mapError]
      cases Json.document Database.ofJson
        (String.ofList (Text.unifyBreaks cs)) <;> rfl

/-- A text that is no database is ignored with one line, and nothing is
said of one that is. -/
theorem warnings_of_read (h : tree.read p = .ok bytes)
    {previous : Option Database} (hold : readOld bytes = .ok previous) :
    warnings tree p
      = if previous.isNone then [ignoring p "<invalid>"] else [] := by
  unfold warnings
  rw [FileTree.find?_of_read h, h]
  obtain ⟨cs, hcs, hold⟩ := Error.bind_eq_ok.1 hold
  simp only [hcs]
  cases hdocument : Json.document Database.ofJson
      (String.ofList (Text.unifyBreaks cs)) with
  | flawed issues =>
      rw [hdocument] at hold
      cases hold
      rfl
  | valid database =>
      rw [hdocument] at hold
      cases hold
      rfl

/-- Where there is nothing, there is no old database. -/
theorem previous_of_absent (h : tree.at? p.place = none)
    {previous : Option Database} (hold : oldDatabase tree p = .ok previous) :
    previous = none := by
  cases previous with
  | none => rfl
  | some database =>
      obtain ⟨_, _, hread, -⟩ := oldDatabase_eq_some_iff.1 hold
      rw [(FileTree.read_eq_ok.1 hread).2] at h
      cases h

theorem warnings_of_absent (h : tree.at? p.place = none) :
    warnings tree p = [] := by
  unfold warnings FileTree.find?
  cases hlocate : tree.locate p with
  | error obstacle => cases obstacle <;> rfl
  | ok place =>
      rw [FileTree.eq_place_of_locate hlocate]
      simp only [h]

-- ============================================================= the plan

/-- A plan with an old database that cannot even be ignored. -/
theorem plan_of_notUtf8 (h : Planned settings options bare fresh)
    {e : Error} (hold : oldDatabase tree fresh.databasePath = .error e) :
    plan settings options tree = .error (.failure e) := by
  unfold Prepared.databasePath at hold
  unfold plan
  rw [h.level, h.stories]
  simp only [Except.mapError, bind, Except.bind]
  rw [← h.project, h.sheets, h.outputOf_eq]
  simp only
  rw [hold]

/-- What a build plans when there is an old database: the same as without
it, but for what is carried over. -/
theorem Planned.of_addsFile (h : Planned settings options bare fresh)
    (hadds : FileTree.AddsFile bare tree fresh.databasePath.place bytes)
    (previous : Option Database)
    (hold : oldDatabase tree fresh.databasePath = .ok previous) :
    ∃ result, Planned settings options tree
        { fresh with previous, result }
      ∧ result.catalog = fresh.result.catalog
      ∧ result.database
          = { fresh.result.database with
              vars := (previous.map (·.vars)).getD []
              items := Item.withoutLegacy (Build.previousItems previous) }
      ∧ (previous = fresh.previous → result = fresh.result) := by
  obtain ⟨result, hresult, hdatabase, hcatalog⟩ :=
    Build.exists_run_after h.result previous
  refine ⟨result, ?_, hcatalog, hdatabase, ?_⟩
  · exact {
      level := h.level
      stories := h.stories
      project := h.project
      folder := h.folder
      sheets := h.sheets
      previous := hold
      result := Build.run_of_keeps (fun _ _ _ => hadds.read) hresult }
  · rintro rfl
    exact Except.ok.inj (hresult.symm.trans h.result)

-- =========================================================== the ending

/-- A build that ends well has a plan. -/
theorem Ends.exists_planned {ending : Ending} {after : FileTree}
    (h : Ends settings options tree ending after)
    (hending : ending = .exited 0) :
    ∃ prepared, Planned settings options tree prepared := by
  cases h with
  | unplanned hplan => exact absurd hending (Stop.ending_ne_of_plan hplan)
  | dry hplan _ | failed hplan _ _ | wrote hplan _ _ => exact ⟨_, hplan⟩

/-- A dry run with a plan ends well. -/
theorem Ends.of_planned_dry {ending : Ending} {after : FileTree}
    (h : Ends settings options tree ending after)
    (hplan : Planned settings options tree prepared)
    (hdry : options.dryRun = true) : ending = .exited 0 := by
  cases h with
  | unplanned hnone =>
      rw [plan_eq_ok_iff.2 hplan] at hnone
      cases hnone
  | dry _ _ | wrote _ _ _ => rfl
  | failed _ hwet _ =>
      rw [hdry] at hwet
      cases hwet

/-- A build with an old database beside the same build without it: what it
plans, how it ends, what it prints, and what it writes. -/
structure Rebuilds (settings : Settings) (options : CompileOptions)
    (tree : FileTree) (outcome : Outcome) (fresh : Prepared)
    (old : Option Database) (prepared : Prepared) : Prop where
  plan : Planned settings options tree prepared
  previous : prepared.previous = old
  ignored : old = none → prepared = fresh
  catalog : prepared.result.catalog = fresh.result.catalog
  database : prepared.result.database
    = { fresh.result.database with
        vars := (old.map (·.vars)).getD []
        items := Item.withoutLegacy (Build.previousItems old) }
  ending : outcome.ending = .exited 0
  printed : outcome.world.printed
    = transcript ((if old.isNone then
        [ignoring (databasePathOf settings options) "<invalid>"] else [])
        ++ buildLines options prepared)
  dry : options.dryRun = true → outcome.world.tree = tree
  files : options.dryRun = false →
    outcome.world.tree.fileAt?
      = Function.update
          (Function.update tree.fileAt?
            (databasePathOf settings options).place
            (some prepared.databaseBytes))
          (catalogPathOf settings options).place
          (some prepared.catalogBytes)

theorem Ends.of_unplanned {ending : Ending} {after : FileTree} {stop : Stop}
    (h : Ends settings options tree ending after)
    (hnone : plan settings options tree = .error stop) :
    ending = stop.ending ∧ after = tree := by
  cases h with
  | unplanned hother =>
      cases hnone.symm.trans hother
      exact ⟨rfl, rfl⟩
  | dry hplan _ | failed hplan _ _ | wrote hplan _ _ =>
      cases hnone.symm.trans (plan_eq_ok_iff.2 hplan)

/-- The outputs of a build that ends well, where it writes. -/
theorem Ends.takes {ending : Ending} {after : FileTree}
    (h : Ends settings options tree ending after)
    (hplan : Planned settings options tree prepared)
    (hwet : options.dryRun = false) (hending : ending = .exited 0) :
    ∃ made, Takes prepared tree made := by
  obtain ⟨other, made, hother, htakes, -⟩ := h.of_success hwet hending
  cases hplan.unique hother
  exact ⟨made, htakes⟩

/-- A text in the file of the old database is no obstacle to a build that
goes well without it. -/
theorem rebuilds_of_addsFile
    (hwords : Invocation.ofWords words = .compile options)
    (hread : tree.read (databasePathOf settings options) = .ok bytes)
    (hadds : FileTree.AddsFile bare tree
      (databasePathOf settings options).place bytes)
    (hfresh : Planned settings options bare fresh)
    (hbare : (run settings words bare).ending = .exited 0)
    {old : Option Database} (hold : readOld bytes = .ok old) :
    ∃ prepared, Rebuilds settings options tree (run settings words tree)
      fresh old prepared := by
  rw [← hfresh.databasePath_eq] at hread hadds
  have hprevious : oldDatabase tree fresh.databasePath = .ok old := by
    rw [oldDatabase_of_read hread, hold]
    rfl
  have hnone := previous_of_absent hadds.absent hfresh.previous
  obtain ⟨result, hplan, hcatalog, hdatabase, hsame⟩ :=
    hfresh.of_addsFile hadds old hprevious
  have hends := ends_of_run hwords settings tree
  have hwrites : options.dryRun = false →
      ∃ made, Takes { fresh with previous := old, result } tree made := by
    intro hwet
    obtain ⟨made, htakes⟩ :=
      (ends_of_run hwords settings bare).takes hfresh hwet hbare
    exact htakes.of_addsFile hadds old result
  have hending : (run settings words tree).ending = .exited 0 := by
    cases hdry : options.dryRun with
    | true => exact hends.of_planned_dry hplan hdry
    | false =>
        obtain ⟨made, htakes⟩ := hwrites hdry
        exact (hends.of_planned hplan hdry htakes).1
  refine ⟨_, hplan, rfl, fun hignored => ?_, hcatalog, hdatabase, hending,
    ?_, hends.of_dryRun, fun hwet => ?_⟩
  · rw [hsame (hignored.trans hnone.symm), hignored.trans hnone.symm]
  · rw [printed_of_planned hwords hplan hending, hplan.databasePath_eq,
      ← hfresh.databasePath_eq]
    exact congrArg (fun lines => transcript (lines ++ _))
      (warnings_of_read hread hold)
  · obtain ⟨made, htakes⟩ := hwrites hwet
    rw [(hends.of_planned hplan hwet htakes).2, htakes.fileAt?_withOutputs,
      hplan.databasePath_eq, hplan.catalogPath_eq]

/-- Bytes that are no text end a build that goes well without them. -/
theorem escapes_of_addsFile
    (hwords : Invocation.ofWords words = .compile options)
    (hread : tree.read (databasePathOf settings options) = .ok bytes)
    (hfresh : Planned settings options bare fresh) {e : Utf8Error}
    (hold : readOld bytes = .error e) :
    (run settings words tree).ending = .escaped (.notUtf8 e)
      ∧ (run settings words tree).world.tree = tree := by
  rw [← hfresh.databasePath_eq] at hread
  have hnone : plan settings options tree
      = .error (.failure (.notUtf8 e)) := by
    apply plan_of_notUtf8 hfresh
    rw [oldDatabase_of_read hread, hold]
    rfl
  exact (ends_of_run hwords settings tree).of_unplanned hnone

/-- The files of a build without its old database. -/
def withoutDatabase (settings : Settings) (options : CompileOptions)
    (tree : FileTree) : FileTree :=
  tree.without (databasePathOf settings options).place

/-- An old database never blocks a command, as long as its file holds a
text. A build that goes well without the file goes well with it: it
carries over the variables of the database and the items that the catalog
does not replace, or ignores the file with one line and does the same as
without it; and unless it is a dry run, both outputs are written anew. A
listing of the file lists it, or ends with exit code 1 and an error. Bytes
that are no text end either command with an error that is not reported,
and a build then has changed nothing. -/
theorem recovery_of_run (settings : Settings) (words : List String)
    (tree : FileTree) (bytes : List UInt8) :
    let outcome := run settings words tree
    (∀ options, Invocation.ofWords words = .compile options →
        tree.read (databasePathOf settings options) = .ok bytes →
        (run settings words (withoutDatabase settings options tree)).ending
          = .exited 0 →
          ∃ fresh,
            Planned settings options (withoutDatabase settings options tree)
                fresh
              ∧ fresh.previous = none
              ∧ (run settings words
                  (withoutDatabase settings options tree)).world.printed
                = transcript (buildLines options fresh)
              ∧ (∀ old, readOld bytes = .ok old →
                  ∃ prepared, Rebuilds settings options tree outcome fresh
                    old prepared)
              ∧ (∀ e, readOld bytes = .error e →
                  outcome.ending = .escaped (.notUtf8 e)
                    ∧ outcome.world.tree = tree))
      ∧ (∀ options, Invocation.ofWords words = .inspect options →
          tree.read (.ofString options.database) = .ok bytes →
            (∀ old, readOld bytes = .ok old →
                outcome.ending = .exited (listing options old).1
                  ∧ outcome.world.printed
                    = transcript ((if old.isNone then
                        [ignoring (.ofString options.database) "<invalid>"]
                        else []) ++ (listing options old).2))
              ∧ (∀ e, readOld bytes = .error e →
                  outcome.ending = .escaped (.notUtf8 e))) := by
  intro outcome
  refine ⟨fun options hwords hread hbare => ?_,
    fun options hwords hread => ⟨fun old hold => ?_, fun e he => ?_⟩⟩
  · have hadds : FileTree.AddsFile (withoutDatabase settings options tree)
        tree (databasePathOf settings options).place bytes :=
      FileTree.addsFile_without (FileTree.read_eq_ok.1 hread).2
    obtain ⟨fresh, hfresh⟩ := (ends_of_run hwords settings
      (withoutDatabase settings options tree)).exists_planned hbare
    have habsent := hadds.absent
    rw [← hfresh.databasePath_eq] at habsent
    refine ⟨fresh, hfresh, previous_of_absent habsent hfresh.previous, ?_,
      fun old hold =>
        rebuilds_of_addsFile hwords hread hadds hfresh hbare hold,
      fun e he => escapes_of_addsFile hwords hread hfresh he⟩
    rw [printed_of_planned hwords hfresh hbare, warnings_of_absent habsent,
      List.nil_append]
  · have hprevious : oldDatabase tree (.ofString options.database)
        = .ok old := by
      rw [oldDatabase_of_read hread, hold]
      rfl
    rw [← warnings_of_read hread hold]
    exact listed_of_run hwords hprevious
  · apply escaped_of_run hwords
    rw [oldDatabase_of_read hread, he]
    rfl

/-- The sheets of the echo and a file of some bytes at the database. -/
def spoiledTree (bytes : List UInt8) : FileTree :=
  ⟨(["build"], .directory) :: (["build", "database"], .file bytes)
    :: Build.echoTree.entries⟩

theorem withoutDatabase_spoiledTree (bytes : List UInt8) :
    withoutDatabase bareSettings plainOptions (spoiledTree bytes)
      = ⟨(["build"], .directory) :: Build.echoTree.entries⟩ := by
  rfl

theorem ending_withoutDatabase :
    (run bareSettings ["compile"]
      ⟨(["build"], .directory) :: Build.echoTree.entries⟩).ending
        = .exited 0 := by
  decide +kernel

/-- The start of a text of JSON is ignored with one line by a build, which
goes well, and is no listing. -/
theorem recovery_spoiledTree :
    (run bareSettings ["compile"] (spoiledTree [0x7B])).ending = .exited 0
      ∧ (∃ fresh,
          Planned bareSettings plainOptions (spoiledTree [0x7B]) fresh
            ∧ (run bareSettings ["compile"]
                (spoiledTree [0x7B])).world.printed
              = transcript (ignoring (.ofString "build/database") "<invalid>"
                  :: buildLines plainOptions fresh))
      ∧ (run bareSettings ["inspect", "build/database"]
          (spoiledTree [0x7B])).ending = .exited 1 := by
  have hspoiled : readOld [0x7B] = .ok none := by rfl
  obtain ⟨fresh, -, -, -, hbuild, -⟩ :=
    (recovery_of_run bareSettings ["compile"] (spoiledTree [0x7B])
      [0x7B]).1 plainOptions (by rfl) (by rfl) (by
        rw [withoutDatabase_spoiledTree]
        exact ending_withoutDatabase)
  obtain ⟨prepared, hprepared⟩ := hbuild none hspoiled
  obtain ⟨hlisting, -⟩ :=
    (recovery_of_run bareSettings ["inspect", "build/database"]
      (spoiledTree [0x7B]) [0x7B]).2 ⟨"build/database", none⟩ (by rfl)
        (by rfl)
  exact ⟨hprepared.ending, ⟨prepared, hprepared.plan, hprepared.printed⟩,
    (hlisting none hspoiled).1⟩

/-- One byte that is no text blocks both commands: they end with an error
that is not reported, and the build would go well without the file. -/
theorem noText_blocks :
    (run bareSettings ["compile"] (withoutDatabase bareSettings plainOptions
        (spoiledTree [0xFF]))).ending = .exited 0
      ∧ (run bareSettings ["compile"] (spoiledTree [0xFF])).ending
        = .escaped (.notUtf8 ⟨0, 0xFF, 1, .startByte⟩)
      ∧ (run bareSettings ["inspect", "build/database"]
          (spoiledTree [0xFF])).ending
        = .escaped (.notUtf8 ⟨0, 0xFF, 1, .startByte⟩) := by
  rw [withoutDatabase_spoiledTree]
  exact ⟨ending_withoutDatabase, by decide +kernel, by decide +kernel⟩

end Command

end Storyline
