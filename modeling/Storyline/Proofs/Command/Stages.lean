/-
The two halves of a build as a command: what it works out, and what it
writes (`compile_eq`). The first half reads files and prints, so it comes
to something that depends on the files alone, the plan of the build.

* `Answers` and `Quiet` have one lemma for each way of making an action
  out of others; `answers_prepare` and `quiet_inspect` follow the
  commands with these lemmas;
* `Planned` says what a plan that was made consists of, and
  `plan_eq_ok_iff` that nothing else is needed for it.

Main statements: `answers_prepare`, `plan_eq_ok_iff`.
-/
import Storyline.Command
import Storyline.Proofs.Build.Printed
import Storyline.Proofs.FileTree

namespace Storyline.Command

variable {α β : Type} {settings : Settings} {options : CompileOptions}
  {tree : FileTree}

-- ============================================================= actions

theorem run_bind {σ ε : Type} (action : ExceptT ε (StateM σ) α)
    (f : α → ExceptT ε (StateM σ) β) (state : σ) :
    (action >>= f).run state
      = match action.run state with
        | (.ok a, after) => (f a).run after
        | (.error stop, after) => (.error stop, after) := by
  show (match action.run state with
    | (answer, after) => (ExceptT.bindCont f answer) after) = _
  obtain ⟨answer, after⟩ := action.run state
  cases answer <;> rfl

/-- An action that leaves the files as they are. -/
def Quiet (action : Action α) : Prop :=
  ∀ world, (action.run world).2.tree = world.tree

/-- An action that leaves the files as they are and comes to something
that depends on them alone, whatever it prints. -/
def Answers (action : Action α) (answer : FileTree → Except Stop α) : Prop :=
  ∀ world, ∃ printed,
    action.run world = (answer world.tree, ⟨world.tree, printed⟩)

namespace Answers

theorem quiet {action : Action α} {answer : FileTree → Except Stop α}
    (h : Answers action answer) : Quiet action := by
  intro world
  obtain ⟨printed, hrun⟩ := h world
  rw [hrun]

theorem pure (a : α) : Answers (Pure.pure a) fun _ => .ok a :=
  fun world => ⟨world.printed, rfl⟩

theorem throw (stop : Stop) :
    Answers (MonadExcept.throw stop : Action α) fun _ => .error stop :=
  fun world => ⟨world.printed, rfl⟩

theorem say (line : String) : Answers (say line) fun _ => .ok () :=
  fun _ => ⟨_, rfl⟩

theorem bind {action : Action α} {f : α → Action β}
    {answer : FileTree → Except Stop α}
    {answers : α → FileTree → Except Stop β} (h : Answers action answer)
    (hf : ∀ a, Answers (f a) (answers a)) :
    Answers (action >>= f) fun tree =>
      answer tree >>= fun a => answers a tree := by
  intro world
  obtain ⟨printed, hrun⟩ := h world
  rw [run_bind, hrun]
  simp only
  cases answer world.tree with
  | error stop => exact ⟨printed, rfl⟩
  | ok a => exact hf a ⟨world.tree, printed⟩

/-- What is done with the files that there are. -/
theorem reading {f : World → Action α} {answer : FileTree → Except Stop α}
    (h : ∀ world, Answers (f world) fun _ => answer world.tree) :
    Answers (get >>= f) answer := fun world => h world world

end Answers

namespace Quiet

theorem bind {action : Action α} {f : α → Action β} (h : Quiet action)
    (hf : ∀ a, Quiet (f a)) : Quiet (action >>= f) := by
  intro world
  have hrun := h world
  rw [run_bind]
  generalize action.run world = outcome at hrun
  obtain ⟨answer, after⟩ := outcome
  cases answer with
  | error stop => exact hrun
  | ok a => exact (hf a after).trans hrun

theorem forM {f : α → Action Unit} (h : ∀ a, Quiet (f a)) (l : List α) :
    Quiet (l.forM f) := by
  induction l with
  | nil => exact (Answers.pure ()).quiet
  | cons a rest ih => exact (h a).bind fun _ => ih

end Quiet

theorem answers_forM_say (lines : List α) (text : α → String) :
    Answers (lines.forM fun line => say (text line)) fun _ => .ok () := by
  induction lines with
  | nil => exact .pure ()
  | cons line rest ih => exact (Answers.say _).bind fun _ => ih

/-- Reports whose row numbers are not too long are printed line after
line. -/
theorem forM_text_eq {reports : List Diagnostic}
    (h : ∀ d ∈ reports, d.isPrintable = true) :
    (reports.forM fun d => do say (← orFail d.text))
      = reports.forM fun d => say d.shown := by
  induction reports with
  | nil => rfl
  | cons d rest ih =>
      obtain ⟨hd, hrest⟩ := List.forall_mem_cons.1 h
      show ((orFail d.text >>= fun line => say line) >>= fun _ => _)
        = (say d.shown >>= fun _ => _)
      rw [d.text_eq, hd, ih hrest]
      rfl

/-- So are the reports of a build that went through. -/
theorem forM_text_of_run {format : Sheet.Format} {sources : Sources}
    {previous : Option Database} {result : Build.Result}
    (h : Build.run tree format sources previous = .ok result)
    (verbose : Bool) :
    ((shownReports verbose result.reports).forM fun d => do
        say (← orFail d.text))
      = (shownReports verbose result.reports).forM fun d => say d.shown := by
  have hlog := Diagnostic.log_eq_ok_iff.1 (Build.log_of_run h)
  exact forM_text_eq fun d hd => hlog d (List.mem_filter.1 hd).1

/-- Another way to end with an error does not change the values. -/
theorem mapError_eq_ok {value : Except Error α} {f : Error → Stop} {a : α} :
    value.mapError f = .ok a ↔ value = .ok a := by
  cases value <;> simp [Except.mapError]

theorem orFail_ok (a : α) : orFail (.ok a) = pure a := rfl

theorem answers_orFail (value : Except Error α) :
    Answers (orFail value) fun _ => value.mapError .failure := by
  cases value with
  | error e => exact .throw _
  | ok a => exact .pure a

-- ==================================================== the old database

/-- The database that is there from before: none when there is nothing,
or nothing that can be used. -/
def oldDatabase (tree : FileTree) (p : Path) :
    Except Error (Option Database) := do
  match ← tree.find? p with
  | none => .ok none
  | some _ =>
    match tree.read p with
    | .error _ => .ok none
    | .ok bytes =>
      match Text.decodeUtf8 bytes with
      | .error e => .error (.notUtf8 e)
      | .ok cs =>
        match Json.document Database.ofJson
            (String.ofList (Text.unifyBreaks cs)) with
        | .flawed _ => .ok none
        | .valid database => .ok (some database)

theorem answers_previousDatabase (p : Path) :
    Answers (previousDatabase p) fun tree =>
      (oldDatabase tree p).mapError .failure := by
  refine Answers.reading fun world => ?_
  unfold oldDatabase
  simp only
  cases world.tree.find? p with
  | error e => exact .throw _
  | ok found =>
      cases found with
      | none => exact .pure none
      | some entry =>
          cases world.tree.read p with
          | error e => exact (Answers.say _).bind fun _ => .pure none
          | ok bytes =>
              show Answers (match Text.decodeUtf8 bytes with
                | .error e => _
                | .ok cs => _) fun _ => Except.mapError _ (match
                  Text.decodeUtf8 bytes with
                | .error e => _
                | .ok cs => _)
              cases Text.decodeUtf8 bytes with
              | error e => exact .throw _
              | ok cs =>
                  simp only
                  cases Json.document Database.ofJson
                      (String.ofList (Text.unifyBreaks cs)) with
                  | flawed issues =>
                      exact (Answers.say _).bind fun _ => .pure none
                  | valid database => exact .pure (some database)

/-- A path that leads to a file with a database. -/
def Holds (tree : FileTree) (p : Path) (database : Database) : Prop :=
  ∃ bytes cs, tree.read p = .ok bytes ∧ Text.decodeUtf8 bytes = .ok cs
    ∧ Json.document Database.ofJson (String.ofList (Text.unifyBreaks cs))
        = .valid database

theorem oldDatabase_eq_some_iff {p : Path} {database : Database} :
    oldDatabase tree p = .ok (some database) ↔ Holds tree p database := by
  constructor
  · intro h
    obtain ⟨found, -, h⟩ := Error.bind_eq_ok.1 h
    cases found with
    | none => cases h
    | some entry =>
        simp only at h
        split at h
        · cases h
        · next bytes hbytes =>
          split at h
          · cases h
          · next cs hcs =>
            split at h
            · cases h
            · next found hfound =>
              cases h
              exact ⟨bytes, cs, hbytes, hcs, hfound⟩
  · rintro ⟨bytes, cs, hbytes, hcs, hdatabase⟩
    refine Error.bind_eq_ok.2 ⟨_, FileTree.find?_of_read hbytes, ?_⟩
    simp only [hbytes, hcs, hdatabase]

/-- Listing a database leaves the files as they are. -/
theorem quiet_inspect (options : InspectOptions) :
    Quiet (inspect options) := by
  refine (answers_previousDatabase _).quiet.bind fun previous => ?_
  cases previous with
  | none =>
      exact (Answers.say _).quiet.bind fun _ => (Answers.throw _).quiet
  | some database =>
      simp only
      cases selected database (options.document.getD "") with
      | none =>
          exact (Answers.say _).quiet.bind fun _ => (Answers.throw _).quiet
      | some graphs =>
        exact Quiet.forM (fun line => (Answers.say line).quiet) _

-- =========================================================== the halves

/-- What a build has worked out before it writes, and from what. -/
structure Prepared where
  settings : Settings
  output : Path
  sources : Sources
  previous : Option Database
  result : Build.Result

/-- Where the database goes. -/
def Prepared.databasePath (prepared : Prepared) : Path :=
  prepared.settings.databasePath prepared.output

/-- Where the catalog goes. -/
def Prepared.catalogPath (prepared : Prepared) : Path :=
  prepared.settings.catalogPath prepared.output

/-- The bytes that go into the database. -/
def Prepared.databaseBytes (prepared : Prepared) : List UInt8 :=
  Text.utf8Bytes (databaseText prepared.result.database)

/-- The bytes that go into the catalog. -/
def Prepared.catalogBytes (prepared : Prepared) : List UInt8 :=
  Text.utf8Bytes (catalogText prepared.result.catalog)

/-- The folder that the outputs of a build go to. -/
def outputOf (settings : Settings) (options : CompileOptions) : Path :=
  (options.output.map Path.ofString).getD settings.outputDir

/-- Where a build has its database. -/
def databasePathOf (settings : Settings) (options : CompileOptions) :
    Path :=
  settings.databasePath (outputOf settings options)

/-- Where a build has its catalog. -/
def catalogPathOf (settings : Settings) (options : CompileOptions) : Path :=
  settings.catalogPath (outputOf settings options)

/-- The sheets of a build. -/
def sheetsOf (settings : Settings) (options : CompileOptions) :
    Except Error Sources := do
  let storyFiles ← storyFiles settings options
  { settings with storyFiles }.sources (options.root.map Path.ofString)

/-- The log level that counts. -/
def levelOf (settings : Settings) (options : CompileOptions) : String :=
  if options.verbose then "DEBUG" else settings.logLevel

/-- A build up to its last report. -/
def prepare (settings : Settings) (options : CompileOptions) :
    Action Prepared := do
  orFail (checkLevel (levelOf settings options))
  let files ← match storyFiles settings options with
    | .ok files => pure files
    | .error _ => throw (.exit 2)
  let settings := { settings with storyFiles := files }
  let output := outputOf settings options
  let sources ← orFail (settings.sources (options.root.map Path.ofString))
  let previous ← previousDatabase (settings.databasePath output)
  let result ←
    match Build.run (← get).tree settings.format sources previous with
    | .ok result => pure result
    | .error e => do
      if e.isSheetError then
        say ("error: " ++ e.message)
        throw (.exit 1)
      else throw (.failure e)
  (shownReports options.verbose result.reports).forM fun d => do
    say (← orFail d.text)
  say (summaryLine result)
  return ⟨settings, output, sources, previous, result⟩

/-- The outputs of a build. -/
def writeBoth (prepared : Prepared) : FileAction Unit :=
  writeOutputs prepared.settings prepared.output prepared.result

/-- The rest of a build. -/
def finish (options : CompileOptions) (prepared : Prepared) :
    Action Unit := do
  if !options.dryRun then
    onFiles (writeBoth prepared)
    say ("database: " ++ prepared.databasePath.text)
    say ("catalog: " ++ prepared.catalogPath.text)
  say (if prepared.result.status = "ok_with_warnings" then
    "completed with warnings" else "ok")

theorem throw_bind (stop : Stop) (f : α → Action β) :
    (throw stop : Action α) >>= f = throw stop := rfl

/-- A build prepares and finishes. -/
theorem compile_eq (settings : Settings) (options : CompileOptions) :
    compile settings options
      = prepare settings options >>= finish options := by
  unfold compile prepare finish outputOf levelOf
  cases storyFiles settings options with
  | error e => simp only [bind_assoc, throw_bind]
  | ok files =>
      simp only [bind_assoc, pure_bind]
      refine bind_congr fun _ => bind_congr fun sources =>
        bind_congr fun previous => bind_congr fun world => ?_
      cases Build.run world.tree _ sources previous with
      | ok result =>
          simp only [bind_assoc, pure_bind]
          rfl
      | error e =>
          simp only
          split
          · simp only [bind_assoc, throw_bind]
          · simp only [throw_bind]

-- ============================================================= the plan

/-- How a build ends when its sheets make no result. -/
def stopFor (e : Error) : Stop :=
  if e.isSheetError then .exit 1 else .failure e

/-- What a build works out, as a function of the files. -/
def plan (settings : Settings) (options : CompileOptions)
    (tree : FileTree) : Except Stop Prepared := do
  (checkLevel (levelOf settings options)).mapError .failure
  let files ← (storyFiles settings options).mapError fun _ => .exit 2
  let settings := { settings with storyFiles := files }
  let output := outputOf settings options
  let sources ←
    (settings.sources (options.root.map Path.ofString)).mapError .failure
  let previous ←
    (oldDatabase tree (settings.databasePath output)).mapError .failure
  let result ←
    (Build.run tree settings.format sources previous).mapError stopFor
  return ⟨settings, output, sources, previous, result⟩

theorem answers_prepare (settings : Settings) (options : CompileOptions) :
    Answers (prepare settings options) (plan settings options) := by
  unfold prepare plan
  refine (answers_orFail _).bind fun _ => ?_
  cases storyFiles settings options with
  | error e => exact .throw _
  | ok files =>
      refine (answers_orFail _).bind fun sources =>
        (answers_previousDatabase _).bind fun previous =>
          Answers.reading fun world => ?_
      cases hrun : Build.run world.tree _ sources previous with
      | error e =>
          simp only [Except.mapError, stopFor]
          by_cases hsheet : e.isSheetError = true
          · rw [if_pos hsheet, if_pos hsheet]
            exact (Answers.say _).bind fun _ => .throw _
          · rw [if_neg hsheet, if_neg hsheet]
            exact .throw _
      | ok result =>
          simp only [pure_bind]
          rw [forM_text_of_run hrun]
          exact (answers_forM_say _ _).bind fun _ =>
            (Answers.say _).bind fun _ => .pure _

/-- What a plan that a build makes consists of: the level has a meaning,
the story sheets and all other sheets can be named, the old database is
read or there is none, and the sheets make a result. -/
structure Planned (settings : Settings) (options : CompileOptions)
    (tree : FileTree) (prepared : Prepared) : Prop where
  level : checkLevel (levelOf settings options) = .ok ()
  stories : storyFiles settings options
    = .ok prepared.settings.storyFiles
  project : prepared.settings
    = { settings with storyFiles := prepared.settings.storyFiles }
  folder : prepared.output = outputOf settings options
  sheets : prepared.settings.sources (options.root.map Path.ofString)
    = .ok prepared.sources
  previous : oldDatabase tree prepared.databasePath = .ok prepared.previous
  result : Build.run tree prepared.settings.format prepared.sources
    prepared.previous = .ok prepared.result

theorem plan_eq_ok_iff {prepared : Prepared} :
    plan settings options tree = .ok prepared
      ↔ Planned settings options tree prepared := by
  constructor
  · intro h
    obtain ⟨_, hlevel, h⟩ := Error.bind_eq_ok.1 h
    obtain ⟨files, hfiles, h⟩ := Error.bind_eq_ok.1 h
    obtain ⟨sources, hsources, h⟩ := Error.bind_eq_ok.1 h
    obtain ⟨previous, hprevious, h⟩ := Error.bind_eq_ok.1 h
    obtain ⟨result, hresult, h⟩ := Error.bind_eq_ok.1 h
    cases h
    exact {
      level := mapError_eq_ok.1 hlevel
      stories := mapError_eq_ok.1 hfiles
      project := rfl
      folder := rfl
      sheets := mapError_eq_ok.1 hsources
      previous := mapError_eq_ok.1 hprevious
      result := mapError_eq_ok.1 hresult }
  · intro h
    obtain ⟨project, output, sources, previous, result⟩ := prepared
    obtain ⟨hlevel, hstories, hproject, rfl, hsources, hprevious, hresult⟩ :=
      h
    obtain ⟨files, rfl⟩ :
        ∃ files, project = { settings with storyFiles := files } :=
      ⟨_, hproject⟩
    refine Error.bind_eq_ok.2 ⟨(), mapError_eq_ok.2 hlevel, ?_⟩
    refine Error.bind_eq_ok.2 ⟨files, mapError_eq_ok.2 hstories, ?_⟩
    refine Error.bind_eq_ok.2 ⟨sources, mapError_eq_ok.2 hsources, ?_⟩
    refine Error.bind_eq_ok.2 ⟨previous, mapError_eq_ok.2 hprevious, ?_⟩
    exact Error.bind_eq_ok.2 ⟨result, mapError_eq_ok.2 hresult, rfl⟩

namespace Planned

variable {prepared other : Prepared}

theorem unique (h : Planned settings options tree prepared)
    (hother : Planned settings options tree other) : other = prepared := by
  have hsame := (plan_eq_ok_iff.2 hother).symm.trans (plan_eq_ok_iff.2 h)
  exact Except.ok.inj hsame

theorem databasePath_eq (h : Planned settings options tree prepared) :
    prepared.databasePath = databasePathOf settings options := by
  unfold Prepared.databasePath databasePathOf
  rw [h.folder, h.project]
  rfl

theorem catalogPath_eq (h : Planned settings options tree prepared) :
    prepared.catalogPath = catalogPathOf settings options := by
  unfold Prepared.catalogPath catalogPathOf
  rw [h.folder, h.project]
  rfl

theorem outputOf_eq (h : Planned settings options tree prepared) :
    outputOf prepared.settings options = prepared.output := by
  rw [h.folder, h.project]
  rfl

theorem sheetsOf_eq (h : Planned settings options tree prepared) :
    sheetsOf settings options = .ok prepared.sources := by
  refine Error.bind_eq_ok.2 ⟨_, h.stories, ?_⟩
  rw [← h.project]
  exact h.sheets

end Planned

/-- Two steps do not stop in a way in which neither of them does. -/
theorem mapError_bind_ne {value : Except Error α} {f : Error → Stop}
    {g : α → Except Stop β} {stop : Stop} (hf : ∀ e, f e ≠ stop)
    (hg : ∀ a, g a ≠ .error stop) : value.mapError f >>= g ≠ .error stop := by
  cases value with
  | error e => exact fun h => hf e (Except.error.inj h)
  | ok a => exact hg a

/-- A build without a plan does not end well. -/
theorem plan_ne_exit_zero (settings : Settings) (options : CompileOptions)
    (tree : FileTree) : plan settings options tree ≠ .error (.exit 0) := by
  unfold plan
  refine mapError_bind_ne (fun _ => nofun) fun _ => ?_
  refine mapError_bind_ne (fun _ => nofun) fun files => ?_
  refine mapError_bind_ne (fun _ => nofun) fun sources => ?_
  refine mapError_bind_ne (fun _ => nofun) fun previous => ?_
  refine mapError_bind_ne (fun e => ?_) fun result => nofun
  unfold stopFor
  split <;> exact nofun

end Storyline.Command
