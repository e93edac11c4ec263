/-
What a command prints. It prints line after line and takes nothing back,
so what it has printed is the lines so far, each as it comes out
(`transcript`). The lines of a build that ends well are those about the
old database, in front, and those that its plan accounts for
(`buildLines`); those of a listing follow from the old database alone
(`listing`).

Main statements: `printed_of_planned`, `listed_of_run`.
-/
import Storyline.Proofs.Command.Outputs

namespace Storyline.Command

-- =============================================================== lines

/-- A line as it comes out. -/
def shown (line : String) : String :=
  String.ofList (withoutStyles line.toList) ++ "\n"

/-- Lines as they come out. -/
def transcript (lines : List String) : String :=
  String.join (lines.map shown)

theorem transcript_append (lines more : List String) :
    transcript (lines ++ more) = transcript lines ++ transcript more := by
  unfold transcript
  rw [List.map_append, String.join_append]

/-- The world after more lines have been printed. -/
def World.printing (world : World) (lines : List String) : World :=
  { world with printed := world.printed ++ transcript lines }

namespace World

variable (world : World)

@[simp] theorem tree_printing (lines : List String) :
    (world.printing lines).tree = world.tree := rfl

theorem printing_nil : world.printing [] = world := by
  unfold printing transcript
  rw [List.map_nil, String.join_nil, String.append_empty]

theorem printing_printing (lines more : List String) :
    (world.printing lines).printing more
      = world.printing (lines ++ more) := by
  unfold printing
  rw [transcript_append, String.append_assoc]

end World

/-- An action goes on where the one before it has come to. -/
theorem run_bind_ok {α β : Type} {action : Action α} {f : α → Action β}
    {world after : World} {a : α} (h : action.run world = (.ok a, after)) :
    (action >>= f).run world = (f a).run after := by
  rw [run_bind, h]

theorem run_get (world : World) :
    (get : Action World).run world = (.ok world, world) := rfl

theorem run_say (line : String) (world : World) :
    (say line).run world = (.ok (), world.printing [line]) := by
  show (Except.ok (), World.mk world.tree
    (world.printed ++ String.ofList (withoutStyles line.toList) ++ "\n")) = _
  unfold World.printing transcript
  rw [List.map_singleton, String.join_cons, String.join_nil,
    String.append_empty, String.append_assoc]
  rfl

theorem run_forM_say {α : Type} (l : List α) (text : α → String)
    (world : World) :
    (l.forM fun a => say (text a)).run world
      = (.ok (), world.printing (l.map text)) := by
  induction l generalizing world with
  | nil => rw [List.map_nil, world.printing_nil]; rfl
  | cons a rest ih =>
      refine (run_bind_ok (run_say (text a) world)).trans ?_
      rw [ih, world.printing_printing]
      rfl

-- ==================================================== the old database

variable {settings : Settings} {options : CompileOptions}
  {tree : FileTree} {words : List String} {prepared : Prepared}

/-- What is said of an old database that is ignored. -/
def ignoring (p : Path) (cause : String) : String :=
  "warning: ignoring unreadable database " ++ p.text ++ ": " ++ cause

/-- What is said when the old database is read. -/
def warnings (tree : FileTree) (p : Path) : List String :=
  match tree.find? p with
  | .error _ | .ok none => []
  | .ok (some _) =>
    match tree.read p with
    | .error e => [ignoring p e.message]
    | .ok bytes =>
      match Text.decodeUtf8 bytes with
      | .error _ => []
      | .ok cs =>
        match Json.document Database.ofJson
            (String.ofList (Text.unifyBreaks cs)) with
        | .flawed _ => [ignoring p "<invalid>"]
        | .valid _ => []

/-- A line and a value behind it. -/
theorem run_say_pure {α : Type} (line : String) (a : α) (world : World) :
    (say line >>= fun _ => (pure a : Action α)).run world
      = (.ok a, world.printing [line]) :=
  run_bind_ok (run_say line world)

theorem run_previousDatabase (p : Path) (world : World) :
    (previousDatabase p).run world
      = ((oldDatabase world.tree p).mapError .failure,
          world.printing (warnings world.tree p)) := by
  unfold previousDatabase oldDatabase warnings
  rw [run_bind]
  show (orFail (world.tree.find? p) >>= _ : Action _).run world = _
  cases world.tree.find? p with
  | error e => rw [world.printing_nil]; rfl
  | ok found =>
      cases found with
      | none => rw [world.printing_nil]; rfl
      | some entry =>
          simp only [orFail, pure_bind]
          show (match world.tree.read p with
            | .error e => say (ignoring p e.message) >>= fun _ => pure none
            | .ok bytes => match Text.decodeUtf8 bytes with
              | .error e => throw (.failure (.notUtf8 e))
              | .ok cs => match Json.document Database.ofJson
                  (String.ofList (Text.unifyBreaks cs)) with
                | .flawed _ => say (ignoring p "<invalid>") >>= fun _ =>
                    pure none
                | .valid database => pure (some database) :
              Action (Option Database)).run world = _
          cases world.tree.read p with
          | error e => exact run_say_pure _ _ world
          | ok bytes =>
              simp only
              cases Text.decodeUtf8 bytes with
              | error e => rw [world.printing_nil]; rfl
              | ok cs =>
                  simp only
                  cases Json.document Database.ofJson
                      (String.ofList (Text.unifyBreaks cs)) with
                  | flawed issues => exact run_say_pure _ _ world
                  | valid database => rw [world.printing_nil]; rfl

-- ============================================================= a build

/-- What is printed of a build that has worked out its outputs. -/
def reportLines (options : CompileOptions) (prepared : Prepared) :
    List String :=
  (shownReports options.verbose prepared.result.reports).map (·.shown)
    ++ [summaryLine prepared.result]

/-- What is printed of a build behind its reports. -/
def outputLines (options : CompileOptions) (prepared : Prepared) :
    List String :=
  (if options.dryRun then []
    else ["database: " ++ prepared.databasePath.text,
      "catalog: " ++ prepared.catalogPath.text])
    ++ [if prepared.result.status = "ok_with_warnings" then
          "completed with warnings" else "ok"]

/-- What is printed of a build that ends well. -/
def buildLines (options : CompileOptions) (prepared : Prepared) :
    List String :=
  reportLines options prepared ++ outputLines options prepared

theorem run_prepare {world : World}
    (h : Planned settings options world.tree prepared) :
    (prepare settings options).run world
      = (.ok prepared, world.printing
          (warnings world.tree prepared.databasePath
            ++ reportLines options prepared)) := by
  have hread : (previousDatabase prepared.databasePath).run world
      = (.ok prepared.previous,
          world.printing (warnings world.tree prepared.databasePath)) := by
    rw [run_previousDatabase, h.previous]
    rfl
  unfold prepare
  rw [h.level, h.stories]
  simp only [orFail_ok, pure_bind]
  rw [← h.project, h.sheets, h.outputOf_eq]
  simp only [orFail_ok, pure_bind]
  refine (run_bind_ok hread).trans ?_
  refine (run_bind_ok (run_get _)).trans ?_
  simp only [World.tree_printing]
  rw [h.result]
  simp only
  rw [forM_text_of_run h.result]
  refine (run_bind_ok (run_forM_say _ _ _)).trans ?_
  refine (run_bind_ok (run_say _ _)).trans ?_
  rw [World.printing_printing, World.printing_printing]
  rfl

theorem run_say_three (first second third : String) (world : World) :
    (say first >>= fun _ => say second >>= fun _ => say third).run world
      = (.ok (), world.printing [first, second, third]) := by
  refine (run_bind_ok (run_say first world)).trans ?_
  refine (run_bind_ok (run_say second _)).trans ?_
  rw [run_say, World.printing_printing, World.printing_printing]
  rfl

/-- The rest of a build that ends well. -/
theorem printed_finish {world after : World} {answer : Except Stop Unit}
    (h : (finish options prepared).run world = (answer, after))
    (hending : endingOf answer = .exited 0) :
    after.printed
      = world.printed ++ transcript (outputLines options prepared) := by
  unfold outputLines
  cases hdry : options.dryRun with
  | true =>
      unfold finish at h
      rw [hdry] at h
      cases (run_say _ world).symm.trans h
      rfl
  | false =>
      rw [finish_of_wet hdry, run_bind, run_onFiles] at h
      cases hwrites : (writeBoth prepared).run world.tree with
      | mk written files =>
        rw [hwrites] at h
        cases written with
        | error e =>
            cases h
            cases hending
        | ok _ =>
            cases (run_say_three _ _ _ ⟨files, world.printed⟩).symm.trans h
            rfl

/-- What a build that ends well prints: what it says of the old database,
and the lines of its plan. -/
theorem printed_of_planned
    (hwords : Invocation.ofWords words = .compile options)
    (hplan : Planned settings options tree prepared)
    (hending : (run settings words tree).ending = .exited 0) :
    (run settings words tree).world.printed
      = transcript (warnings tree prepared.databasePath
          ++ buildLines options prepared) := by
  have hperform : perform settings (.compile options)
      = prepare settings options >>= finish options :=
    compile_eq settings options
  rw [run_eq, hwords, hperform,
    run_bind_ok (run_prepare hplan)] at hending ⊢
  have hprinted := printed_finish rfl hending
  refine hprinted.trans ?_
  unfold buildLines World.printing
  rw [String.empty_append, ← transcript_append, List.append_assoc]

-- =========================================================== a listing

/-- With which exit code a listing of an old database ends, and what it
prints: the database, or why there is nothing to list. -/
def listing (options : InspectOptions) : Option Database → Nat × List String
  | none =>
      (1, ["error: cannot read database "
        ++ (Path.ofString options.database).text])
  | some database =>
      match selected database (options.document.getD "") with
      | none =>
          (1, ["error: no document titled '" ++ options.document.getD ""
            ++ "'"])
      | some graphs => (0, graphs.flatMap documentLines)

/-- How a command stops that ends with an exit code. -/
def answerOf : Nat → Except Stop Unit
  | 0 => .ok ()
  | code => .error (.exit code)

theorem endingOf_answerOf (code : Nat) :
    endingOf (answerOf code) = .exited code := by
  cases code <;> rfl

theorem run_inspect {inspected : InspectOptions} {world : World}
    {old : Option Database}
    (h : oldDatabase world.tree (.ofString inspected.database) = .ok old) :
    (inspect inspected).run world
      = (answerOf (listing inspected old).1, world.printing
          (warnings world.tree (.ofString inspected.database)
            ++ (listing inspected old).2)) := by
  have hread : (previousDatabase (.ofString inspected.database)).run world
      = (.ok old, world.printing
          (warnings world.tree (.ofString inspected.database))) := by
    rw [run_previousDatabase, h]
    rfl
  rw [← World.printing_printing]
  refine (run_bind_ok hread).trans ?_
  cases old with
  | none => exact run_bind_ok (run_say _ _)
  | some database =>
      unfold listing
      simp only
      cases selected database (inspected.document.getD "") with
      | none => exact run_bind_ok (run_say _ _)
      | some graphs =>
          refine (run_forM_say _ id _).trans ?_
          rw [List.map_id]
          rfl

/-- A listing ends with the exit code and prints the lines that the old
database accounts for. -/
theorem listed_of_run {inspected : InspectOptions}
    (hwords : Invocation.ofWords words = .inspect inspected)
    {old : Option Database}
    (hold : oldDatabase tree (.ofString inspected.database) = .ok old) :
    (run settings words tree).ending = .exited (listing inspected old).1
      ∧ (run settings words tree).world.printed
        = transcript (warnings tree (.ofString inspected.database)
            ++ (listing inspected old).2) := by
  have hrun := @run_inspect inspected ⟨tree, ""⟩ old hold
  have hperform : perform settings (.inspect inspected)
      = inspect inspected := rfl
  rw [run_eq, hwords, hperform, hrun]
  refine ⟨endingOf_answerOf _, ?_⟩
  show "" ++ transcript _ = _
  rw [String.empty_append]

/-- So it does with the error of an old database that it does not
report. -/
theorem escaped_of_run {inspected : InspectOptions}
    (hwords : Invocation.ofWords words = .inspect inspected) {e : Error}
    (hold : oldDatabase tree (.ofString inspected.database) = .error e) :
    (run settings words tree).ending = .escaped e := by
  have hperform : perform settings (.inspect inspected)
      = inspect inspected := rfl
  rw [run_eq, hwords, hperform]
  unfold inspect
  rw [run_bind, run_previousDatabase, hold]
  rfl

end Storyline.Command
