/-
The script of a row. Seven cells can put a line into it: the background,
the three standing cells, the music, the sound effect and the row's own
commands. The script joins the lines and gives no account of which cell
they are from; whoever runs it cuts it at the line feeds again.

# What is compared

* `Standing.read`, which can fail, and what a standing cell asks for
  (`Standing.ofCell`), which the script of a row that has one agrees with
  (`script_ok`);
* the script, and a list with one line for each of the cells that makes
  one, in their order (`Staged`).

# What carries it

* a standing cell is cut at its underscore when it has one alone
  (`splitPose?_eq_some_iff`), and such a cell is not the word `hide`
  (`Standing.IsPose.lower_ne_hide`), so the cases do not overlap;
* what a cell makes is not blank, and has no line feed that the cell did
  not have (`Directive.not_blank`, `Directive.one_line`), so the lines are
  found again where the script is cut.

Main statement: `lines_of_script`.
-/
import Storyline.Proofs.Numeral
import Storyline.Proofs.Steps
import Storyline.Proofs.Text.Lower
import Storyline.Script.Staging

namespace Storyline.Script

-- ====================================================== standing cells

/-- A text is cut at an underscore when that is its only one. -/
theorem splitPose?_eq_some_iff {cs actor look : List Char} :
    splitPose? cs = some (actor, look)
      ↔ cs = actor ++ '_' :: look ∧ '_' ∉ actor ∧ '_' ∉ look := by
  constructor
  · intro h
    unfold splitPose? at h
    split at h
    · cases h
    · next mark pose hdrop =>
      have hmark : mark = '_' := by
        have hhead := List.head?_dropWhile_not (· ≠ '_') cs
        rw [hdrop] at hhead
        simpa using hhead
      have hfront : '_' ∉ cs.takeWhile (· ≠ '_') := by
        intro hmem
        have hmark := List.mem_takeWhile_imp hmem
        simp at hmark
      have hcut : cs.takeWhile (· ≠ '_') ++ mark :: pose = cs := by
        rw [← hdrop]
        exact List.takeWhile_append_dropWhile
      split at h
      · cases h
      · next honly =>
        cases h
        rw [hmark] at hcut
        exact ⟨hcut.symm, hfront, by simpa using honly⟩
  · rintro ⟨rfl, hactor, hlook⟩
    have hfront : ∀ c ∈ actor, decide (c ≠ '_') = true := by
      intro c hc
      refine decide_eq_true ?_
      rintro rfl
      exact hactor hc
    have htake : (actor ++ '_' :: look).takeWhile (· ≠ '_') = actor := by
      rw [List.takeWhile_append_of_pos hfront,
        List.takeWhile_cons_of_neg (by decide), List.append_nil]
    have hdrop : (actor ++ '_' :: look).dropWhile (· ≠ '_')
        = '_' :: look := by
      rw [List.dropWhile_append_of_pos hfront,
        List.dropWhile_cons_of_neg (by decide)]
    unfold splitPose?
    rw [hdrop, htake]
    exact if_neg (by simpa using hlook)

namespace Standing

/-- A cell with one underscore, between an actor and a pose. -/
def IsPose (cell : String) (actor look : List Char) : Prop :=
  (Text.trim cell).toList = actor ++ '_' :: look
    ∧ '_' ∉ actor ∧ '_' ∉ look

/-- A cell that can be used: the word `hide`, or a pose of an actor. -/
def IsUsable (cell : String) : Prop :=
  Text.lower (Text.trim cell) = "hide"
    ∨ ∃ actor look z,
        IsPose cell actor look ∧ Numeral.readChars actor = .integer z

/-- What a standing cell asks for, where no number is too long: the word
`hide`, or an actor and a pose. A cell that says neither asks for
nothing. -/
def ofCell (cell : String) : Standing :=
  match splitPose? (Text.trim cell).toList with
  | none => if Text.lower (Text.trim cell) = "hide" then .hide else .nothing
  | some (actor, look) =>
    match (Numeral.readChars actor).value? with
    | some z => .pose z (String.ofList look)
    | none => .nothing

/-- The error of a standing cell: that of the number of its actor. -/
def fault? (cell : String) : Option Error :=
  (splitPose? (Text.trim cell).toList).bind fun (actor, _) =>
    (Numeral.readChars actor).fault?

theorem splitPose?_trim {cell : String} {actor look : List Char} :
    splitPose? (Text.trim cell).toList = some (actor, look)
      ↔ IsPose cell actor look :=
  splitPose?_eq_some_iff

/-- A cell with a pose does not say `hide`. -/
theorem IsPose.lower_ne_hide {cell : String} {actor look : List Char}
    (h : IsPose cell actor look) :
    Text.lower (Text.trim cell) ≠ "hide" := by
  intro hhide
  have hmark : '_' ∉ (Text.lower (Text.trim cell)).toList := by
    rw [hhide]
    decide
  rw [Text.toList_lower] at hmark
  refine hmark (Text.mem_lowerCharsAfter Text.isSmall_underscore ?_ [])
  rw [h.1]
  simp

/-- A standing cell is read as what it asks for, unless it has a fault. -/
theorem read_eq (cell : String) :
    read cell = match fault? cell with
      | some e => .error e
      | none => .ok (ofCell cell) := by
  unfold read fault? ofCell
  simp only
  cases hsplit : splitPose? (Text.trim cell).toList with
  | none =>
      by_cases hempty : Text.trim cell = ""
      · rw [if_pos hempty, hempty]
        rfl
      · rw [if_neg hempty]
        split <;> rfl
  | some sides =>
      obtain ⟨actor, look⟩ := sides
      have hfilled : Text.trim cell ≠ "" := by
        intro hempty
        rw [hempty] at hsplit
        cases hsplit
      rw [if_neg hfilled, if_neg (splitPose?_trim.1 hsplit).lower_ne_hide]
      simp only [Option.bind_some]
      cases Numeral.readChars actor <;> rfl

theorem ofCell_of_hide {cell : String}
    (h : Text.lower (Text.trim cell) = "hide") : ofCell cell = .hide := by
  unfold ofCell
  cases hsplit : splitPose? (Text.trim cell).toList with
  | none => exact if_pos h
  | some sides => exact absurd h (splitPose?_trim.1 hsplit).lower_ne_hide

theorem ofCell_of_isPose {cell : String} {actor look : List Char} {z : Int}
    (h : IsPose cell actor look)
    (hactor : Numeral.readChars actor = .integer z) :
    ofCell cell = .pose z (String.ofList look) := by
  unfold ofCell
  rw [splitPose?_trim.2 h]
  simp only [hactor]
  rfl

/-- A cell that cannot be used asks for nothing. -/
theorem ofCell_of_not_isUsable {cell : String} (h : ¬ IsUsable cell) :
    ofCell cell = .nothing := by
  unfold ofCell
  cases hsplit : splitPose? (Text.trim cell).toList with
  | none => exact if_neg fun hhide => h (.inl hhide)
  | some sides =>
      obtain ⟨actor, look⟩ := sides
      have hactor : ∀ z, Numeral.readChars actor ≠ .integer z := fun z hz =>
        h (.inr ⟨actor, look, z, splitPose?_trim.1 hsplit, hz⟩)
      simp only
      cases hread : Numeral.readChars actor with
      | integer z => exact absurd hread (hactor z)
      | tooLong digits => rfl
      | notInteger => rfl

theorem fault?_of_isPose {cell : String} {actor look : List Char}
    (h : IsPose cell actor look) :
    fault? cell = (Numeral.readChars actor).fault? := by
  unfold fault?
  rw [splitPose?_trim.2 h]
  rfl

theorem fault?_eq_none_iff (cell : String) :
    fault? cell = none
      ↔ ∀ actor look, IsPose cell actor look →
          ∀ digits, Numeral.readChars actor ≠ .tooLong digits := by
  unfold fault?
  rw [Option.bind_eq_none_iff]
  simp only [Prod.forall, splitPose?_trim,
    Numeral.Reading.fault?_eq_none_iff]

theorem longNumeral_of_fault? {cell : String} {e : Error}
    (h : fault? cell = some e) :
    ∃ digits, Numeral.digitLimit < digits ∧ e = .longNumeral digits := by
  obtain ⟨sides, -, hactor⟩ := Option.bind_eq_some_iff.1 h
  exact Numeral.longNumeral_of_fault? hactor

-- so that no cell is read when faults are compared
attribute [irreducible] fault?

theorem read_ok {cell : String} {standing : Standing}
    (h : read cell = .ok standing) : standing = ofCell cell := by
  rw [read_eq] at h
  cases hfault : fault? cell with
  | none =>
      rw [hfault] at h
      exact (Except.ok.inj h).symm
  | some e =>
      rw [hfault] at h
      cases h

end Standing

namespace Row

/-- The script of a row, where no number is too long: a command a line,
and none for a standing cell that asks for nothing. -/
def staged (row : Row) : String :=
  let standings := row.standingSlots.map fun (slot, cell) =>
    (Standing.ofCell cell).command? slot
  let all := [commandOf changeBackground row.background] ++ standings
    ++ [commandOf playSound row.music, commandOf playSound row.soundEffect,
        commandOf id row.sequence]
  "\n".intercalate ((all.filterMap id).filter (!Text.isBlank ·))

theorem commands_of_slots {slots : List (String × String)}
    {out : List (Option String)}
    (h : (slots.mapM fun (slot, cell) => standingCommand? slot cell)
      = .ok out) :
    out = slots.map fun (slot, cell) =>
      (Standing.ofCell cell).command? slot := by
  refine eq_map_of_mapM h fun slot command hcommand => ?_
  obtain ⟨standing, hstanding, hsaid⟩ := Error.bind_eq_ok.1 hcommand
  cases hsaid
  rw [Standing.read_ok hstanding]

theorem script_ok {row : Row} {script : String}
    (h : row.script = .ok script) : script = row.staged := by
  obtain ⟨commands, hcommands, h⟩ := Error.bind_eq_ok.1 h
  obtain ⟨standings, hstandings, hall⟩ := Error.bind_eq_ok.1 hcommands
  cases h
  cases hall
  rw [commands_of_slots hstandings]
  rfl

end Row

-- ========================================================== directives

/-- A command says something, and keeps to the line of its cell. -/
structure IsCommand (command : String → String) : Prop where
  not_blank : ∀ cell, Text.isBlank cell = false →
    Text.isBlank (command cell) = false
  one_line : ∀ cell, '\n' ∉ cell.toList → '\n' ∉ (command cell).toList

/-- A command that is closed is not blank. -/
theorem isBlank_closed (s : String) : Text.isBlank (s ++ ");") = false := by
  refine List.all_eq_false.2 ⟨')', ?_, by decide⟩
  rw [String.toList_append]
  exact List.mem_append_right _ (by decide)

/-- A command that is written around the text of its cell. -/
theorem isCommand_closed {front : String} (hfront : '\n' ∉ front.toList) :
    IsCommand fun cell => front ++ cell ++ ");" where
  not_blank := fun _ _ => isBlank_closed _
  one_line := by
    intro cell hcell
    simp only [String.toList_append, List.mem_append, not_or]
    exact ⟨⟨hfront, hcell⟩, by decide⟩

theorem isCommand_changeBackground : IsCommand changeBackground :=
  isCommand_closed (by decide)

theorem isCommand_playSound : IsCommand playSound :=
  isCommand_closed (by decide)

theorem isCommand_id : IsCommand id where
  not_blank := fun _ h => h
  one_line := fun _ h => h

/-- A cell that can put a line into a script: one that names something for
a command, or one of the standing cells. -/
inductive Directive where
  | named (command : String → String) (cell : String)
  | standing (slot cell : String)

namespace Directive

def cell : Directive → String
  | named _ cell => cell
  | standing _ cell => cell

/-- What a cell makes: a line when it is filled in, when it says `hide`, or
when it has a pose of an actor with a number, and otherwise none. -/
inductive Makes : Directive → Option String → Prop where
  | filled {command : String → String} {cell : String}
      (h : Text.isBlank cell = false) :
      Makes (.named command cell) (some (command cell))
  | blank {command : String → String} {cell : String}
      (h : Text.isBlank cell = true) : Makes (.named command cell) none
  | hide {slot cell : String}
      (h : Text.lower (Text.trim cell) = "hide") :
      Makes (.standing slot cell) (some (hideStanding slot))
  | pose {slot cell : String} {actor look : List Char} {z : Int}
      (h : Standing.IsPose cell actor look)
      (hactor : Numeral.readChars actor = .integer z) :
      Makes (.standing slot cell)
        (some (showStanding slot z (String.ofList look)))
  | unusable {slot cell : String} (h : ¬ Standing.IsUsable cell) :
      Makes (.standing slot cell) none

/-- The line of a cell, worked out. -/
def line? : Directive → Option String
  | named command cell =>
      if Text.isBlank cell then none else some (command cell)
  | standing slot cell => (Standing.ofCell cell).command? slot

theorem Makes.line?_eq {directive : Directive} {line : Option String}
    (h : directive.Makes line) : directive.line? = line := by
  cases h with
  | filled h => exact if_neg (Bool.eq_false_iff.1 h)
  | blank h => exact if_pos h
  | hide h => rw [line?, Standing.ofCell_of_hide h, Standing.command?]
  | pose h hactor =>
      rw [line?, Standing.ofCell_of_isPose h hactor, Standing.command?]
  | unusable h =>
      rw [line?, Standing.ofCell_of_not_isUsable h, Standing.command?]

theorem makes_line? (directive : Directive) :
    directive.Makes directive.line? := by
  cases directive with
  | named command cell =>
      rw [line?]
      split
      · next hblank => exact .blank hblank
      · next hfilled => exact .filled (Bool.eq_false_iff.2 hfilled)
  | standing slot cell =>
      rw [line?]
      by_cases husable : Standing.IsUsable cell
      · rcases husable with hhide | ⟨actor, look, z, hpose, hactor⟩
        · rw [Standing.ofCell_of_hide hhide]
          exact .hide hhide
        · rw [Standing.ofCell_of_isPose hpose hactor]
          exact .pose hpose hactor
      · rw [Standing.ofCell_of_not_isUsable husable]
        exact .unusable husable

/-- What a cell makes is settled by the cell. -/
theorem makes_iff {directive : Directive} {line : Option String} :
    directive.Makes line ↔ directive.line? = line := by
  constructor
  · exact Makes.line?_eq
  · intro h
    rw [← h]
    exact directive.makes_line?

/-- A directive whose command, or whose place on the stage, does not break
a line. -/
def IsProper : Directive → Prop
  | named command _ => IsCommand command
  | standing slot _ => '\n' ∉ slot.toList

/-- A line that is made says something. -/
theorem not_blank {directive : Directive} {line : String}
    (hproper : directive.IsProper) (h : directive.Makes (some line)) :
    Text.isBlank line = false := by
  cases h with
  | filled h => exact hproper.not_blank _ h
  | hide h => exact isBlank_closed _
  | pose h hactor => exact isBlank_closed _

/-- A line that is made has no line feed of its own. -/
theorem one_line {directive : Directive} {line : String}
    (hproper : directive.IsProper) (hcell : '\n' ∉ directive.cell.toList)
    (h : directive.Makes (some line)) : '\n' ∉ line.toList := by
  cases h with
  | filled h => exact hproper.one_line _ hcell
  | @hide slot cell h =>
      have hslot : '\n' ∉ slot.toList := hproper
      unfold hideStanding
      simp only [String.toList_append, List.mem_append, not_or]
      exact ⟨⟨by decide, hslot⟩, by decide⟩
  | @pose slot cell actor look z h hactor =>
      have hslot : '\n' ∉ slot.toList := hproper
      have hlook : '\n' ∉ look := by
        intro hmem
        refine hcell (Text.mem_of_mem_trim ?_)
        show '\n' ∈ (Text.trim cell).toList
        rw [h.1]
        exact List.mem_append_right _ (List.mem_cons_of_mem _ hmem)
      unfold showStanding
      simp only [String.toList_append, String.toList_ofList, List.mem_append,
        not_or]
      exact ⟨⟨⟨⟨⟨⟨by decide, hslot⟩, by decide⟩,
        Numeral.not_mem_text (by decide)⟩, by decide⟩, hlook⟩, by decide⟩

end Directive

/-- The lines that directives make: one for each that makes a line, in
their order. -/
inductive Staged : List Directive → List String → Prop where
  | nil : Staged [] []
  | line {directive : Directive} {directives : List Directive}
      {line : String} {lines : List String}
      (first : directive.Makes (some line))
      (rest : Staged directives lines) :
      Staged (directive :: directives) (line :: lines)
  | none {directive : Directive} {directives : List Directive}
      {lines : List String} (first : directive.Makes none)
      (rest : Staged directives lines) :
      Staged (directive :: directives) lines

theorem staged_iff {directives : List Directive} {lines : List String} :
    Staged directives lines
      ↔ directives.filterMap Directive.line? = lines := by
  constructor
  · intro h
    induction h with
    | nil => rfl
    | line first _ ih =>
        rw [List.filterMap_cons_some first.line?_eq, ih]
    | none first _ ih =>
        rw [List.filterMap_cons_none first.line?_eq, ih]
  · intro h
    rw [← h]
    clear h
    induction directives with
    | nil => exact .nil
    | cons directive directives ih =>
        have hmakes := directive.makes_line?
        cases hline : directive.line? with
        | none =>
            rw [hline] at hmakes
            rw [List.filterMap_cons_none hline]
            exact .none hmakes ih
        | some line =>
            rw [hline] at hmakes
            rw [List.filterMap_cons_some hline]
            exact .line hmakes ih

/-- Every line is made by one of the directives. -/
theorem Staged.exists_makes {directives : List Directive}
    {lines : List String} (h : Staged directives lines) :
    ∀ line ∈ lines, ∃ directive ∈ directives, directive.Makes (some line) := by
  intro line hline
  rw [← staged_iff.1 h] at hline
  obtain ⟨directive, hdirective, hmakes⟩ := List.mem_filterMap.1 hline
  exact ⟨directive, hdirective, Directive.makes_iff.2 hmakes⟩

-- ================================================================ rows

/-- The directives of a row, in the order of its script. -/
def Row.directives (row : Row) : List Directive :=
  [.named changeBackground row.background,
    .standing "Left" row.standingLeft,
    .standing "Center" row.standingCenter,
    .standing "Right" row.standingRight,
    .named playSound row.music,
    .named playSound row.soundEffect,
    .named id row.sequence]

theorem isProper_of_mem_directives {row : Row} :
    ∀ directive ∈ row.directives, directive.IsProper := by
  have hstanding : ∀ slot ∈ ["Left", "Center", "Right"], ∀ cell,
      (Directive.standing slot cell).IsProper := by
    intro slot hslot cell
    show '\n' ∉ slot.toList
    revert slot
    decide
  unfold Row.directives
  simp only [List.forall_mem_cons]
  exact ⟨isCommand_changeBackground, hstanding _ (by decide) _,
    hstanding _ (by decide) _, hstanding _ (by decide) _,
    isCommand_playSound, isCommand_playSound, isCommand_id, nofun⟩

/-- A trimmed cell is blank only when it is empty. -/
theorem commandOf_trim (command : String → String) (cell : String) :
    commandOf command (Text.trim cell)
      = (Directive.named command (Text.trim cell)).line? := by
  rw [Directive.line?]
  unfold commandOf
  exact if_congr (Text.isBlank_trim_iff cell).symm rfl rfl

variable {places : Places} {record : List String} {n : Int}

/-- What the script of a row that was read from a record is made of, before
the cells without a line are left out. -/
theorem sources_ofRecord {row : Row}
    (hrow : row = Row.ofRecord places record n) :
    [commandOf changeBackground row.background]
        ++ (row.standingSlots.map fun (slot, cell) =>
            (Standing.ofCell cell).command? slot)
        ++ [commandOf playSound row.music,
            commandOf playSound row.soundEffect, commandOf id row.sequence]
      = row.directives.map Directive.line? := by
  subst hrow
  unfold Row.ofRecord
  simp only [commandOf_trim]
  rfl

/-- The lines of a row that was read from a record are those of its
directives; none of them is lost for being blank. -/
theorem staged_ofRecord {row : Row}
    (hrow : row = Row.ofRecord places record n) :
    row.staged
      = "\n".intercalate (row.directives.filterMap Directive.line?) := by
  have hkept : (row.directives.filterMap Directive.line?).filter
        (!Text.isBlank ·)
      = row.directives.filterMap Directive.line? := by
    refine List.filter_eq_self.2 fun line hline => ?_
    obtain ⟨directive, hmem, hmakes⟩ :=
      (staged_iff.2 rfl).exists_makes line hline
    rw [Directive.not_blank (isProper_of_mem_directives _ hmem) hmakes]
    rfl
  unfold Row.staged
  simp only
  rw [sources_ofRecord hrow, List.filterMap_map, Function.id_comp, hkept]

/-- The script of a row that was read from a record. Let none of the seven
cells have a line feed, and let the row have a script. The cells make one
list of lines: a line for each that makes one, in the order of background,
left, center, right, music, sound effect and the row's own commands. The
script is empty just when there is no line, and otherwise it is those
lines when it is cut at its line feeds. None of them is blank, and none
has a line feed. -/
theorem lines_of_script {row : Row} {script : String}
    (hrow : row = Row.ofRecord places record n)
    (hplain : ∀ directive ∈ row.directives, '\n' ∉ directive.cell.toList)
    (h : row.script = .ok script) :
    ∃ lines, (∀ other, Staged row.directives other ↔ other = lines)
      ∧ (script = "" ↔ lines = [])
      ∧ (lines ≠ [] → script.toList.splitOn '\n' = lines.map String.toList)
      ∧ ∀ line ∈ lines, Text.isBlank line = false ∧ '\n' ∉ line.toList := by
  obtain ⟨lines, hlines⟩ : ∃ lines,
      lines = row.directives.filterMap Directive.line? := ⟨_, rfl⟩
  have hscript : script = "\n".intercalate lines := by
    rw [Row.script_ok h, staged_ofRecord hrow, hlines]
  have hstaged : Staged row.directives lines := staged_iff.2 hlines.symm
  have hline : ∀ line ∈ lines,
      Text.isBlank line = false ∧ '\n' ∉ line.toList := by
    intro line hmem
    obtain ⟨directive, hdirective, hmakes⟩ :=
      hstaged.exists_makes line hmem
    have hproper := isProper_of_mem_directives directive hdirective
    exact ⟨Directive.not_blank hproper hmakes,
      Directive.one_line hproper (hplain directive hdirective) hmakes⟩
  have hcut : lines ≠ [] →
      script.toList.splitOn '\n' = lines.map String.toList := by
    intro hne
    have hplainLines : ∀ cs ∈ lines.map String.toList, '\n' ∉ cs := by
      refine List.forall_mem_map.2 fun line hmem => (hline line hmem).2
    rw [hscript, String.toList_intercalate]
    exact List.splitOn_intercalate '\n' hplainLines
      (fun hnone => hne (List.map_eq_nil_iff.1 hnone))
  refine ⟨lines, fun other => ?_, ⟨fun hempty => ?_, fun hnone => ?_⟩, hcut,
    hline⟩
  · rw [staged_iff, ← hlines, eq_comm]
  · by_contra hne
    -- the empty script would be cut into one empty line, which is blank
    have hone : [""] = lines := by
      refine (List.map_injective_iff.2 fun _ _ =>
        String.toList_injective) ?_
      rw [← hcut hne, hempty]
      rfl
    have hblank := (hline "" (by rw [← hone]; decide)).1
    cases hblank
  · rw [hscript, hnone]
    rfl

/-- A record with a word in capitals, a pose of an actor in digits of
another script, a pose in three pieces, no music, and commands of its
own. -/
def busyRecord : List String :=
  [" Roof ", "HIDE", "+٣_smile wide", "big_5_smile", " ", "Bell", "Wait(1);"]

/-- The row of that record. -/
def busyRow : Row :=
  .ofRecord (.ofHeader (.ofRecord
    ["BG", "StandingLeft", "StandingCenter", "StandingRight", "BGM", "SFX",
     "Sequence"])) busyRecord 1

def busyLines : List String :=
  ["ChangeBG(Roof);", "HideStanding(Left);",
   "ShowStanding(Center, 3, smile wide);", "PlaySound(Bell);", "Wait(1);"]

/-- Five of the seven cells make a line. -/
theorem lines_busyRow :
    Staged busyRow.directives busyLines
      ∧ ∃ script, busyRow.script = .ok script
        ∧ script.toList.splitOn '\n' = busyLines.map String.toList := by
  have hplain : ∀ directive ∈ busyRow.directives,
      '\n' ∉ directive.cell.toList := by
    decide +kernel
  have hscript : busyRow.script = .ok busyRow.staged := by
    decide +kernel
  have hfive : Staged busyRow.directives busyLines :=
    staged_iff.2 (by decide +kernel)
  obtain ⟨lines, hlines, -, hcut, -⟩ :=
    lines_of_script rfl hplain hscript
  obtain rfl : busyLines = lines := (hlines busyLines).1 hfive
  exact ⟨hfive, _, hscript, hcut (by decide)⟩

end Storyline.Script
