/-
Which content a document can have. The cells of a story sheet are free
text: a speaker cell need not be a number and a standing cell need not be
a pose, and the compiler goes on with the last speaker or without a
command. The one thing that it does not take is a number with too many
digits: in a cell, and as the number of a row where that is to be printed,
as the key of the row or in a report about it.

# What is compared

* the documents that compile, and those without such a number in a
  speaker cell, in front of a pose or at a row whose number is printed
  (`exists_compile_iff`);
* the scripts of a document that compiles, and a reading of the standing
  cells that never fails (`Standing.ofCell`, `Row.script_ok`).

# What carries it

Every reader stops at its fault and goes through when it has none
(`StopsAt`). The faults of a document are put together as its readers
are: first those that the search for a character comes upon, then row by
row the speaker in front of the poses and the key behind them, and the
targets last (`stopsAt_compile`). What the loop carries is told from the
rows in front, so the last speaker, who is named in a report, was read
from a cell and can be printed (`isPrintable_lastSpeaker`).

Main statement: `content_of_compile`.
-/
import Storyline.Proofs.Build.Faults
import Storyline.Proofs.Graph.Accounts
import Storyline.Proofs.Script.Staging

namespace Storyline

open Script (Row)

-- ====================================================== standing cells

namespace Script

namespace Standing

theorem stopsAt_read (cell : String) :
    StopsAt (fault? cell) (read cell) := by
  rw [read_eq]
  unfold StopsAt
  cases fault? cell with
  | none => exact ⟨_, rfl⟩
  | some e => rfl

end Standing

-- ============================================================= scripts

namespace Row

/-- The first error of the standing cells of a row. -/
def poseFault? (row : Row) : Option Error :=
  row.standingSlots.findSome? fun slot => Standing.fault? slot.2

theorem stopsAt_standingCommand? (slot cell : String) :
    StopsAt (Standing.fault? cell) (standingCommand? slot cell) := by
  unfold standingCommand?
  exact (Standing.stopsAt_read cell).bind_ok fun _ _ => ⟨_, rfl⟩

/-- A cell that cannot be used, and has no fault, is passed over. -/
theorem standingCommand?_of_not_isUsable {slot cell : String}
    (hfault : Standing.fault? cell = none)
    (husable : ¬ Standing.IsUsable cell) :
    standingCommand? slot cell = .ok none := by
  unfold standingCommand?
  rw [Standing.read_eq, hfault]
  simp only [Standing.ofCell_of_not_isUsable husable]
  rfl

theorem stopsAt_slots (slots : List (String × String)) :
    StopsAt (slots.findSome? fun slot => Standing.fault? slot.2)
      (slots.mapM fun (slot, cell) => standingCommand? slot cell) :=
  StopsAt.mapM fun slot _ => stopsAt_standingCommand? slot.1 slot.2

theorem stopsAt_commands (row : Row) :
    StopsAt row.poseFault? row.commands := by
  unfold commands
  exact (stopsAt_slots row.standingSlots).bind_ok fun _ _ => ⟨_, rfl⟩

theorem stopsAt_script (row : Row) : StopsAt row.poseFault? row.script :=
  row.stopsAt_commands.bind_ok fun _ _ => ⟨_, rfl⟩

end Row

end Script

-- ============================================================ speakers

namespace Speaker

/-- The error of the speaker cell of a row. -/
def cellFault? (row : Row) : Option Error := row.spoken.fault?

theorem cellFault?_eq (row : Row) : cellFault? row = row.spoken.fault? := rfl

-- so that no cell is read when faults are compared
attribute [irreducible] cellFault?

/-- Whether a speaker cell is reported: it is filled in and no number. -/
def isUnparsable (row : Row) : Bool :=
  (number? row).isNone && !Text.isBlank row.speaker

/-- The last speaker was read from a cell, so the number can be printed. -/
theorem isPrintable_lastSpeaker (rows : List Row) :
    Numeral.isPrintable (lastSpeaker rows) = true := by
  unfold lastSpeaker
  cases h : latest? isRepeatable rows with
  | none => decide +kernel
  | some z =>
      have hmem := (List.mem_filter.1 (List.mem_of_getLast? h)).1
      obtain ⟨row, -, hnumber⟩ := List.mem_filterMap.1 hmem
      unfold number? at hnumber
      cases hspoken : row.spoken with
      | integer w =>
          rw [hspoken] at hnumber
          cases hnumber
          exact Numeral.isPrintable_of_readChars hspoken
      | tooLong _ | notInteger =>
          rw [hspoken] at hnumber
          cases hnumber

end Speaker

namespace Compile

/-- The error of printing the number of a row, where it is printed. -/
def numberFault? (printed : Bool) (row : Row) : Option Error :=
  printFault? (!printed || Numeral.isPrintable row.rowNumber)

theorem numberFault?_eq_none_iff {printed : Bool} {row : Row} :
    numberFault? printed row = none
      ↔ (printed = true → Numeral.isPrintable row.rowNumber = true) := by
  unfold numberFault?
  rw [printFault?_eq_none_iff]
  cases printed <;> simp

end Compile

namespace Speaker

theorem stopsAt_resolve (document : String) {state : State}
    (hlast : Numeral.isPrintable state.last = true) (row : Row) :
    StopsAt ((cellFault? row).or
        (Compile.numberFault? (isUnparsable row) row))
      (resolve document state row) := by
  refine StopsAt.bind_ok ?_ fun _ _ => ⟨_, rfl⟩
  unfold namedActor isUnparsable number?
  rw [cellFault?_eq]
  cases row.spoken with
  | integer z => exact ⟨_, rfl⟩
  | tooLong digits => rfl
  | notInteger =>
      cases hblank : Text.isBlank row.speaker with
      | true => exact ⟨_, rfl⟩
      | false =>
          show StopsAt (printFault? (Numeral.isPrintable row.rowNumber))
            (Numeral.print state.last >>= _)
          rw [Numeral.print_of_isPrintable hlast]
          have hlog := Diagnostic.stopsAt_log [.unparsableSpeaker document
            row.rowNumber row.speaker (Numeral.text state.last)]
          rw [List.all_cons, List.all_nil, Bool.and_true] at hlog
          exact hlog.bind_ok fun _ _ => ⟨_, rfl⟩

/-- Whether a row names a character of the story. -/
def namesCharacter (row : Row) : Bool := (number? row).any isCharacter

/-- The first error of the speaker cells up to the first character of the
story, behind whom nobody is looked for. -/
def searchFault? (rows : List Row) : Option Error :=
  (rows.takeWhile fun row => !namesCharacter row).findSome? cellFault?

theorem searchFault?_cons (row : Row) (rows : List Row) :
    searchFault? (row :: rows)
      = if namesCharacter row then none
        else (cellFault? row).or (searchFault? rows) := by
  unfold searchFault?
  rw [List.takeWhile_cons]
  cases namesCharacter row with
  | true => rfl
  | false => exact StopsAt.findSome?_cons _ _ _

theorem stopsAt_primaryCounterpart (rows : List Row) :
    StopsAt (searchFault? rows) (primaryCounterpart rows) := by
  induction rows with
  | nil => exact ⟨_, rfl⟩
  | cons row rows ih =>
      have hnames : namesCharacter row = row.spoken.value?.any isCharacter :=
        rfl
      unfold primaryCounterpart
      rw [searchFault?_cons, hnames, cellFault?_eq]
      cases row.spoken with
      | tooLong digits => rfl
      | notInteger => exact ih
      | integer z =>
          have hcharacter : isCharacter z = !Actor.isReserved z := rfl
          simp only [Numeral.Reading.value?, Option.any_some, hcharacter]
          cases Actor.isReserved z with
          | true => exact ih
          | false => exact ⟨_, rfl⟩

/-- A row without a number leaves the state as it was, and is spoken by
the last speaker. -/
theorem speak_of_number?_none {counterpart : Int} {before : List Row}
    {row : Row} (h : number? row = none) :
    (((stateAfter (.initial counterpart) before).speak
        ((stateAfter (.initial counterpart) before).named row)).1).speaker
          = lastSpeaker before
      ∧ stateAfter (.initial counterpart) (before ++ [row])
          = stateAfter (.initial counterpart) before := by
  have hlast := last_stateAfter counterpart before
  constructor
  · have hnamed : (stateAfter (.initial counterpart) before).named row
        = lastSpeaker before := by
      unfold State.named
      rw [h, ← hlast]
      rfl
    have hrepeatable : isRepeatable (lastSpeaker before) = true := by
      rw [← hlast, stateAfter_initial]
      exact isRepeatable_recalled counterpart before
    rw [hnamed, speak_of_repeatable _ hrepeatable]
  · rw [stateAfter_initial, stateAfter_initial]
    unfold recalled
    rw [latest?_concat, latest?_concat, h]
    rfl

end Speaker

namespace Compile

variable {heading : Heading} {rows : List Row} {row : Row}

-- ============================================================ documents

/-- Whether a row behind some others has to do with the key of its number:
it has none of its own, or that is claimed. -/
def needsNumber (before : List Row) (row : Row) : Bool :=
  Text.lower row.nodeKey = ""
    || (claimant? before (Text.lower row.nodeKey)).isSome

/-- Whether a row has a target that no row claims. -/
def hasLostTarget (rows : List Row) (row : Row) : Bool :=
  row.linkTargets.any fun target =>
    !isCrossTarget target && (claimant? rows (Text.lower target)).isNone

/-- Whether the number of the row at a place is printed, in its key or in
a report. -/
def isNumbered (rows : List Row) (i : Nat) (row : Row) : Bool :=
  needsNumber (rows.take i) row || Speaker.isUnparsable row
    || hasLostTarget rows row

theorem needsNumber_claimAll (n : Int) (before : List Row) (row : Row) :
    (KeyIndex.claimAll [] n before).needsNumber row
      = needsNumber before row := by
  have htaken := isTaken_claimAll n before row
  unfold KeyIndex.needsNumber needsNumber
  rw [Bool.eq_iff_iff, Bool.or_eq_true, Bool.or_eq_true, htaken,
    decide_eq_true_iff, decide_eq_true_iff, lower_eq_empty]
  constructor
  · exact Or.imp_right And.right
  · intro h
    by_cases hempty : row.nodeKey = ""
    · exact Or.inl hempty
    · exact Or.inr ⟨fun h => hempty (lower_eq_empty.1 h),
        h.resolve_left hempty⟩

/-- The error of a row behind some others: that of its speaker, the first
of its poses, or that of its key. -/
def rowFault? (before : List Row) (row : Row) : Option Error :=
  ((Speaker.cellFault? row).or
      (numberFault? (Speaker.isUnparsable row) row)).or
    (row.poseFault?.or (numberFault? (needsNumber before row) row))

/-- The first error of some rows, each behind the ones in front of it. -/
def draftFault? (rows : List Row) : Option Error :=
  rows.zipIdx.findSome? fun (row, i) => rowFault? (rows.take i) row

/-- The error of the reports on targets. -/
def targetFault? (rows : List Row) : Option Error :=
  rows.findSome? fun row => numberFault? (hasLostTarget rows row) row

/-- The error of a document. -/
def documentFault? (rows : List Row) : Option Error :=
  (Speaker.searchFault? rows).or
    ((draftFault? (meaningful rows)).or (targetFault? (meaningful rows)))

/-- The reports on a key and the key itself have one fault: a key that is
reported is the one of a number. -/
theorem stopsAt_key (n : Int) (before : List Row) (row : Row)
    {α : Type} {next : String → Except Error α} {later : Option Error}
    (hnext : ∀ key, key = (KeyIndex.claimAll [] n before).keyOf row →
      StopsAt later (next key)) :
    StopsAt ((numberFault? (needsNumber before row) row).or later) (do
      Diagnostic.log
        ((KeyIndex.claimAll [] n before).reports heading.title row)
      next (← (KeyIndex.claimAll [] n before).keyFor row)) := by
  have hkey := stopsAt_keyFor (KeyIndex.claimAll [] n before) row
  have hneeds := needsNumber_claimAll n before row
  generalize KeyIndex.claimAll [] n before = index at *
  have hfault : printFault? (index.hasKey row)
      = numberFault? (needsNumber before row) row := by
    unfold KeyIndex.hasKey numberFault?
    rw [hneeds]
  have hrest : StopsAt ((numberFault? (needsNumber before row) row).or later)
      (index.keyFor row >>= next) := by
    rw [← hfault]
    exact hkey.bind fun key h => hnext key (keyFor_eq_ok_iff.1 h).2
  unfold KeyIndex.reports
  cases htaken : index.isTaken row with
  | false => exact hrest
  | true =>
      have hprinted : needsNumber before row = true := by
        rw [← hneeds]
        unfold KeyIndex.needsNumber
        rw [htaken, Bool.or_true]
      rw [if_pos rfl, Diagnostic.log_eq, List.all_cons, List.all_nil,
        Bool.and_true]
      show StopsAt _ ((if Numeral.isPrintable row.rowNumber then _ else _)
        >>= _)
      cases hrow : Numeral.isPrintable row.rowNumber with
      | true => exact hrest
      | false =>
          unfold numberFault?
          rw [hprinted, hrow]
          rfl

/-- The loop stops at the first fault of the rows that are left, each
behind all rows in front of it. -/
theorem stopsAt_draftFrom (counterpart n : Int) (before : List Row) :
    StopsAt ((rows.zipIdx before.length).findSome? fun (row, i) =>
        rowFault? ((before ++ rows).take i) row)
      (draftFrom heading
        (Speaker.stateAfter (.initial counterpart) before)
        (KeyIndex.claimAll [] n before) (n + before.length) rows) := by
  induction rows generalizing before with
  | nil => exact ⟨_, rfl⟩
  | cons row rows ih =>
      have hlast : Numeral.isPrintable
          (Speaker.stateAfter (.initial counterpart) before).last
            = true := by
        rw [Speaker.last_stateAfter]
        exact Speaker.isPrintable_lastSpeaker before
      have hfront : (before ++ row :: rows).take before.length = before :=
        List.take_left
      have hrow : rowFault? before row
          = ((Speaker.cellFault? row).or
              (numberFault? (Speaker.isUnparsable row) row)).or
            (row.poseFault?.or
              (numberFault? (needsNumber before row) row)) := rfl
      rw [List.zipIdx_cons, StopsAt.findSome?_cons]
      simp only [hfront]
      unfold draftFrom
      rw [hrow, Option.or_assoc]
      refine (Speaker.stopsAt_resolve heading.title hlast row).bind
        fun resolved hvoice => ?_
      obtain ⟨voice, after, reports⟩ := resolved
      rw [Option.or_assoc]
      refine row.stopsAt_script.bind fun script _ => ?_
      refine stopsAt_key n before row fun key hkey => ?_
      have hrest := ih (before ++ [row])
      rw [Speaker.stateAfter_concat, KeyIndex.claimAll_concat,
        List.append_assoc, List.singleton_append, List.length_append,
        List.length_singleton, Int.natCast_succ, ← Int.add_assoc,
        ← (Speaker.resolve_ok hvoice).2, ← hkey] at hrest
      exact hrest.bind_ok fun _ _ => ⟨_, rfl⟩

theorem stopsAt_draft (counterpart : Int) :
    StopsAt (draftFault? rows)
      (draftFrom heading (.initial counterpart) [] (rootId + 1) rows) := by
  have hstart : StopsAt
      ((rows.zipIdx ([] : List Row).length).findSome? fun (row, i) =>
        rowFault? (([] ++ rows).take i) row)
      (draftFrom heading (Speaker.stateAfter (.initial counterpart) [])
        (KeyIndex.claimAll [] (rootId + 1) [])
        (rootId + 1 + ([] : List Row).length) rows) :=
    stopsAt_draftFrom counterpart (rootId + 1) []
  rwa [List.length_nil, Int.natCast_zero, Int.add_zero] at hstart

theorem all_isPrintable_lostTargets (document : String) (rows : List Row)
    (row : Row) :
    (lostTargets document rows row).all Diagnostic.isPrintable
      = (!hasLostTarget rows row
          || Numeral.isPrintable row.rowNumber) := by
  have hall : ∀ targets : List String, ∀ lost : String → Bool,
      (((targets.filter lost).map
          (Diagnostic.danglingLink document row.rowNumber)).all
            Diagnostic.isPrintable)
        = (!targets.any lost || Numeral.isPrintable row.rowNumber) := by
    intro targets lost
    have hprintable : Diagnostic.isPrintable
        ∘ Diagnostic.danglingLink document row.rowNumber
          = fun _ => Numeral.isPrintable row.rowNumber := rfl
    rw [List.all_map, hprintable, List.all_filter]
    induction targets with
    | nil => rfl
    | cons target rest ih =>
        rw [List.all_cons, ih, List.any_cons]
        cases lost target <;> cases Numeral.isPrintable row.rowNumber <;>
          simp
  exact hall _ _

/-- The reports on targets stop at the first row with a lost one whose
number cannot be printed. -/
theorem stopsAt_linkReports {counterpart : Int} {draft : Draft}
    (h : draftFrom heading (.initial counterpart) [] (rootId + 1) rows
      = .ok draft) :
    StopsAt (targetFault? rows)
      (Diagnostic.log (draft.linkReports heading)) := by
  have hlog := Diagnostic.stopsAt_log (draft.linkReports heading)
  rw [linkReports_eq h, List.all_flatMap, printFault?_all] at hlog
  simp only [all_isPrintable_lostTargets] at hlog
  rw [linkReports_eq h]
  exact hlog

theorem stopsAt_compile (hissues : heading.issues = []) :
    StopsAt (documentFault? rows) (compile rows heading) := by
  unfold compile
  refine (Speaker.stopsAt_primaryCounterpart rows).bind
    fun counterpart _ => ?_
  rw [if_neg (not_not.2 hissues)]
  refine (stopsAt_draft counterpart).bind fun draft h => ?_
  exact (stopsAt_linkReports h).bind_ok fun _ _ => ⟨_, rfl⟩

/-- A row without a number that is too long, in its speaker cell or in
front of the pose of a standing cell. -/
structure IsReadable (row : Row) : Prop where
  speaker : ∀ digits, row.spoken ≠ .tooLong digits
  poses : ∀ slot ∈ row.standingSlots, ∀ actor look,
    Script.Standing.IsPose slot.2 actor look →
      ∀ digits, Numeral.readChars actor ≠ .tooLong digits

/-- The content of a document that is taken: every row is readable, and
where the number of a row is printed, it is not too long. -/
structure IsAcceptable (rows : List Row) : Prop where
  readable : ∀ row ∈ rows, IsReadable row
  printable : ∀ i row, rows[i]? = some row →
    isNumbered rows i row = true →
      Numeral.isPrintable row.rowNumber = true

theorem rowFault?_eq_none_iff {before : List Row} :
    rowFault? before row = none
      ↔ IsReadable row
        ∧ (Speaker.isUnparsable row = true →
            Numeral.isPrintable row.rowNumber = true)
        ∧ (needsNumber before row = true →
            Numeral.isPrintable row.rowNumber = true) := by
  unfold rowFault? Row.poseFault?
  simp only [Option.or_eq_none_iff, Speaker.cellFault?_eq,
    Numeral.Reading.fault?_eq_none_iff, List.findSome?_eq_none_iff,
    Script.Standing.fault?_eq_none_iff, numberFault?_eq_none_iff]
  constructor
  · rintro ⟨⟨hspeaker, hunparsable⟩, hposes, hkey⟩
    exact ⟨⟨hspeaker, hposes⟩, hunparsable, hkey⟩
  · rintro ⟨hreadable, hunparsable, hkey⟩
    exact ⟨⟨hreadable.speaker, hunparsable⟩, hreadable.poses, hkey⟩

theorem isAcceptable_iff :
    IsAcceptable rows
      ↔ draftFault? rows = none ∧ targetFault? rows = none := by
  unfold draftFault? targetFault?
  simp only [List.findSome?_eq_none_iff, Prod.forall,
    List.mk_mem_zipIdx_iff_getElem?, rowFault?_eq_none_iff,
    numberFault?_eq_none_iff]
  constructor
  · intro h
    refine ⟨fun row i hrow => ⟨h.readable row (List.mem_of_getElem? hrow),
      fun hprinted => h.printable i row hrow ?_,
      fun hprinted => h.printable i row hrow ?_⟩,
      fun row hmem hprinted => ?_⟩
    · simp [isNumbered, hprinted]
    · simp [isNumbered, hprinted]
    · obtain ⟨i, hrow⟩ := List.mem_iff_getElem?.1 hmem
      exact h.printable i row hrow (by simp [isNumbered, hprinted])
  · rintro ⟨hrows, htargets⟩
    refine ⟨fun row hmem => ?_, fun i row hrow hnumbered => ?_⟩
    · obtain ⟨i, hrow⟩ := List.mem_iff_getElem?.1 hmem
      exact (hrows row i hrow).1
    · obtain ⟨-, hunparsable, hkey⟩ := hrows row i hrow
      unfold isNumbered at hnumbered
      rw [Bool.or_eq_true, Bool.or_eq_true] at hnumbered
      rcases hnumbered with (hneeds | hcell) | hlost
      · exact hkey hneeds
      · exact hunparsable hcell
      · exact htargets row (List.mem_of_getElem? hrow) hlost

theorem documentFault?_eq_none_iff :
    documentFault? rows = none ↔ IsAcceptable (meaningful rows) := by
  unfold documentFault?
  rw [Option.or_eq_none_iff, Option.or_eq_none_iff, ← isAcceptable_iff]
  refine and_iff_right_of_imp fun hacceptable => ?_
  unfold Speaker.searchFault?
  rw [List.findSome?_eq_none_iff]
  intro row hrow
  rw [Speaker.cellFault?_eq, Numeral.Reading.fault?_eq_none_iff]
  have hmem := (List.takeWhile_sublist _).subset hrow
  cases hmeaning : row.isMeaningful with
  | true =>
      exact (hacceptable.readable row
        (List.mem_filter.2 ⟨hmem, hmeaning⟩)).speaker
  | false =>
      intro digits
      rw [Speaker.spoken_of_not_meaningful hmeaning]
      exact fun h => nomatch h

/-- A document compiles just when its rows can be taken. -/
theorem exists_compile_iff (hissues : heading.issues = []) :
    (∃ compiled, compile rows heading = .ok compiled)
      ↔ IsAcceptable (meaningful rows) := by
  have hstops : StopsAt (documentFault? rows) (compile rows heading) :=
    stopsAt_compile hissues
  rw [← documentFault?_eq_none_iff]
  constructor
  · rintro ⟨compiled, h⟩
    exact hstops.eq_none h
  · intro hnone
    rw [hnone] at hstops
    exact hstops

/-- The errors that content makes: that of a number with too many digits
in a cell, and that of a row whose number has too many to be printed. -/
def IsContentError (rows : List Row) (e : Error) : Prop :=
  (∃ digits, Numeral.digitLimit < digits ∧ e = .longNumeral digits)
    ∨ (e = .unprintableNumber
      ∧ ∃ row ∈ rows, Numeral.isPrintable row.rowNumber = false)

theorem isContentError_of_numberFault? {printed : Bool} {e : Error}
    (hmem : row ∈ rows) (h : numberFault? printed row = some e) :
    IsContentError rows e := by
  refine Or.inr ⟨eq_of_printFault? h, row, hmem, ?_⟩
  unfold numberFault? printFault? at h
  cases hrow : Numeral.isPrintable row.rowNumber with
  | false => rfl
  | true =>
      rw [hrow, Bool.or_true] at h
      cases h

theorem isContentError_of_rowFault? {before : List Row} {e : Error}
    (hmem : row ∈ rows) (h : rowFault? before row = some e) :
    IsContentError rows e := by
  rcases Option.or_eq_some_iff.1 h with h | ⟨-, h⟩
  · rcases Option.or_eq_some_iff.1 h with hspeaker | ⟨-, hprinted⟩
    · rw [Speaker.cellFault?_eq] at hspeaker
      exact Or.inl (Numeral.longNumeral_of_fault? hspeaker)
    · exact isContentError_of_numberFault? hmem hprinted
  · rcases Option.or_eq_some_iff.1 h with hposes | ⟨-, hprinted⟩
    · obtain ⟨slot, -, hpose⟩ := List.exists_of_findSome?_eq_some hposes
      exact Or.inl (Script.Standing.longNumeral_of_fault? hpose)
    · exact isContentError_of_numberFault? hmem hprinted

/-- A document has no other errors. -/
theorem isContentError_of_documentFault? {e : Error}
    (h : documentFault? rows = some e) :
    IsContentError (meaningful rows) e := by
  rcases Option.or_eq_some_iff.1 h with h | ⟨-, h⟩
  · obtain ⟨row, -, hspeaker⟩ := List.exists_of_findSome?_eq_some h
    rw [Speaker.cellFault?_eq] at hspeaker
    exact Or.inl (Numeral.longNumeral_of_fault? hspeaker)
  · rcases Option.or_eq_some_iff.1 h with h | ⟨-, h⟩
    · obtain ⟨⟨row, i⟩, hmem, hrow⟩ := List.exists_of_findSome?_eq_some h
      exact isContentError_of_rowFault?
        (List.mem_of_getElem? (List.mk_mem_zipIdx_iff_getElem?.1 hmem)) hrow
    · obtain ⟨row, hmem, hrow⟩ := List.exists_of_findSome?_eq_some h
      exact isContentError_of_numberFault? hmem hrow

theorem Heading.issues_eq_nil (hdocument : 1 ≤ heading.documentId)
    (htitle : heading.title ≠ "") : heading.issues = [] := by
  unfold Heading.issues
  rw [if_neg (by omega), if_neg htitle]
  rfl

/-- The content of a document. Let a document have a positive number and
a title. It compiles just when its meaningful rows can be taken: they are
readable, and a row whose number is printed, for want of a free key of its
own, for a speaker cell that is reported or for a lost target, has a
number that can be; otherwise the error is that of a number with too many
digits, in a cell or of such a row. When it compiles, every meaningful row
has a node, numbered by its place, with the script that its cells ask for.
A speaker cell that is no number is reported if it is filled in, the row
is spoken by the last speaker, and nothing else comes of it. A standing
cell that cannot be used gives no command. -/
theorem content_of_compile (hdocument : 1 ≤ heading.documentId)
    (htitle : heading.title ≠ "") :
    ((∃ compiled, compile rows heading = .ok compiled)
        ↔ IsAcceptable (meaningful rows))
      ∧ (∀ e, compile rows heading = .error e →
          IsContentError (meaningful rows) e)
      ∧ ∀ compiled, compile rows heading = .ok compiled →
          ∃ counterpart draft,
            draftFrom heading (.initial counterpart) [] (rootId + 1)
                (meaningful rows) = .ok draft
              ∧ compiled = finish heading counterpart draft
              ∧ compiled.rowCount = (meaningful rows).length
              ∧ draft.authored.length = (meaningful rows).length
              ∧ ∀ i row, (meaningful rows)[i]? = some row →
                  let before := (meaningful rows).take i
                  let state := Speaker.stateAfter (.initial counterpart) before
                  let last := Speaker.lastSpeaker before
                  ∃ voice after,
                    draft.authored[i]? = some ⟨row, nodeOf heading
                        (numberOf i) row voice row.staged⟩
                      ∧ Speaker.resolve heading.title state row
                          = .ok (voice, after, Speaker.cellReports
                              heading.title last row)
                      ∧ (Speaker.number? row = none →
                          voice.speaker = last ∧ after = state)
                      ∧ ∀ slot ∈ row.standingSlots,
                          ¬ Script.Standing.IsUsable slot.2 →
                            Script.standingCommand? slot.1 slot.2
                              = .ok none := by
  have hissues := Heading.issues_eq_nil hdocument htitle
  refine ⟨exists_compile_iff hissues, fun e h => ?_, fun compiled h => ?_⟩
  · have hstops : StopsAt (documentFault? rows) (compile rows heading) :=
      stopsAt_compile hissues
    cases hfault : documentFault? rows with
    | none =>
        rw [hfault, h] at hstops
        obtain ⟨compiled, hcompiled⟩ := hstops
        cases hcompiled
    | some fault =>
        rw [hfault, h] at hstops
        obtain rfl : e = fault := Except.error.inj hstops
        exact isContentError_of_documentFault? hfault
  · obtain ⟨counterpart, draft, -, -, hdraft, rfl⟩ := compile_ok h
    have hdrafted := (drafted_of_draftFrom hdraft).1
    refine ⟨counterpart, draft, hdraft, rfl, hdrafted.length_eq,
      hdrafted.length_eq, fun i row hrow => ?_⟩
    obtain ⟨voice, after, reports, script, hvoice, hscript, hget⟩ :=
      authored_of_draftFrom hdraft hrow
    obtain rfl := Script.Row.script_ok hscript
    obtain ⟨rfl, -⟩ := Speaker.reports_of_resolve hvoice
    obtain ⟨rfl, rfl⟩ := Speaker.resolve_ok hvoice
    rw [Speaker.last_stateAfter] at hvoice
    rw [rootId_add_eq_numberOf] at hget
    refine ⟨_, _, hget, hvoice, fun hnone => ?_, fun slot hslot husable => ?_⟩
    · obtain ⟨hspeaker, hstate⟩ := Speaker.speak_of_number?_none hnone
      refine ⟨hspeaker, ?_⟩
      rw [← Speaker.stateAfter_concat]
      exact hstate
    · have hreadable : IsReadable row :=
        ((exists_compile_iff hissues).1 ⟨_, h⟩).readable row
          (List.mem_of_getElem? hrow)
      exact Script.Row.standingCommand?_of_not_isUsable
        ((Script.Standing.fault?_eq_none_iff slot.2).2
          (hreadable.poses slot hslot)) husable

/-- A row with a word for its speaker, and with a pose of nobody, a pose in
three pieces and one of an actor in digits of another script. -/
def freeTextRow : Row :=
  { spokenRow 2 "nobody" "Hm." "" [] with
    standingLeft := "nobody_smile"
    standingCenter := "5_big_smile"
    standingRight := "٥_smile" }

/-- The row behind one with a proper speaker. -/
def freeTextStory : List Row := [spokenRow 1 "3" "Hi." "" [], freeTextRow]

/-- The second row is spoken by the last speaker and stages the one good
pose. -/
theorem content_freeTextStory :
    ∃ counterpart draft node,
      compile freeTextStory ⟨1, "Demo"⟩
          = .ok (finish ⟨1, "Demo"⟩ counterpart draft)
        ∧ draft.authored.length = 2
        ∧ draft.authored[1]? = some ⟨freeTextRow, node⟩
        ∧ node.speaker = 3
        ∧ node.sequenceScript = "ShowStanding(Right, 5, smile);" := by
  obtain ⟨haccepted, -, hcontent⟩ :=
    @content_of_compile ⟨1, "Demo"⟩ freeTextStory (by decide) (by decide)
  have hacceptable : IsAcceptable (meaningful freeTextStory) :=
    documentFault?_eq_none_iff.1 (by decide +kernel)
  obtain ⟨compiled, h⟩ := haccepted.2 hacceptable
  obtain ⟨counterpart, draft, -, rfl, -, hlength, hrows⟩ :=
    hcontent compiled h
  obtain ⟨voice, after, hget, -, hrepeats, -⟩ :=
    hrows 1 freeTextRow (by decide +kernel)
  have hspeaker := (hrepeats (by decide +kernel)).1
  refine ⟨counterpart, draft, _, h, hlength.trans (by decide +kernel), hget,
    hspeaker.trans (by decide +kernel), ?_⟩
  show freeTextRow.staged = _
  decide +kernel

/-- A row whose speaker is written in so many ones. -/
def onesSpeakerRow (n : Nat) : Row :=
  spokenRow 1 (String.ofList (List.replicate n '1')) "Hi." "" []

/-- A row with the pose of an actor who is written in so many ones. -/
def onesPoseRow (n : Nat) : Row :=
  { spokenRow 1 "2" "Hi." "" [] with
    standingLeft :=
      String.ofList (List.replicate n '1' ++ '_' :: "smile".toList) }

theorem documentFault?_onesSpeakerRow {n : Nat}
    (h : Numeral.digitLimit < n) :
    documentFault? [onesSpeakerRow n] = some (.longNumeral n) := by
  have hspoken : (onesSpeakerRow n).spoken = .tooLong n := by
    show Numeral.readChars (String.ofList _).toList = _
    rw [String.toList_ofList]
    exact Numeral.readChars_ones h
  unfold documentFault?
  rw [Speaker.searchFault?_cons, Speaker.cellFault?_eq]
  unfold Speaker.namesCharacter Speaker.number?
  rw [hspoken]
  rfl

theorem documentFault?_onesPoseRow {n : Nat} (h : Numeral.digitLimit < n) :
    documentFault? [onesPoseRow n] = some (.longNumeral n) := by
  have hones : '_' ∉ List.replicate n '1' := fun hmem =>
    absurd (List.eq_of_mem_replicate hmem) (by decide)
  have hcell : (Text.trim (onesPoseRow n).standingLeft).toList
      = List.replicate n '1' ++ '_' :: "smile".toList := by
    show (Text.trim (String.ofList _)).toList = _
    rw [Text.toList_trim, String.toList_ofList]
    refine Text.trimChars_of_not_blank fun c hc => ?_
    have hend : ('_' :: "smile".toList).all (!Text.isBlankChar ·) = true := by
      decide
    rcases List.mem_append.1 hc with hc | hc
    · rw [List.eq_of_mem_replicate hc]
      decide
    · simpa using List.all_eq_true.1 hend c hc
  have hcellFault : Script.Standing.fault? (onesPoseRow n).standingLeft
      = some (.longNumeral n) := by
    have hpose : Script.Standing.IsPose (onesPoseRow n).standingLeft
        (List.replicate n '1') "smile".toList :=
      ⟨hcell, hones, by decide⟩
    rw [Script.Standing.fault?_of_isPose hpose, Numeral.readChars_ones h]
    rfl
  have hposeFault : (onesPoseRow n).poseFault? = some (.longNumeral n) := by
    show (("Left", (onesPoseRow n).standingLeft) :: _).findSome? _ = _
    rw [StopsAt.findSome?_cons, hcellFault]
    rfl
  have hspoken : (onesPoseRow n).spoken = .integer 2 := by
    show Numeral.read "2" = _
    decide +kernel
  have hrowFault : rowFault? [] (onesPoseRow n) = some (.longNumeral n) := by
    unfold rowFault? Speaker.isUnparsable Speaker.number?
    rw [Speaker.cellFault?_eq, hspoken, hposeFault]
    rfl
  have hmeaning : (onesPoseRow n).isMeaningful = true := by
    show (spokenRow 1 "2" "Hi." "" []).isMeaningful = true
    decide +kernel
  have hmeaningful : meaningful [onesPoseRow n] = [onesPoseRow n] :=
    List.filter_cons_of_pos hmeaning
  have hdraftFault : draftFault? [onesPoseRow n]
      = some (.longNumeral n) := by
    show ((onesPoseRow n, 0) :: _).findSome? _ = _
    rw [StopsAt.findSome?_cons]
    show (rowFault? [] (onesPoseRow n)).or _ = _
    rw [hrowFault]
    rfl
  unfold documentFault?
  rw [Speaker.searchFault?_cons, hmeaningful, hdraftFault]
  unfold Speaker.namesCharacter Speaker.number?
  rw [hspoken]
  rfl

/-- Neither row is taken, though the one has no speaker who can be used
and the other no pose that can be shown. -/
theorem ones_notTaken :
    compile [onesSpeakerRow 4301] ⟨1, "Demo"⟩ = .error (.longNumeral 4301)
      ∧ compile [onesPoseRow 4301] ⟨1, "Demo"⟩
          = .error (.longNumeral 4301) := by
  have hlimit : Numeral.digitLimit < 4301 := by decide
  have hstops : ∀ row e, documentFault? [row] = some e →
      compile [row] ⟨1, "Demo"⟩ = .error e := by
    intro row e hfault
    have hstop : StopsAt (documentFault? [row])
        (compile [row] ⟨1, "Demo"⟩) := stopsAt_compile rfl
    rw [hfault] at hstop
    exact hstop
  exact ⟨hstops _ _ (documentFault?_onesSpeakerRow hlimit),
    hstops _ _ (documentFault?_onesPoseRow hlimit)⟩

end Compile

end Storyline
