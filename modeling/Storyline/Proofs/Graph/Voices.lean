/-
Who speaks a row and who listens, said with the numbers in the speaker
cells alone. The compiler carries two actors from row to row, the last
speaker and the last character of the story, and the rows change them by
rules of their own: an option changes neither, and a row without a number
repeats the last speaker, who may be a character and is then entered as
the last one once more.

# What is compared

The state that is carried, and a look-up in the rows themselves: the last
speaker is the latest number that is no option, and the last character
the latest number of a character (`stateAfter_initial`).

# What carries it

Repeating the last speaker is the one step that is not a look-up in
itself. It changes nothing, because the latest number that is no option
is also the latest of a character, if it is one (`latest?_of_latest?`).

Consumed by the account of the nodes of a compiled document.
-/
import Mathlib.Data.List.Basic
import Mathlib.Data.List.Induction
import Mathlib.Data.List.TakeWhile
import Storyline.Graph.Compile
import Storyline.Proofs.Diagnostic

namespace Storyline

open Script (Row)

namespace Speaker

-- ========================================================= the numbers

/-- The number in the speaker cell of a row, if there is one. -/
def number? (row : Row) : Option Int := row.spoken.value?

/-- The numbers in the speaker cells of some rows, in order. -/
def numbers (rows : List Row) : List Int := rows.filterMap number?

/-- The last number of a kind in some rows. -/
def latest? (kind : Int → Bool) (rows : List Row) : Option Int :=
  ((numbers rows).filter kind).getLast?

/-- The first number of a kind in some rows. -/
def earliest? (kind : Int → Bool) (rows : List Row) : Option Int :=
  ((numbers rows).filter kind).head?

/-- An actor whom a later row can repeat: anyone but an option. -/
def isRepeatable (actor : Int) : Bool := actor ≠ Actor.option

/-- A character of the story. -/
def isCharacter (actor : Int) : Bool := !Actor.isReserved actor

theorem isCharacter_eq (actor : Int) :
    isCharacter actor
      = (isRepeatable actor && !Actor.facesCounterpart actor) := by
  unfold isCharacter isRepeatable Actor.isReserved Actor.facesCounterpart
  by_cases h : actor = Actor.option <;> simp [h]

theorem latest?_concat (kind : Int → Bool) (rows : List Row) (row : Row) :
    latest? kind (rows ++ [row])
      = ((number? row).filter kind).or (latest? kind rows) := by
  unfold latest? numbers
  rw [List.filterMap_append, List.filter_append, List.getLast?_append]
  congr 1
  cases hnumber : number? row with
  | none => simp [hnumber]
  | some z =>
      cases hkind : kind z <;> simp [hnumber, hkind, Option.filter_some]

theorem kind_of_latest? {kind : Int → Bool} {rows : List Row} {z : Int}
    (h : latest? kind rows = some z) : kind z = true :=
  (List.mem_filter.1 (List.mem_of_getLast? h)).2

/-- The latest number of a kind is the latest of a smaller kind too, if
it is of that kind. -/
theorem latest?_of_latest? {kind part : Int → Bool} {rows : List Row}
    {z : Int} (hpart : ∀ a, part a = true → kind a = true)
    (h : latest? kind rows = some z) (hz : part z = true) :
    latest? part rows = some z := by
  obtain ⟨before, hbefore⟩ := List.getLast?_eq_some_iff.1 h
  have hsplit : (numbers rows).filter part
      = ((numbers rows).filter kind).filter part := by
    rw [List.filter_filter]
    refine List.filter_congr fun a _ => ?_
    cases ha : part a with
    | false => rfl
    | true => rw [hpart a ha]; rfl
  unfold latest?
  rw [hsplit, hbefore, List.filter_append]
  simp [hz]

/-- A row without a meaning says nothing in its speaker cell. -/
theorem spoken_of_not_meaningful {row : Row}
    (h : row.isMeaningful = false) : row.spoken = .notInteger := by
  have hblank : Text.isBlank row.speaker = true := by
    unfold Row.isMeaningful at h
    simp only [Bool.not_eq_false', Bool.and_eq_true] at h
    exact h.2
  exact Numeral.read_of_isBlank hblank

theorem number?_of_not_meaningful {row : Row}
    (h : row.isMeaningful = false) : number? row = none := by
  unfold number?
  rw [spoken_of_not_meaningful h]
  rfl

theorem numbers_meaningful (rows : List Row) :
    numbers (rows.filter (·.isMeaningful)) = numbers rows := by
  unfold numbers
  rw [List.filterMap_filter]
  refine List.filterMap_congr fun row _ => ?_
  cases h : row.isMeaningful with
  | true => rfl
  | false => rw [number?_of_not_meaningful h]; rfl

/-- The first character is found by looking through all rows. -/
theorem primaryCounterpart_eq {rows : List Row} {actor : Int}
    (h : primaryCounterpart rows = .ok actor) :
    actor = (earliest? isCharacter rows).getD Actor.defaultCounterpart := by
  induction rows with
  | nil =>
      cases h
      rfl
  | cons row rows ih =>
      unfold primaryCounterpart at h
      unfold earliest? numbers
      rw [List.filterMap_cons]
      unfold number?
      cases hspoken : row.spoken with
      | tooLong digits =>
          rw [hspoken] at h
          cases h
      | notInteger =>
          rw [hspoken] at h
          exact ih h
      | integer z =>
          simp only [hspoken] at h
          simp only [Numeral.Reading.value?]
          by_cases hreserved : Actor.isReserved z = true
          · rw [if_pos hreserved] at h
            rw [List.filter_cons_of_neg (by simp [isCharacter, hreserved])]
            exact ih h
          · rw [if_neg hreserved] at h
            cases h
            rw [List.filter_cons_of_pos
              (by simpa [isCharacter] using hreserved)]
            rfl

-- =========================================================== the state

/-- The actor whom a row names, or repeats. -/
def State.named (state : State) (row : Row) : Int :=
  (number? row).getD state.last

/-- What a row leaves behind. -/
def State.after (state : State) (row : Row) : State :=
  (state.speak (state.named row)).2

/-- What some rows leave behind. -/
def stateAfter (state : State) (rows : List Row) : State :=
  rows.foldl State.after state

theorem stateAfter_concat (state : State) (rows : List Row) (row : Row) :
    stateAfter state (rows ++ [row]) = (stateAfter state rows).after row :=
  List.foldl_append ..

/-- The report on a speaker cell that is filled in and is no number, given
who is repeated for it. -/
def cellReports (document : String) (last : Int) (row : Row) :
    List Diagnostic :=
  if number? row = none ∧ Text.isBlank row.speaker = false then
    [.unparsableSpeaker document row.rowNumber row.speaker
      (Numeral.text last)]
  else []

/-- The actor whom a row names or repeats, with the report on its cell,
which has been printed. -/
theorem namedActor_ok {document : String} {state : State} {row : Row}
    {actor : Int} {reports : List Diagnostic}
    (h : namedActor document state row = .ok (actor, reports)) :
    actor = state.named row
      ∧ reports = cellReports document state.last row
      ∧ Diagnostic.log reports = .ok () := by
  unfold namedActor at h
  unfold State.named cellReports number?
  cases hspoken : row.spoken with
  | integer z =>
      rw [hspoken] at h
      cases h
      exact ⟨rfl, rfl, rfl⟩
  | tooLong digits =>
      rw [hspoken] at h
      cases h
  | notInteger =>
      simp only [hspoken] at h
      cases hblank : Text.isBlank row.speaker with
      | true =>
          rw [hblank] at h
          cases h
          exact ⟨rfl, rfl, rfl⟩
      | false =>
          rw [hblank, if_neg Bool.false_ne_true] at h
          obtain ⟨last, hlast, h⟩ := Error.bind_eq_ok.1 h
          obtain ⟨_, hlog, h⟩ := Error.bind_eq_ok.1 h
          cases h
          rw [Numeral.print_eq_ok hlast] at hlog ⊢
          exact ⟨rfl, rfl, hlog⟩

/-- A voice that is resolved is the one of the actor whom the row names
or repeats. -/
theorem resolve_ok {document : String} {state after : State} {row : Row}
    {voice : Voice} {reports : List Diagnostic}
    (h : resolve document state row = .ok (voice, after, reports)) :
    voice = (state.speak (state.named row)).1 ∧ after = state.after row := by
  obtain ⟨⟨actor, named⟩, hnamed, h⟩ := Error.bind_eq_ok.1 h
  obtain ⟨rfl, -, -⟩ := namedActor_ok hnamed
  cases h
  exact ⟨rfl, rfl⟩

/-- What is reported when a row is resolved, and has been printed. -/
theorem reports_of_resolve {document : String} {state after : State}
    {row : Row} {voice : Voice} {reports : List Diagnostic}
    (h : resolve document state row = .ok (voice, after, reports)) :
    reports = cellReports document state.last row
      ∧ Diagnostic.log reports = .ok () := by
  obtain ⟨⟨actor, named⟩, hnamed, h⟩ := Error.bind_eq_ok.1 h
  cases h
  exact (namedActor_ok hnamed).2

theorem speak_option (state : State) :
    state.speak Actor.option
      = (⟨Actor.player, state.listenerTo Actor.player, true⟩, state) :=
  if_pos rfl

theorem speak_of_repeatable (state : State) {actor : Int}
    (h : isRepeatable actor = true) :
    state.speak actor
      = (⟨actor, state.listenerTo actor, false⟩,
          { state with
            last := actor
            counterpart := if Actor.facesCounterpart actor then
              state.counterpart else actor }) :=
  if_neg (of_decide_eq_true h)

/-- The state that the look-ups in some rows give. -/
def recalled (counterpart : Int) (rows : List Row) : State :=
  { last := (latest? isRepeatable rows).getD Actor.narrator
    counterpart := (latest? isCharacter rows).getD counterpart
    fallback := Actor.defaultCounterpart }

/-- The last speaker is no option. -/
theorem isRepeatable_recalled (counterpart : Int) (rows : List Row) :
    isRepeatable (recalled counterpart rows).last = true := by
  unfold recalled
  cases h : latest? isRepeatable rows with
  | none => rfl
  | some z => exact kind_of_latest? h

/-- A last speaker who is a character is the last character. -/
theorem counterpart_recalled {counterpart : Int} {rows : List Row}
    (h : Actor.facesCounterpart (recalled counterpart rows).last = false) :
    (recalled counterpart rows).counterpart
      = (recalled counterpart rows).last := by
  unfold recalled at h ⊢
  cases hlast : latest? isRepeatable rows with
  | none =>
      rw [hlast] at h
      cases h
  | some z =>
      rw [hlast] at h
      have hpart : ∀ a, isCharacter a = true → isRepeatable a = true := by
        intro a ha
        rw [isCharacter_eq] at ha
        exact (Bool.and_eq_true_iff.1 ha).1
      have hz : isCharacter z = true := by
        rw [isCharacter_eq, kind_of_latest? hlast]
        simpa using h
      rw [latest?_of_latest? hpart hlast hz]
      rfl

/-- One row more: the number in its cell comes to be the latest of its
kinds, and a row without one changes nothing. -/
theorem after_recalled (counterpart : Int) (rows : List Row) (row : Row) :
    (recalled counterpart rows).after row
      = recalled counterpart (rows ++ [row]) := by
  have hrepeats := isRepeatable_recalled counterpart rows
  have hconcat : recalled counterpart (rows ++ [row])
      = { last := (((number? row).filter isRepeatable).or
            (latest? isRepeatable rows)).getD Actor.narrator
          counterpart := (((number? row).filter isCharacter).or
            (latest? isCharacter rows)).getD counterpart
          fallback := Actor.defaultCounterpart } := by
    unfold recalled
    rw [latest?_concat, latest?_concat]
  rw [hconcat]
  unfold State.after State.named
  cases number? row with
  | none =>
      -- the last speaker is repeated
      rw [Option.getD_none, speak_of_repeatable _ hrepeats]
      cases hfaces :
          Actor.facesCounterpart (recalled counterpart rows).last with
      | true => rfl
      | false =>
          rw [if_neg Bool.false_ne_true]
          exact congrArg (fun actor : Int => (⟨_, actor, _⟩ : State))
            (counterpart_recalled hfaces).symm
  | some z =>
      rw [Option.getD_some]
      by_cases hz : z = Actor.option
      · subst hz
        rw [speak_option]
        rfl
      · have hrepeatable : isRepeatable z = true := decide_eq_true hz
        rw [speak_of_repeatable _ hrepeatable]
        simp only [Option.filter_some, hrepeatable, if_true, Option.some_or,
          Option.getD_some, isCharacter_eq, Bool.true_and]
        cases Actor.facesCounterpart z <;> rfl

/-- What is carried from row to row is what can be looked up. -/
theorem stateAfter_initial (counterpart : Int) (rows : List Row) :
    stateAfter (.initial counterpart) rows = recalled counterpart rows := by
  induction rows using List.reverseRecOn with
  | nil => rfl
  | append_singleton rows row ih =>
      rw [stateAfter_concat, ih, after_recalled]

-- ========================================================== the voices

/-- Who speaks the row at a place: the player if the row is an option,
and otherwise the latest actor up to there that is none, or the
narrator. -/
def speakerAt (rows : List Row) (i : Nat) : Int :=
  if rows[i]?.bind number? = some Actor.option then Actor.player
  else (latest? isRepeatable (rows.take (i + 1))).getD Actor.narrator

/-- Whom the player and the narrator face at a place: the latest
character in front of it, or the first one of all. -/
def facedAt (rows : List Row) (i : Nat) : Int :=
  ((latest? isCharacter (rows.take i)).or
    (earliest? isCharacter rows)).getD Actor.defaultCounterpart

/-- Who listens to the row at a place. -/
def listenerAt (rows : List Row) (i : Nat) : Int :=
  if Actor.facesCounterpart (speakerAt rows i) then
    if facedAt rows i = 0 then Actor.defaultCounterpart
    else facedAt rows i
  else Actor.player

/-- The character whom the first rows face is the first one of all. -/
def firstCounterpart (rows : List Row) : Int :=
  (earliest? isCharacter rows).getD Actor.defaultCounterpart

theorem facing_recalled (rows : List Row) (i : Nat) :
    (recalled (firstCounterpart rows) (rows.take i)).facing
      = if facedAt rows i = 0 then Actor.defaultCounterpart
        else facedAt rows i := by
  have hfaced : (recalled (firstCounterpart rows)
      (rows.take i)).counterpart = facedAt rows i := by
    unfold recalled facedAt firstCounterpart
    cases latest? isCharacter (rows.take i) <;> rfl
  unfold State.facing
  rw [hfaced]
  rfl

/-- The voice of a row, in the state that the rows in front of it leave
behind, is the one that is looked up. -/
theorem speak_recalled {rows : List Row} {i : Nat} {row : Row}
    (hrow : rows[i]? = some row) :
    let state := recalled (firstCounterpart rows) (rows.take i)
    (state.speak (state.named row)).1
      = ⟨speakerAt rows i, listenerAt rows i,
          number? row = some Actor.option⟩ := by
  intro state
  have hlistener : ∀ actor, state.listenerTo actor
      = if Actor.facesCounterpart actor then
          if facedAt rows i = 0 then Actor.defaultCounterpart
          else facedAt rows i
        else Actor.player := fun actor => by
    unfold State.listenerTo
    rw [facing_recalled]
  unfold listenerAt
  rw [← hlistener]
  by_cases hoption : number? row = some Actor.option
  · have hspeaker : speakerAt rows i = Actor.player := by
      unfold speakerAt
      rw [hrow]
      exact if_pos hoption
    have hnamed : state.named row = Actor.option := by
      unfold State.named
      rw [hoption]
      rfl
    rw [hnamed, speak_option, hspeaker, decide_eq_true hoption]
  · have hnamed : isRepeatable (state.named row) = true := by
      unfold State.named
      cases hnumber : number? row with
      | none => exact isRepeatable_recalled _ _
      | some z =>
          rw [hnumber, Option.some.injEq] at hoption
          exact decide_eq_true hoption
    have hspeaker : speakerAt rows i = state.named row := by
      have hlast : (state.after row).last = state.named row := by
        unfold State.after
        rw [speak_of_repeatable _ hnamed]
      unfold speakerAt
      rw [hrow, ← hlast, after_recalled]
      unfold recalled
      rw [List.take_add_one, hrow]
      exact if_neg hoption
    rw [speak_of_repeatable _ hnamed, hspeaker, decide_eq_false hoption]

end Speaker

end Storyline
