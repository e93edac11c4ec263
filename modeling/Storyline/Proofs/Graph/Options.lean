/-
Options of menus, which are recognised twice. When a row becomes a node,
it is an option if the actor whom it names or repeats is the mark of one;
when the nodes are linked, it is an option if the number in its own cell
is that mark. The answers could differ for a row that repeats an option,
and they do not, because an option is never there to be repeated.

# What is compared

* the flag of a voice and the question that the linking code asks of the
  row, in every state that rows can leave behind (`Reachable`);
* the nodes whose text is a choice in a menu, and the nodes that edges
  treat as options: `LeadsOn` and `Offers` are the rules of the edges
  said with flags, and here the flags are those of the voices
  (`speaksOption`).

# What carries it

`State.Settled`: the last speaker is no option and the last character no
reserved actor. Whoever speaks next keeps that (`Settled.speak`), and it
is also what keeps speaker and listener apart (`Settled.proper_speak`).
-/
import Storyline.Proofs.Graph.Authored

namespace Storyline

open Script (Row)

namespace Speaker

-- ====================================================== reachable states

/-- The states that rows can leave behind: the one in front of the first
row of some document, and what a row that is resolved makes of such a
state. -/
inductive Reachable (document : String) : State → Prop where
  | initial {rows : List Row} {counterpart : Int}
      (hfound : primaryCounterpart rows = .ok counterpart) :
      Reachable document (.initial counterpart)
  | step {state after : State} {row : Row} {voice : Voice}
      {reports : List Diagnostic} (hstate : Reachable document state)
      (hrow : resolve document state row = .ok (voice, after, reports)) :
      Reachable document after

/-- A state whose actors are whom they stand for: the last speaker is no
option, and the last character is neither the player nor the narrator nor
an option. -/
structure State.Settled (state : State) : Prop where
  last : isRepeatable state.last = true
  counterpart : isCharacter state.counterpart = true
  fallback : state.fallback = Actor.defaultCounterpart

theorem isCharacter_iff {actor : Int} :
    isCharacter actor = true
      ↔ actor ≠ Actor.player ∧ actor ≠ Actor.narrator
          ∧ actor ≠ Actor.option := by
  unfold isCharacter Actor.isReserved
  simp [and_assoc]

theorem isCharacter_defaultCounterpart :
    isCharacter Actor.defaultCounterpart = true := by decide

/-- The first character that is found is one. -/
theorem isCharacter_primaryCounterpart {rows : List Row} {actor : Int}
    (h : primaryCounterpart rows = .ok actor) :
    isCharacter actor = true := by
  rw [primaryCounterpart_eq h]
  unfold earliest?
  cases hhead : ((numbers rows).filter isCharacter).head? with
  | none => exact isCharacter_defaultCounterpart
  | some z => exact (List.mem_filter.1 (List.mem_of_head? hhead)).2

variable {state : State} {row : Row}

/-- Whoever speaks leaves a settled state behind. -/
theorem State.Settled.speak (h : state.Settled) (actor : Int) :
    (state.speak actor).2.Settled := by
  by_cases hoption : actor = Actor.option
  · subst hoption
    rw [speak_option]
    exact h
  · have hrepeatable : isRepeatable actor = true := decide_eq_true hoption
    rw [speak_of_repeatable _ hrepeatable]
    refine ⟨hrepeatable, ?_, h.fallback⟩
    show isCharacter (if Actor.facesCounterpart actor then
      state.counterpart else actor) = true
    cases hfaces : Actor.facesCounterpart actor with
    | true => exact h.counterpart
    | false =>
        show isCharacter actor = true
        rw [isCharacter_eq, hrepeatable, hfaces]
        rfl

/-- Every state that rows can leave behind is settled. -/
theorem Reachable.settled {document : String}
    (h : Reachable document state) : state.Settled := by
  induction h with
  | initial hfound =>
      exact ⟨rfl, isCharacter_primaryCounterpart hfound, rfl⟩
  | step hstate hrow ih =>
      rw [(resolve_ok hrow).2]
      exact ih.speak _

-- ============================================================ the flags

theorem isOption_speak (state : State) (actor : Int) :
    (state.speak actor).1.isOption = decide (actor = Actor.option) := by
  by_cases h : actor = Actor.option
  · subst h
    rw [speak_option]
    rfl
  · rw [speak_of_repeatable _ (decide_eq_true h), decide_eq_false h]

/-- A row is an option when the number in its cell is the mark of one. -/
theorem isOption_eq_number? (row : Row) :
    row.isOption = decide (number? row = some Actor.option) := by
  unfold Row.isOption number?
  cases row.spoken <;> simp [Numeral.Reading.value?]

/-- In a settled state a row has the voice of an option when its cell
says so: a row that repeats an actor does not repeat an option. -/
theorem State.Settled.isOption_speak_named (h : state.Settled)
    (row : Row) :
    (state.speak (state.named row)).1.isOption = row.isOption := by
  rw [isOption_speak, isOption_eq_number?]
  unfold State.named
  cases number? row with
  | none =>
      have hlast : state.last ≠ Actor.option := of_decide_eq_true h.last
      simp [hlast]
  | some z => simp

/-- A row that is resolved has no number that is refused, so the question
whether it is an option has an answer. -/
theorem isOption?_of_resolve {document : String} {after : State}
    {voice : Voice} {reports : List Diagnostic}
    (h : resolve document state row = .ok (voice, after, reports)) :
    row.isOption? = .ok row.isOption := by
  obtain ⟨named, hnamed, -⟩ := Error.bind_eq_ok.1 h
  unfold namedActor at hnamed
  unfold Row.isOption?
  cases hspoken : row.spoken with
  | tooLong digits =>
      rw [hspoken] at hnamed
      cases hnamed
  | integer z => rfl
  | notInteger => rfl

/-- Whether the row at a place gets the voice of an option, in the state
that the rows in front of it leave behind. -/
def speaksOption (state : State) (rows : List Row) (j : Nat) : Bool :=
  rows[j]?.any fun row =>
    let before := stateAfter state (rows.take j)
    (before.speak (before.named row)).1.isOption

-- ============================================================ the actors

/-- Who may speak and listen: an option is spoken by the player, the mark
of an option neither speaks nor listens, somebody listens, and nobody
speaks to himself. -/
structure Voice.Proper (voice : Voice) : Prop where
  player : voice.isOption = true → voice.speaker = Actor.player
  speaker : voice.speaker ≠ Actor.option
  listener : voice.listener ≠ Actor.option
  somebody : voice.listener ≠ 0
  apart : voice.speaker ≠ voice.listener

/-- Whom the player and the narrator face is a character, and somebody. -/
theorem State.Settled.facing (h : state.Settled) :
    isCharacter state.facing = true ∧ state.facing ≠ 0 := by
  unfold State.facing
  by_cases hzero : state.counterpart = 0
  · rw [if_pos hzero, h.fallback]
    exact ⟨isCharacter_defaultCounterpart, by decide⟩
  · rw [if_neg hzero]
    exact ⟨h.counterpart, hzero⟩

theorem State.listenerTo_of_faces {actor : Int}
    (h : Actor.facesCounterpart actor = true) :
    state.listenerTo actor = state.facing := if_pos h

theorem State.listenerTo_of_not_faces {actor : Int}
    (h : Actor.facesCounterpart actor = false) :
    state.listenerTo actor = Actor.player := by
  unfold State.listenerTo
  rw [h]
  rfl

/-- Every voice in a settled state is a proper one. -/
theorem State.Settled.proper_speak (h : state.Settled) (actor : Int) :
    (state.speak actor).1.Proper := by
  have hmarked : Actor.player ≠ Actor.option := by decide
  obtain ⟨hfacing, hsomebody⟩ := h.facing
  obtain ⟨hplayer, hnarrator, hmark⟩ := isCharacter_iff.1 hfacing
  by_cases hoption : actor = Actor.option
  · subst hoption
    have hlistener : state.listenerTo Actor.player = state.facing :=
      State.listenerTo_of_faces rfl
    rw [speak_option, hlistener]
    exact ⟨fun _ => rfl, hmarked, hmark, hsomebody, hplayer.symm⟩
  · rw [speak_of_repeatable _ (decide_eq_true hoption)]
    cases hfaces : Actor.facesCounterpart actor with
    | true =>
        have hapart : actor ≠ state.facing := by
          unfold Actor.facesCounterpart at hfaces
          rw [Bool.or_eq_true, decide_eq_true_iff, decide_eq_true_iff]
            at hfaces
          rcases hfaces with rfl | rfl
          · exact hplayer.symm
          · exact hnarrator.symm
        rw [State.listenerTo_of_faces hfaces]
        exact ⟨fun hflag => absurd hflag Bool.false_ne_true, hoption, hmark,
          hsomebody, hapart⟩
    | false =>
        -- a character of the story speaks to the player
        have hapart : actor ≠ Actor.player := by
          rintro rfl
          cases hfaces
        rw [State.listenerTo_of_not_faces hfaces]
        exact ⟨fun hflag => absurd hflag Bool.false_ne_true, hoption,
          hmarked, Int.one_ne_zero, hapart⟩

end Speaker

namespace Compile

-- ================================================= the rules by flags

/-- Where a row leads on to, by the flags of the rows: to the first row
behind it that is no option, if that is the next one or the row is an
option itself, which then leaves its menu. -/
def LeadsOn (isOption : Nat → Bool) (i j : Nat) : Prop :=
  i < j ∧ isOption j = false ∧ (∀ m, i < m → m < j → isOption m = true)
    ∧ (j = i + 1 ∨ isOption i = true)

/-- What a row offers, by the flags of the rows: the options right behind
it, if it is none itself. -/
def Offers (isOption : Nat → Bool) (i j : Nat) : Prop :=
  isOption i = false ∧ i < j ∧ ∀ m, i < m → m ≤ j → isOption m = true

variable {heading : Heading} {rows : List Row} {i j : Nat} {row : Row}

theorem mem_fallThrough?_iff :
    j ∈ (fallThrough? rows i).toList
      ↔ j < rows.length ∧ LeadsOn (optionAt rows) i j := by
  rw [Option.mem_toList]
  unfold fallThrough? nextLine? LeadsOn
  rw [Option.filter_eq_some_iff, List.find?_range_eq_some, List.mem_range]
  simp only [Bool.and_eq_true, decide_eq_true_eq, Bool.not_eq_true',
    Bool.or_eq_true, Bool.and_eq_false_imp, Bool.not_eq_false']
  constructor
  · rintro ⟨⟨⟨hij, hline⟩, hj, hfirst⟩, hend⟩
    exact ⟨hj, hij, hline, fun m him hmj => hfirst m hmj him, hend⟩
  · rintro ⟨hj, hij, hline, hfirst, hend⟩
    exact ⟨⟨⟨hij, hline⟩, hj, fun m hmj him => hfirst m him hmj⟩, hend⟩

theorem mem_menu_iff :
    j ∈ menu rows i
      ↔ j < rows.length ∧ i < j
          ∧ ∀ m, i < m → m ≤ j → optionAt rows m = true := by
  unfold menu
  rw [List.mem_filter, List.mem_range, decide_eq_true_iff]
  constructor
  · rintro ⟨hj, hij, hall⟩
    exact ⟨hj, hij, fun m him hmj => hall m hmj him⟩
  · rintro ⟨hj, hij, hall⟩
    exact ⟨hj, hij, fun m hmj him => hall m him hmj⟩

/-- Where a row leads: to the rows that it names, or on if it names none,
and to what it offers. -/
theorem mem_goals_iff (hrow : rows[i]? = some row) :
    j ∈ goals rows i row
      ↔ j < rows.length
          ∧ ((if row.linkTargets = [] then LeadsOn (optionAt rows) i j
                else j ∈ named rows row)
              ∨ Offers (optionAt rows) i j) := by
  have hself : optionAt rows i = row.isOption := by
    unfold optionAt
    rw [hrow]
    rfl
  have hnamed : j ∈ named rows row → j < rows.length := fun hj => by
    obtain ⟨target, -, hclaim⟩ := List.mem_filterMap.1 hj
    exact claimant?_lt hclaim
  have hfirst : j ∈ (if row.linkTargets = [] then
        (fallThrough? rows i).toList else named rows row)
      ↔ j < rows.length
          ∧ if row.linkTargets = [] then LeadsOn (optionAt rows) i j
            else j ∈ named rows row := by
    split
    · exact mem_fallThrough?_iff
    · exact ⟨fun hj => ⟨hnamed hj, hj⟩, And.right⟩
  have hsecond : j ∈ (if row.isOption then [] else menu rows i)
      ↔ j < rows.length ∧ Offers (optionAt rows) i j := by
    unfold Offers
    rw [hself]
    cases row.isOption with
    | true => simp
    | false => simpa using mem_menu_iff
  unfold goals
  rw [List.mem_append, hfirst, hsecond, ← and_or_left]

-- ============================================================= the nodes

section Draft

variable {counterpart n : Int} {draft : Draft}

/-- The state in front of every row of a draft is a reachable one. -/
theorem reachable_of_draftFrom {whole : List Row}
    (hfound : Speaker.primaryCounterpart whole = .ok counterpart)
    (h : draftFrom heading (.initial counterpart) [] n rows = .ok draft)
    (hi : i ≤ rows.length) :
    Speaker.Reachable heading.title
      (Speaker.stateAfter (.initial counterpart) (rows.take i)) := by
  induction i with
  | zero => exact .initial hfound
  | succ i ih =>
      have hrow := List.getElem?_eq_getElem hi
      obtain ⟨voice, after, reports, script, hvoice, -, -⟩ :=
        authored_of_draftFrom h hrow
      rw [List.take_add_one, hrow]
      show Speaker.Reachable heading.title
        (Speaker.stateAfter _ (rows.take i ++ [rows[i]]))
      rw [Speaker.stateAfter_concat, ← (Speaker.resolve_ok hvoice).2]
      exact .step (ih (by omega)) hvoice

/-- In a draft the rows with the voice of an option are the options. -/
theorem speaksOption_eq {whole : List Row}
    (hfound : Speaker.primaryCounterpart whole = .ok counterpart)
    (h : draftFrom heading (.initial counterpart) [] n rows = .ok draft)
    (j : Nat) :
    Speaker.speaksOption (.initial counterpart) rows j
      = optionAt rows j := by
  unfold Speaker.speaksOption optionAt
  by_cases hj : j < rows.length
  · rw [List.getElem?_eq_getElem hj]
    exact (reachable_of_draftFrom hfound h hj.le).settled
      |>.isOption_speak_named rows[j]
  · rw [List.getElem?_eq_none (by omega)]
    rfl

end Draft

/-- A node beside the voice that its row gets behind the rows in front of
it: the text is a choice in a menu when the voice is that of an option,
and the edges lead where the rules say by the flags of all voices. -/
structure Presents (heading : Heading) (state : Speaker.State)
    (rows : List Row) (i : Nat) (row : Row) (voice : Speaker.Voice)
    (node : Node) : Prop where
  reachable : Speaker.Reachable heading.title
    (Speaker.stateAfter state (rows.take i))
  resolved : ∃ after reports,
    Speaker.resolve heading.title
        (Speaker.stateAfter state (rows.take i)) row
      = .ok (voice, after, reports)
  speaker : node.speaker = voice.speaker
  listener : node.listener = voice.listener
  bodyText : node.bodyText = row.text
  menuText : node.menuText = if voice.isOption then node.bodyText else ""
  leads : ∀ j, addressOf heading.documentId j ∈ node.addresses
    ↔ j < rows.length ∧ reservedAt rows j = false
        ∧ ((if row.linkTargets = [] then
              LeadsOn (Speaker.speaksOption state rows) i j
            else j ∈ named rows row)
          ∨ Offers (Speaker.speaksOption state rows) i j)

/-- The addresses of a node whose edges lead to the goals of its row, less
the reserved rows. -/
theorem mem_addresses_iff {node : Node}
    (h : node.outgoing
      = ((goals rows i row).eraseDups.filter
          fun j => !reservedAt rows j).map
            (edgeBetween heading.documentId i)) :
    addressOf heading.documentId j ∈ node.addresses
      ↔ j ∈ goals rows i row ∧ reservedAt rows j = false := by
  have haddresses : node.addresses
      = ((goals rows i row).eraseDups.filter
          fun j => !reservedAt rows j).map
            (addressOf heading.documentId) := by
    unfold Node.addresses
    rw [h, List.map_map]
    rfl
  rw [haddresses,
    List.mem_map_of_injective (addressOf_injective heading.documentId),
    List.mem_filter, List.mem_eraseDups, Bool.not_eq_true']

/-- A node of a compiled document behind the entry is, but for its edges,
the one that a row that stays was given in the draft. -/
theorem exists_row_of_node {compiled : Compiled}
    (h : compile rows heading = .ok compiled) :
    ∃ root others,
      compiled.graph.nodes = root :: others
        ∧ root.bare = rootNode heading compiled.graph.conversant
        ∧ ∀ node ∈ others, ∃ i row voice after reports script,
            (meaningful rows)[i]? = some row
              ∧ isReserved row = false
              ∧ Speaker.resolve heading.title
                  (Speaker.stateAfter (.initial compiled.graph.conversant)
                    ((meaningful rows).take i)) row
                  = .ok (voice, after, reports)
              ∧ node.bare = nodeOf heading (numberOf i) row voice script := by
  obtain ⟨draft, root, others, hdraft, -, hnodes, hroot, hothers⟩ :=
    nodes_of_compile h
  refine ⟨root, others, hnodes, hroot, fun node hnode => ?_⟩
  have hbare := List.mem_map_of_mem (f := Node.bare) hnode
  rw [hothers] at hbare
  obtain ⟨a, ha, hsame⟩ := List.mem_map.1 hbare
  obtain ⟨hauthored, hstays⟩ := List.mem_filter.1 ha
  obtain ⟨i, hi⟩ := List.mem_iff_getElem?.1 hauthored
  have hlt : i < (meaningful rows).length := by
    rw [← (drafted_of_draftFrom hdraft).1.length_eq]
    exact (List.getElem?_eq_some_iff.1 hi).1
  have hrow := List.getElem?_eq_getElem hlt
  obtain ⟨voice, after, reports, script, hvoice, -, hget⟩ :=
    authored_of_draftFrom hdraft hrow
  rw [hi, Option.some.injEq] at hget
  subst hget
  refine ⟨i, _, voice, after, reports, script, hrow, by simpa using hstays,
    hvoice, ?_⟩
  rw [← hsame, rootId_add_eq_numberOf]

/-- Options of menus. In every state that rows can leave behind, the flag
of the voice that a row gets is the answer of the linking code to the
question whether the row is an option. In a compiled document the entry
is no choice of a menu, and every other node presents a row that stays:
its text is a choice when its voice is that of an option, which the
player speaks, and the edges lead on from the options and offer them by
the flags of the voices. Neither the speaker nor the listener is the mark
of an option, somebody listens, and nobody speaks to himself. -/
theorem options_of_compile {compiled : Compiled}
    (h : compile rows heading = .ok compiled) :
    (∀ state row voice after reports,
        Speaker.Reachable heading.title state →
        Speaker.resolve heading.title state row
          = .ok (voice, after, reports) →
        row.isOption? = .ok voice.isOption)
      ∧ ∃ root others,
          compiled.graph.nodes = root :: others
            ∧ root.menuText = ""
            ∧ (∀ node ∈ others, ∃ i row voice,
                (meaningful rows)[i]? = some row
                  ∧ isReserved row = false
                  ∧ node.localId = numberOf i
                  ∧ voice.Proper
                  ∧ Presents heading (.initial compiled.graph.conversant)
                      (meaningful rows) i row voice node)
            ∧ ∀ i row, (meaningful rows)[i]? = some row →
                isReserved row = false →
                ∃ node ∈ others, node.localId = numberOf i := by
  obtain ⟨root, others, hnodes, hroot, hrows⟩ := exists_row_of_node h
  obtain ⟨counterpart, draft, hfound, -, hdraft, hcompiled⟩ := compile_ok h
  have hconversant : compiled.graph.conversant = counterpart := by
    rw [hcompiled]
    rfl
  rw [hconversant] at hroot hrows ⊢
  have hsound := sound_of_compile h
  have hflags : Speaker.speaksOption (.initial counterpart)
      (meaningful rows) = optionAt (meaningful rows) :=
    funext (speaksOption_eq hfound hdraft)
  refine ⟨fun state row voice after reports hstate hvoice => ?_, root,
    others, hnodes, congrArg Node.menuText hroot, fun node hnode => ?_,
    fun i row hrow hstays => ?_⟩
  · rw [Speaker.isOption?_of_resolve hvoice, (Speaker.resolve_ok hvoice).1,
      hstate.settled.isOption_speak_named]
  · obtain ⟨i, row, voice, after, reports, script, hrow, hstays, hvoice,
      hbare⟩ := hrows node hnode
    have hid : node.localId = numberOf i := congrArg Node.localId hbare
    have hi : i ≤ (meaningful rows).length :=
      (List.getElem?_eq_some_iff.1 hrow).1.le
    have hstate := reachable_of_draftFrom hfound hdraft hi
    obtain ⟨found, hfoundNode, -, -, -, houtgoing⟩ :=
      outgoing_of_compile h hrow hstays
    have hmem : node ∈ compiled.graph.nodes := by
      rw [hnodes]
      exact List.mem_cons_of_mem _ hnode
    rw [← hid, hsound.node?_eq hmem, Option.some.injEq] at hfoundNode
    subst hfoundNode
    have hbody : node.bodyText = row.text := congrArg Node.bodyText hbare
    refine ⟨i, row, voice, hrow, hstays, hid, ?_, hstate,
      ⟨after, reports, hvoice⟩, congrArg Node.speaker hbare,
      congrArg Node.listener hbare, hbody, ?_, fun j => ?_⟩
    · rw [(Speaker.resolve_ok hvoice).1]
      exact hstate.settled.proper_speak _
    · rw [hbody]
      exact congrArg Node.menuText hbare
    · rw [mem_addresses_iff houtgoing, mem_goals_iff hrow, hflags,
        and_right_comm, and_assoc]
  · obtain ⟨node, hnode, -⟩ := outgoing_of_compile h hrow hstays
    have hid : node.localId = numberOf i := by
      simpa using List.find?_some hnode
    have hmem := List.mem_of_find?_eq_some hnode
    rw [hnodes] at hmem
    rcases List.mem_cons.1 hmem with rfl | hother
    · have hrootId : node.localId = rootId := congrArg Node.localId hroot
      exact absurd (hid.symm.trans hrootId) (rootId_lt_numberOf i).ne'
    · exact ⟨node, hother, hid⟩

/-- A question with two options, one of them written with blanks around
its mark, and a row without a speaker behind them. -/
def optionsStory : List Row :=
  [spokenRow 1 "3" "Ask?" "" [], spokenRow 2 "99" "Yes" "" [],
   spokenRow 3 " 99 " "No" "" [], spokenRow 4 "" "Ok" "" []]

/-- The second option is a choice, is spoken by the player and leads on to
the last row; that row repeats the character who asked, and not an
option. -/
theorem options_optionsStory :
    ∃ compiled option last,
      compile optionsStory ⟨1, "Demo"⟩ = .ok compiled
        ∧ option ∈ compiled.graph.nodes
        ∧ last ∈ compiled.graph.nodes
        ∧ (option.localId, option.menuText, option.speaker) = (3, "No", 1)
        ∧ (1, 4) ∈ option.addresses
        ∧ (last.localId, last.menuText) = (4, "") := by
  obtain ⟨compiled, h⟩ := Error.exists_ok
    (show (compile optionsStory ⟨1, "Demo"⟩).toOption.isSome = true by
      decide +kernel)
  obtain ⟨hagree, root, others, hnodes, -, hpresents, hstays⟩ :=
    options_of_compile h
  have hplace : ∀ i row, (meaningful optionsStory)[i]? = some row →
      isReserved row = false →
      ∃ node ∈ others, node.localId = numberOf i ∧ ∃ voice, voice.Proper
        ∧ row.isOption? = .ok voice.isOption
        ∧ Presents ⟨1, "Demo"⟩ (.initial compiled.graph.conversant)
            (meaningful optionsStory) i row voice node := by
    intro i row hrow hkept
    obtain ⟨node, hnode, hid⟩ := hstays i row hrow hkept
    obtain ⟨j, other, voice, hother, -, hidOther, hproper, hpresent⟩ :=
      hpresents node hnode
    obtain rfl := numberOf_injective (hid.symm.trans hidOther)
    obtain rfl := Option.some.inj (hrow.symm.trans hother)
    obtain ⟨after, reports, hvoice⟩ := hpresent.resolved
    exact ⟨node, hnode, hid, voice, hproper,
      hagree _ _ _ _ _ hpresent.reachable hvoice, hpresent⟩
  have hconversant : compiled.graph.conversant = 3 := by
    have hshown : (compile optionsStory ⟨1, "Demo"⟩).toOption.map
        (·.graph.conversant) = some 3 := by decide +kernel
    rw [h] at hshown
    exact Option.some.inj hshown
  rw [hconversant] at hplace
  obtain ⟨option, hoption, hid, voice, hproper, hflag, hpresent⟩ :=
    hplace 2 (spokenRow 3 " 99 " "No" "" []) (by decide +kernel)
      (by decide +kernel)
  obtain ⟨last, hlast, hlastId, lastVoice, -, hlastFlag, hlastPresent⟩ :=
    hplace 3 (spokenRow 4 "" "Ok" "" []) (by decide +kernel)
      (by decide +kernel)
  have hchosen : voice.isOption = true :=
    Except.ok.inj (hflag.symm.trans (by decide +kernel))
  have hplain : lastVoice.isOption = false :=
    Except.ok.inj (hlastFlag.symm.trans (by decide +kernel))
  refine ⟨compiled, option, last, h, ?_, ?_, ?_, ?_, ?_⟩
  · rw [hnodes]
    exact List.mem_cons_of_mem _ hoption
  · rw [hnodes]
    exact List.mem_cons_of_mem _ hlast
  · rw [hid, hpresent.menuText, hpresent.bodyText, hpresent.speaker,
      hproper.player hchosen, hchosen]
    rfl
  · refine (hpresent.leads 3).2 ⟨by decide +kernel, by decide +kernel,
      Or.inl ⟨by omega, by decide +kernel, fun m hm hmj => ?_, Or.inl rfl⟩⟩
    omega
  · rw [hlastId, hlastPresent.menuText, hplain]
    rfl

end Compile

end Storyline
