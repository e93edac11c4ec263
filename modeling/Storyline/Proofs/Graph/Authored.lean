/-
The nodes of a compiled document behind its entry, and the rows that they
are made of. Linking and taking the reserved rows out change nothing of a
node but its edges, so apart from these (`Node.bare`) the nodes that stay
are those of the draft, without the reserved rows (`nodes_of_compile`);
and the node of a row in the draft has the voice that is resolved in the
state which the rows in front of it leave behind
(`authored_of_draftFrom`).

Main statement: `voices_of_compile`, with the voices looked up in the
rows. The account of whole sheets uses the two others.
-/
import Storyline.Proofs.Build.Entry
import Storyline.Proofs.Graph.Voices

namespace Storyline.Compile

open Script (Row)

variable {heading : Heading} {rows : List Row} {i : Nat} {row : Row}
  {n : Int} {draft : Draft} {linked : List Node}

-- =========================================================== the draft

/-- What a draft has at a place: the row there and its node, with the
voice of the row behind the rows in front of it. -/
theorem authored_of_draftFrom {state : Speaker.State} {index : KeyIndex}
    (h : draftFrom heading state index n rows = .ok draft)
    (hrow : rows[i]? = some row) :
    ∃ voice after reports script,
      Speaker.resolve heading.title
          (Speaker.stateAfter state (rows.take i)) row
          = .ok (voice, after, reports)
        ∧ row.script = .ok script
        ∧ draft.authored[i]?
            = some ⟨row, nodeOf heading (n + i) row voice script⟩ := by
  induction rows generalizing state index n draft i with
  | nil => cases hrow
  | cons first rest ih =>
      obtain ⟨voice, after, reports, script, later, hvoice, hscript, -, -,
        hlater, rfl⟩ := draftFrom_cons_eq_ok_iff.1 h
      cases i with
      | zero =>
          injection hrow with hrow
          subst hrow
          refine ⟨voice, after, reports, script, hvoice, hscript, ?_⟩
          rw [List.getElem?_cons_zero, Int.natCast_zero, Int.add_zero]
      | succ i =>
          rw [List.getElem?_cons_succ] at hrow ⊢
          obtain ⟨-, rfl⟩ := Speaker.resolve_ok hvoice
          obtain ⟨voice, after, reports, script, hvoice, hscript, hget⟩ :=
            ih hlater hrow
          refine ⟨voice, after, reports, script, hvoice, hscript, ?_⟩
          rw [hget, Int.add_assoc, Int.add_comm 1, Int.natCast_succ]

-- ====================================================== the nodes kept

/-- A node looks like the entry with its edges or without them. -/
theorem looksLikeEntry_bare (node : Node) :
    looksLikeEntry node.bare = looksLikeEntry node := rfl

/-- The nodes of a draft that do not look like the entry are, but for
their edges, those of its rows that are not reserved. -/
theorem bare_linkNodes {authored : List Authored}
    (h : Drafted heading n rows authored) (hn : rootId < n)
    (index : KeyIndex) :
    ((linkNodes heading index authored).filter
        fun node => !looksLikeEntry node).map Node.bare
      = (authored.filter fun a => !isReserved a.row).map (·.node) := by
  induction h with
  | nil n => rfl
  | @cons n row rows authored voice script rest ih =>
      have hbehind : rootId < n + 1 := by omega
      have hbare : ∀ goals,
          ((nodeOf heading n row voice script).linkAll heading.documentId
            goals).bare = nodeOf heading n row voice script := fun goals => by
        rw [Node.linkAll_eq_linkEach, Node.bare_linkEach]
        rfl
      have hlooks : ∀ goals,
          looksLikeEntry ((nodeOf heading n row voice script).linkAll
            heading.documentId goals) = isReserved row := fun goals => by
        rw [← looksLikeEntry_bare, hbare]
        show (decide (n ≠ rootId) && isReserved row) = isReserved row
        rw [decide_eq_true hn.ne', Bool.true_and]
      unfold linkNodes
      rw [List.filter_cons, List.filter_cons, hlooks]
      cases isReserved row with
      | true => exact ih hbehind
      | false =>
          show Node.bare _ :: _ = _ :: _
          rw [hbare, ih hbehind]

/-- Taking out changes nothing of the nodes that stay but their edges. -/
theorem bare_dropReserved (h : LinkedRows heading rows linked) :
    (dropReserved heading.documentId linked).map Node.bare
      = (linked.filter fun node => !looksLikeEntry node).map Node.bare := by
  have hkept : linked.filter (fun node =>
        !(goneIds linked).contains node.localId)
      = linked.filter fun node => !looksLikeEntry node := by
    refine List.filter_congr fun node hnode => ?_
    obtain ⟨i, row, voice, script, hrow, rfl⟩ := h.of_mem hnode
    rw [linkedNode_localId, looksLikeEntry_linkedNode]
    congr 1
    rw [Bool.eq_iff_iff, List.contains_iff_mem]
    refine h.mem_gone_iff.trans ?_
    unfold reservedAt
    rw [hrow]
    rfl
  unfold dropReserved
  rw [List.map_map]
  show (linked.filter (fun node =>
    !(goneIds linked).contains node.localId)).map Node.bare = _
  rw [hkept]

/-- What a compiled document consists of, but for its edges: the entry,
and the nodes of the rows that are not reserved. -/
theorem nodes_of_compile {compiled : Compiled}
    (h : compile rows heading = .ok compiled) :
    ∃ draft root others,
      draftFrom heading (.initial compiled.graph.conversant) []
          (rootId + 1) (meaningful rows) = .ok draft
        ∧ compiled.graph.conversant = Speaker.firstCounterpart rows
        ∧ compiled.graph.nodes = root :: others
        ∧ root.bare = rootNode heading compiled.graph.conversant
        ∧ others.map Node.bare
            = (draft.authored.filter fun a => !isReserved a.row).map
                (·.node) := by
  obtain ⟨counterpart, draft, hcounterpart, -, hdraft, rfl⟩ := compile_ok h
  have hlinked := linkedRows_of_draftFrom hdraft
  refine ⟨draft, _, _, hdraft, Speaker.primaryCounterpart_eq hcounterpart,
    rfl, bare_entryNode heading counterpart _, ?_⟩
  rw [bare_dropReserved hlinked,
    bare_linkNodes (drafted_of_draftFrom hdraft).1 (by decide)]

-- ========================================================== the voices

/-- Who speaks a node and who listens. Number the meaningful rows by
their places and look at the numbers in their speaker cells. An option
is spoken by the player; any other node by the latest actor up to its
row who is no option, and by the narrator if there is none. The player
and the narrator speak to the latest character in front of the row, or to
the first one of the document if there is none, or else to the default
one, who also stands in for a character with the number zero. All others
speak to the player. The first character of the document, or the default
one, is its conversant and listens to the entry. -/
theorem voices_of_compile {compiled : Compiled}
    (h : compile rows heading = .ok compiled) :
    compiled.graph.conversant = Speaker.firstCounterpart rows
      ∧ (∃ root, compiled.graph.node? rootId = some root
          ∧ root.listener = Speaker.firstCounterpart rows)
      ∧ ∀ i row, (meaningful rows)[i]? = some row →
          isReserved row = false →
            ∃ node, compiled.graph.node? (numberOf i) = some node
              ∧ node.speaker = Speaker.speakerAt (meaningful rows) i
              ∧ node.listener = Speaker.listenerAt (meaningful rows) i := by
  obtain ⟨draft, root, others, hdraft, hconversant, hnodes, hroot, hothers⟩ :=
    nodes_of_compile h
  have hsound := sound_of_compile h
  refine ⟨hconversant, ⟨root, ?_, ?_⟩, fun i row hrow hstays => ?_⟩
  · have hid : root.localId = rootId := congrArg Node.localId hroot
    rw [← hid]
    exact hsound.node?_eq (by rw [hnodes]; exact List.mem_cons_self)
  · rw [← hconversant]
    exact congrArg Node.listener hroot
  · obtain ⟨voice, after, reports, script, hvoice, -, hget⟩ :=
      authored_of_draftFrom hdraft hrow
    obtain ⟨hvoice, -⟩ := Speaker.resolve_ok hvoice
    have hmem : nodeOf heading (rootId + 1 + i) row voice script
        ∈ others.map Node.bare := by
      rw [hothers]
      exact List.mem_map_of_mem (List.mem_filter.2
        ⟨List.mem_of_getElem? hget, by rw [hstays]; rfl⟩)
    obtain ⟨node, hnode, hbare⟩ := List.mem_map.1 hmem
    have hid : node.localId = numberOf i := by
      refine (congrArg Node.localId hbare).trans ?_
      show rootId + 1 + (i : Int) = (i : Int) + 1
      unfold rootId
      omega
    have hspoken := Speaker.speak_recalled hrow
    have hfirst : Speaker.firstCounterpart (meaningful rows)
        = compiled.graph.conversant := by
      rw [hconversant]
      unfold Speaker.firstCounterpart Speaker.earliest?
      rw [Speaker.numbers_meaningful]
    simp only [hfirst, ← Speaker.stateAfter_initial] at hspoken
    rw [hspoken] at hvoice
    refine ⟨node, ?_, ?_, ?_⟩
    · rw [← hid]
      exact hsound.node?_eq
        (by rw [hnodes]; exact List.mem_cons_of_mem _ hnode)
    · refine (congrArg Node.speaker hbare).trans ?_
      exact congrArg Speaker.Voice.speaker hvoice
    · refine (congrArg Node.listener hbare).trans ?_
      exact congrArg Speaker.Voice.listener hvoice

/-- A conversation with a character, an option, a blank cell, a cell that
is no number, and an actor with the number zero at its end. -/
def voicesStory : List Row :=
  [spokenRow 1 "" "Dawn." "" [],
   spokenRow 2 "1" "Who is there?" "" [],
   spokenRow 3 "5" "Me." "" [],
   spokenRow 4 "?" "And who are you?" "" [],
   spokenRow 5 "99" "Nobody" "" [],
   spokenRow 6 "0" "..." "" [],
   spokenRow 7 "7" "Silence." "" []]

/-- The narrator of the first row faces a character who has not spoken
yet; after a character with the number zero he faces the default one. -/
theorem voices_voicesStory :
    ∃ compiled, compile voicesStory ⟨1, "Demo"⟩ = .ok compiled
      ∧ compiled.graph.conversant = 5
      ∧ (∃ node, compiled.graph.node? 1 = some node
          ∧ node.speaker = 7 ∧ node.listener = 5)
      ∧ (∃ node, compiled.graph.node? 4 = some node
          ∧ node.speaker = 5 ∧ node.listener = 1)
      ∧ (∃ node, compiled.graph.node? 7 = some node
          ∧ node.speaker = 7 ∧ node.listener = 2) := by
  obtain ⟨compiled, h⟩ := Error.exists_ok
    (show (compile voicesStory ⟨1, "Demo"⟩).toOption.isSome = true by
      decide +kernel)
  obtain ⟨hconversant, -, hvoices⟩ := voices_of_compile h
  obtain ⟨first, hfirst, hfirstVoice⟩ := hvoices 0 _ rfl (by decide +kernel)
  obtain ⟨fourth, hfourth, hfourthVoice⟩ :=
    hvoices 3 _ rfl (by decide +kernel)
  obtain ⟨last, hlast, hlastVoice⟩ := hvoices 6 _ rfl (by decide +kernel)
  exact ⟨compiled, h, hconversant.trans (by decide +kernel),
    ⟨first, hfirst, hfirstVoice.1.trans (by decide +kernel),
      hfirstVoice.2.trans (by decide +kernel)⟩,
    ⟨fourth, hfourth, hfourthVoice.1.trans (by decide +kernel),
      hfourthVoice.2.trans (by decide +kernel)⟩,
    ⟨last, hlast, hlastVoice.1.trans (by decide +kernel),
      hlastVoice.2.trans (by decide +kernel)⟩⟩

end Storyline.Compile
