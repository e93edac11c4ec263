/-
The nodes and edges of a compiled document, row by row. The draft gives
each meaningful row a node (`Drafted`), the rules give each place its
goals (`goals`); here the two are put together over the whole of
`finish`: the linked node of a row, the rows that are taken out again
because they look like the entry, and what that does to the edges of
the others.

Main statements: a compiled graph is sound and contained, and the edges
of each row that stays are the first mentions among its goals that are
not taken out (`outgoing_of_compile`).
-/
import Storyline.Proofs.Graph.Sound

namespace Storyline.Compile

open Script (Row)

-- ============================================== rows and their nodes

/-- The number of the node of the row at a place. -/
def numberOf (i : Nat) : Int := (i : Int) + 1

/-- The edge from the node of one row of a document to another's. -/
def edgeBetween (document : Int) (i j : Nat) : Edge :=
  ⟨document, numberOf i, document, numberOf j⟩

/-- A row that a reader would take for the entry. -/
def isReserved (row : Row) : Bool :=
  row.nodeKey = rootTitle || row.text = rootTitle

/-- Whether there is such a row at a place. -/
def reservedAt (rows : List Row) (j : Nat) : Bool :=
  rows[j]?.any isReserved

/-- The address of the node of the row at a place. -/
def addressOf (document : Int) (j : Nat) : Address :=
  (document, numberOf j)

/-- The node of the row at a place with all its edges. -/
def linkedNode (heading : Heading) (rows : List Row) (i : Nat) (row : Row)
    (voice : Speaker.Voice) (script : String) : Node :=
  (nodeOf heading (numberOf i) row voice script).linkEach
    ((goals rows i row).map (addressOf heading.documentId))

theorem numberOf_injective : Function.Injective numberOf := by
  intro i j h
  unfold numberOf at h
  omega

theorem rootId_lt_numberOf (i : Nat) : rootId < numberOf i := by
  unfold rootId numberOf
  omega

/-- The loop numbers the rows from the entry on. -/
theorem rootId_add_eq_numberOf (i : Nat) :
    rootId + 1 + (i : Int) = numberOf i := by
  unfold rootId numberOf
  omega

theorem addressOf_injective (document : Int) :
    Function.Injective (addressOf document) := fun _ _ h =>
  numberOf_injective (Prod.ext_iff.1 h).2

variable {heading : Heading} {rows : List Row} {i j : Nat} {row : Row}
  {voice : Speaker.Voice} {script : String}

@[simp] theorem linkedNode_localId :
    (linkedNode heading rows i row voice script).localId = numberOf i := by
  unfold linkedNode
  rw [Node.linkEach_localId]
  rfl

/-- The edges of the node of a row, before any row is taken out. -/
theorem linkedNode_outgoing :
    (linkedNode heading rows i row voice script).outgoing
      = (goals rows i row).eraseDups.map
          (edgeBetween heading.documentId i) := by
  have hgained : (nodeOf heading (numberOf i) row voice script).gained
        ((goals rows i row).map (addressOf heading.documentId))
      = (goals rows i row).eraseDups.map
          (addressOf heading.documentId) := by
    rw [← eraseDups_map_of_injective (addressOf_injective _)]
    unfold Node.gained
    congr 1
    exact List.filter_eq_self.2 fun _ _ => rfl
  unfold linkedNode
  rw [Node.linkEach_eq, hgained, List.map_map]
  rfl

/-- The node of a row looks like the entry when the row does. -/
theorem looksLikeEntry_linkedNode :
    looksLikeEntry (linkedNode heading rows i row voice script)
      = isReserved row := by
  have hne : numberOf i ≠ rootId := (rootId_lt_numberOf i).ne'
  unfold looksLikeEntry
  rw [linkedNode_localId]
  unfold linkedNode
  rw [Node.linkEach_eq, decide_eq_true hne, Bool.true_and]
  rfl

theorem sound_linkedNode :
    (linkedNode heading rows i row voice script).Sound
      heading.documentId := by
  have hbare : (nodeOf heading (numberOf i) row voice script).Sound
      heading.documentId :=
    ⟨rfl, fun _ he => absurd he List.not_mem_nil, List.nodup_nil⟩
  exact hbare.linkEach _

/-- The node of a row leads to nodes of rows. -/
theorem pointsInto_linkedNode :
    (linkedNode heading rows i row voice script).PointsInto
      heading.documentId ((List.range rows.length).map numberOf) := by
  refine Node.PointsInto.linkEach (fun goal hgoal => ?_) fun goal hgoal => ?_
  · cases hgoal
  · obtain ⟨j, hj, rfl⟩ := List.mem_map.1 hgoal
    exact ⟨rfl, List.mem_map_of_mem (List.mem_range.2 (goals_lt hj))⟩

-- ================================================== the linked nodes

theorem linkNodes_getElem? (heading : Heading) (index : KeyIndex)
    (authored : List Authored) :
    ∀ i : Nat, (linkNodes heading index authored)[i]?
      = authored[i]?.map fun a =>
          a.node.linkAll heading.documentId
            (destinationIds index a.row (authored.drop (i + 1))) := by
  induction authored with
  | nil => exact fun _ => rfl
  | cons a rest ih =>
      intro i
      cases i with
      | zero => rfl
      | succ i =>
          show (linkNodes heading index rest)[i]? = _
          rw [ih i, List.getElem?_cons_succ, List.drop_succ_cons]

/-- The index of a draft leads from a key to the row that claims it. -/
theorem lookup_of_draftFrom {state : Speaker.State} {draft : Draft}
    (h : draftFrom heading state [] (rootId + 1) rows = .ok draft)
    (key : String) :
    draft.index.lookup key = (claimant? rows key).map numberOf := by
  rw [(drafted_of_draftFrom h).2, lookup_claimAll_nil]
  exact congrArg (Option.map · _) (funext rootId_add_eq_numberOf)

/-- The linked nodes of a draft, said without the draft: at every place
the linked node of the row there, and nothing else. -/
def LinkedRows (heading : Heading) (rows : List Row)
    (linked : List Node) : Prop :=
  linked.length = rows.length
    ∧ ∀ i row, rows[i]? = some row →
        ∃ voice script,
          linked[i]? = some (linkedNode heading rows i row voice script)

/-- The draft of a document, linked, holds the linked rows. -/
theorem linkedRows_of_draftFrom {state : Speaker.State} {draft : Draft}
    (h : draftFrom heading state [] (rootId + 1) rows = .ok draft) :
    LinkedRows heading rows
      (linkNodes heading draft.index draft.authored) := by
  obtain ⟨hdrafted, hindex⟩ := drafted_of_draftFrom h
  have hlookup : ∀ key, draft.index.lookup key
      = (claimant? rows key).map fun t : Nat => rootId + 1 + (t : Int) :=
    fun key => by rw [hindex, lookup_claimAll_nil]
  constructor
  · have hlength : ∀ authored : List Authored,
        (linkNodes heading draft.index authored).length
          = authored.length := by
      intro authored
      induction authored with
      | nil => rfl
      | cons a rest ih =>
          show (linkNodes heading draft.index rest).length + 1 = _
          rw [ih, List.length_cons]
    rw [hlength, hdrafted.length_eq]
  · intro i row hrow
    obtain ⟨voice, script, hget⟩ := hdrafted.getElem? hrow
    refine ⟨voice, script, ?_⟩
    have hgoals : destinationIds draft.index row
          (draft.authored.drop (i + 1))
        = (goals rows i row).map numberOf := by
      rw [destinationIds_eq hdrafted hlookup hrow]
      exact List.map_congr_left fun t _ => rootId_add_eq_numberOf t
    rw [linkNodes_getElem?, hget, Option.map_some, hgoals,
      Node.linkAll_eq_linkEach, List.map_map, rootId_add_eq_numberOf]
    rfl

namespace LinkedRows

variable {linked : List Node}

theorem of_mem (h : LinkedRows heading rows linked) {node : Node}
    (hnode : node ∈ linked) :
    ∃ i row voice script, rows[i]? = some row
      ∧ node = linkedNode heading rows i row voice script := by
  obtain ⟨i, hi⟩ := List.mem_iff_getElem?.1 hnode
  have hlt : i < rows.length := by
    rw [← h.1]
    exact (List.getElem?_eq_some_iff.1 hi).1
  have hrow := List.getElem?_eq_getElem hlt
  obtain ⟨voice, script, hget⟩ := h.2 i _ hrow
  rw [hi] at hget
  exact ⟨i, _, voice, script, hrow, Option.some.inj hget⟩

theorem localIds_eq (h : LinkedRows heading rows linked) :
    linked.map (·.localId) = (List.range rows.length).map numberOf := by
  refine List.ext_getElem? fun i => ?_
  rw [List.getElem?_map, List.getElem?_map]
  by_cases hi : i < rows.length
  · obtain ⟨voice, script, hget⟩ :=
      h.2 i _ (List.getElem?_eq_getElem hi)
    rw [hget, List.getElem?_range hi]
    simp
  · rw [List.getElem?_eq_none (by rw [h.1]; omega),
      List.getElem?_eq_none (by rw [List.length_range]; omega)]
    rfl

/-- The numbers that are taken out are those of the reserved rows. -/
theorem mem_gone_iff (h : LinkedRows heading rows linked) {j : Nat} :
    numberOf j ∈ (linked.filter looksLikeEntry).map (·.localId)
      ↔ reservedAt rows j = true := by
  unfold reservedAt
  constructor
  · intro hgone
    obtain ⟨node, hnode, hid⟩ := List.mem_map.1 hgone
    obtain ⟨hmem, hlooks⟩ := List.mem_filter.1 hnode
    obtain ⟨i, row, voice, script, hrow, rfl⟩ := h.of_mem hmem
    rw [looksLikeEntry_linkedNode] at hlooks
    rw [linkedNode_localId] at hid
    rw [← numberOf_injective hid, hrow]
    exact hlooks
  · intro hreserved
    obtain ⟨row, hrow, hlooks⟩ := (Option.any_eq_true _ _).1 hreserved
    obtain ⟨voice, script, hget⟩ := h.2 j row hrow
    refine List.mem_map.2 ⟨_, List.mem_filter.2
      ⟨List.mem_of_getElem? hget, ?_⟩, linkedNode_localId⟩
    rw [looksLikeEntry_linkedNode]
    exact hlooks

end LinkedRows

-- ================================================ taking rows out

/-- The numbers that `dropReserved` takes out. -/
def goneIds (nodes : List Node) : List Int :=
  (nodes.filter looksLikeEntry).map (·.localId)

/-- The entry node of a finished document. -/
def entryNode (heading : Heading) (counterpart : Int)
    (linked : List Node) : Node :=
  linkEntry heading.documentId (dropReserved heading.documentId linked)
    (dropEdges heading.documentId (goneIds linked)
      (linkEntry heading.documentId linked
        (rootNode heading counterpart)))

/-- A node that stays is one that is not taken out, without its edges to
those that are. -/
theorem mem_dropReserved_iff {document : Int} {nodes : List Node}
    {node : Node} :
    node ∈ dropReserved document nodes
      ↔ ∃ old ∈ nodes, old.localId ∉ goneIds nodes
          ∧ node = dropEdges document (goneIds nodes) old := by
  unfold dropReserved
  rw [List.mem_map]
  constructor
  · rintro ⟨old, hold, rfl⟩
    obtain ⟨hmem, hstays⟩ := List.mem_filter.1 hold
    exact ⟨old, hmem, by simpa [goneIds] using hstays, rfl⟩
  · rintro ⟨old, hmem, hstays, rfl⟩
    exact ⟨old, List.mem_filter.2 ⟨hmem, by simpa [goneIds] using hstays⟩,
      rfl⟩

theorem localIds_dropReserved (document : Int) (nodes : List Node) :
    (dropReserved document nodes).map (·.localId)
      = (nodes.map (·.localId)).filter fun id =>
          !(goneIds nodes).contains id := by
  unfold dropReserved
  rw [List.map_map, List.filter_map]
  rfl

section Finish

variable {linked : List Node} {counterpart : Int}

theorem entryNode_localId :
    (entryNode heading counterpart linked).localId = rootId := by
  unfold entryNode
  rw [linkEntry_localId]
  show (linkEntry heading.documentId linked
    (rootNode heading counterpart)).localId = rootId
  rw [linkEntry_localId]
  rfl

theorem sound_entryNode :
    (entryNode heading counterpart linked).Sound heading.documentId := by
  have hbare : (rootNode heading counterpart).Sound heading.documentId :=
    ⟨rfl, fun _ he => absurd he List.not_mem_nil, List.nodup_nil⟩
  exact sound_linkEntry (sound_dropEdges (sound_linkEntry hbare))

/-- The entry leads to a node that stays. -/
theorem pointsInto_entryNode :
    (entryNode heading counterpart linked).PointsInto heading.documentId
      ((dropReserved heading.documentId linked).map (·.localId)) := by
  have hbare : (rootNode heading counterpart).PointsInto
      heading.documentId (linked.map (·.localId)) :=
    fun _ hgoal => absurd hgoal List.not_mem_nil
  have hlinked : (linkEntry heading.documentId linked
      (rootNode heading counterpart)).PointsInto heading.documentId
        (linked.map (·.localId)) :=
    pointsInto_linkEntry hbare fun node hnode => List.mem_map_of_mem hnode
  refine pointsInto_linkEntry ?_ fun node hnode =>
    List.mem_map_of_mem hnode
  rw [localIds_dropReserved]
  exact pointsInto_dropEdges hlinked

/-- A node of a row that stays leads to nodes that stay. -/
theorem pointsInto_of_mem_dropReserved
    (h : LinkedRows heading rows linked) {node : Node}
    (hnode : node ∈ dropReserved heading.documentId linked) :
    node.PointsInto heading.documentId
      ((dropReserved heading.documentId linked).map (·.localId)) := by
  obtain ⟨old, hmem, -, rfl⟩ := mem_dropReserved_iff.1 hnode
  obtain ⟨i, row, voice, script, -, rfl⟩ := h.of_mem hmem
  rw [localIds_dropReserved, h.localIds_eq]
  exact pointsInto_dropEdges pointsInto_linkedNode

end Finish

-- ============================================ the compiled document

/-- What a document that compiles is made of: its heading, the entry,
and the linked rows that stay. -/
theorem linkedRows_of_compile {compiled : Compiled}
    (h : compile rows heading = .ok compiled) :
    ∃ counterpart linked,
      LinkedRows heading (meaningful rows) linked
        ∧ compiled.graph.documentId = heading.documentId
        ∧ compiled.graph.title = heading.title
        ∧ compiled.graph.nodes
            = entryNode heading counterpart linked
              :: dropReserved heading.documentId linked := by
  obtain ⟨counterpart, draft, -, -, hdraft, rfl⟩ := compile_ok h
  exact ⟨counterpart, _, linkedRows_of_draftFrom hdraft, rfl, rfl, rfl⟩

section Compiled

variable {compiled : Compiled}

theorem sound_of_compile (h : compile rows heading = .ok compiled) :
    compiled.graph.Sound := by
  obtain ⟨counterpart, linked, hlinked, hdocument, -, hnodes⟩ :=
    linkedRows_of_compile h
  refine ⟨?_, ?_, fun node hnode => ?_⟩
  · unfold Graph.localIds
    rw [hnodes]
    exact congrArg some entryNode_localId
  · have hids : (linked.map (·.localId)).Pairwise (· < ·) := by
      rw [hlinked.localIds_eq, List.pairwise_map]
      refine List.pairwise_lt_range.imp fun hlt => ?_
      unfold numberOf
      omega
    unfold Graph.localIds
    rw [hnodes, List.map_cons, List.pairwise_cons, entryNode_localId,
      localIds_dropReserved]
    refine ⟨fun id hid => ?_, hids.filter _⟩
    have hmem := (List.mem_filter.1 hid).1
    rw [hlinked.localIds_eq] at hmem
    obtain ⟨i, -, rfl⟩ := List.mem_map.1 hmem
    exact rootId_lt_numberOf i
  · rw [hdocument]
    rw [hnodes] at hnode
    rcases List.mem_cons.1 hnode with rfl | hnode
    · exact sound_entryNode
    · obtain ⟨old, hmem, -, rfl⟩ := mem_dropReserved_iff.1 hnode
      obtain ⟨i, row, voice, script, -, rfl⟩ := hlinked.of_mem hmem
      exact sound_dropEdges sound_linkedNode

theorem contained_of_compile (h : compile rows heading = .ok compiled) :
    compiled.graph.Contained := by
  obtain ⟨counterpart, linked, hlinked, hdocument, -, hnodes⟩ :=
    linkedRows_of_compile h
  intro node hnode
  unfold Graph.localIds
  rw [hdocument, hnodes, List.map_cons]
  rw [hnodes] at hnode
  rcases List.mem_cons.1 hnode with rfl | hnode
  · exact pointsInto_entryNode.mono fun id hid =>
      List.mem_cons_of_mem _ hid
  · exact (pointsInto_of_mem_dropReserved hlinked hnode).mono fun id hid =>
      List.mem_cons_of_mem _ hid

-- ========================================================= its edges

/-- The edges of a row that stays, when the reserved rows are out. -/
theorem outgoing_dropEdges_linkedNode {linked : List Node}
    (h : LinkedRows heading rows linked) :
    (dropEdges heading.documentId (goneIds linked)
        (linkedNode heading rows i row voice script)).outgoing
      = ((goals rows i row).eraseDups.filter
          fun j => !reservedAt rows j).map
            (edgeBetween heading.documentId i) := by
  have hgone : ∀ j, (goneIds linked).contains (numberOf j)
      = reservedAt rows j := fun j => by
    rw [Bool.eq_iff_iff, List.contains_iff_mem]
    exact h.mem_gone_iff
  show (linkedNode heading rows i row voice script).outgoing.filter
    (fun e => !(e.destinationDocument = heading.documentId
      && (goneIds linked).contains e.destinationNode)) = _
  rw [linkedNode_outgoing, List.filter_map]
  refine congrArg (List.map _) (List.filter_congr fun j _ => ?_)
  show (!(decide (heading.documentId = heading.documentId)
    && (goneIds linked).contains (numberOf j))) = _
  rw [hgone, decide_eq_true rfl, Bool.true_and]

/-- A row that is not reserved has a node among those that stay. -/
theorem exists_mem_dropReserved {linked : List Node}
    (h : LinkedRows heading rows linked) (hrow : rows[i]? = some row)
    (hstays : isReserved row = false) :
    ∃ node ∈ dropReserved heading.documentId linked,
      node.localId = numberOf i
        ∧ node.title = row.nodeKey
        ∧ node.bodyText = row.text
        ∧ node.rowNumber = some row.rowNumber
        ∧ node.outgoing
            = ((goals rows i row).eraseDups.filter
                fun j => !reservedAt rows j).map
                  (edgeBetween heading.documentId i) := by
  obtain ⟨voice, script, hget⟩ := h.2 i row hrow
  have hkept : (linkedNode heading rows i row voice script).localId
      ∉ goneIds linked := by
    rw [linkedNode_localId]
    intro hgone
    have hreserved := h.mem_gone_iff.1 hgone
    unfold reservedAt at hreserved
    rw [hrow] at hreserved
    exact absurd hreserved (by simpa using hstays)
  refine ⟨_, mem_dropReserved_iff.2
    ⟨_, List.mem_of_getElem? hget, hkept, rfl⟩, linkedNode_localId,
    ?_, ?_, ?_, outgoing_dropEdges_linkedNode h⟩
  all_goals
    unfold dropEdges linkedNode
    rw [Node.linkEach_eq]
    rfl

/-- The edges of a compiled document. Number the meaningful rows by
their places; every row that is not reserved has a node with the number
behind its place, and the node's edges lead to the first mentions among
the row's goals, less the reserved rows, in their order. -/
theorem outgoing_of_compile (h : compile rows heading = .ok compiled)
    (hrow : (meaningful rows)[i]? = some row)
    (hstays : isReserved row = false) :
    ∃ node, compiled.graph.node? (numberOf i) = some node
      ∧ node.title = row.nodeKey
      ∧ node.bodyText = row.text
      ∧ node.rowNumber = some row.rowNumber
      ∧ node.outgoing
          = ((goals (meaningful rows) i row).eraseDups.filter
              fun j => !reservedAt (meaningful rows) j).map
                (edgeBetween heading.documentId i) := by
  obtain ⟨counterpart, linked, hlinked, -, -, hnodes⟩ :=
    linkedRows_of_compile h
  obtain ⟨node, hnode, hid, hfields⟩ :=
    exists_mem_dropReserved hlinked hrow hstays
  refine ⟨node, ?_, hfields⟩
  rw [← hid]
  refine (sound_of_compile h).node?_eq ?_
  rw [hnodes]
  exact List.mem_cons_of_mem _ hnode

end Compiled

/-- A row with a speaker, a text, a key and targets, and nothing else. -/
def spokenRow (rowNumber : Int) (speaker text nodeKey : String)
    (linkTargets : List String) : Row :=
  { rowNumber, speaker, text, nodeKey, linkTargets
    choiceGroup := "", background := "", music := "", soundEffect := ""
    expression := "", sequence := "", autoProgressLocked := ""
    standingLeft := "", standingCenter := "", standingRight := "" }

/-- A question with targets of its own in front of a menu of three
options, of which the last looks like the entry. -/
def menuStory : List Row :=
  [spokenRow 1 "2" "Well?" "Ask" ["STAY", "end", "Other:x", "nowhere"],
   spokenRow 2 "99" "Go" "" [],
   spokenRow 3 "99" "Stay" "Stay" ["ask"],
   spokenRow 4 "99" "START" "" [],
   spokenRow 5 "7" "" "" [],
   spokenRow 6 "7" "So it ends." "End" []]

/-- The question leads to its two targets and then to the option that it
has not named: the named option is not repeated, and the reserved one is
gone. -/
theorem outgoing_menuStory :
    ∃ compiled node,
      compile menuStory ⟨1, "Demo"⟩ = .ok compiled
        ∧ compiled.graph.node? 1 = some node
        ∧ node.outgoing
            = [⟨1, 1, 1, 3⟩, ⟨1, 1, 1, 6⟩, ⟨1, 1, 1, 2⟩] := by
  obtain ⟨compiled, h⟩ := Error.exists_ok
    (show (compile menuStory ⟨1, "Demo"⟩).toOption.isSome = true by
      decide +kernel)
  have hrow : (meaningful menuStory)[0]?
      = some (spokenRow 1 "2" "Well?" "Ask"
          ["STAY", "end", "Other:x", "nowhere"]) := by decide +kernel
  obtain ⟨node, hnode, -, -, -, houtgoing⟩ :=
    outgoing_of_compile h hrow (by decide +kernel)
  exact ⟨compiled, node, h, hnode, houtgoing.trans (by decide +kernel)⟩

end Storyline.Compile
