/-
The entry of a document: one node in front of the others, that no other
node can be taken for, linked to the first of them. The compiler links
it twice, before the reserved rows are taken out and after it if its
edge went with them; and the pass over the links between documents could
link it once more.

* however many rows are reserved, the entry of a compiled document leads
  to the first node that stays (`outgoing_entryNode`);
* the nodes that stay do not look like the entry (`entered_of_compile`);
* no link between documents starts at an entry (`rootId_lt_of_pending`),
  so relinking leaves all of this as it is (`Graph.Entered.relink`).

Main statement: `entry_of_run`, for every build that gives a result.
-/
import Storyline.Proofs.Build.Integrity

namespace Storyline

-- ======================================================== the predicates

/-- A node that cannot be taken for the entry. -/
structure Node.Ordinary (node : Node) : Prop where
  isRoot : node.isRoot = false
  localId : node.localId ≠ rootId
  title : node.title ≠ rootTitle
  bodyText : node.bodyText ≠ rootTitle

/-- The edge from the entry of a document to a node of it. -/
def entryEdge (document : Int) (node : Node) : Edge :=
  ⟨document, rootId, document, node.localId⟩

/-- The entry of a document and the nodes behind it. -/
structure EntryOf (document : Int) (root : Node) (others : List Node) :
    Prop where
  localId : root.localId = rootId
  title : root.title = rootTitle
  bodyText : root.bodyText = ""
  isRoot : root.isRoot = true
  outgoing : root.outgoing = (others.head?.map (entryEdge document)).toList
  others : ∀ node ∈ others, node.Ordinary

/-- A graph that begins with its entry. -/
def Graph.Entered (graph : Graph) : Prop :=
  ∃ root others, graph.nodes = root :: others
    ∧ EntryOf graph.documentId root others

theorem Node.Ordinary.linkEach {node : Node} (h : node.Ordinary)
    (goals : List Address) : (node.linkEach goals).Ordinary := by
  rw [Node.linkEach_eq]
  exact ⟨h.isRoot, h.localId, h.title, h.bodyText⟩

/-- Links that do not start at the entry leave it where it is. -/
theorem Graph.Entered.relink {graph : Graph} (h : graph.Entered)
    {owed : Address → List Address}
    (howed : owed (graph.documentId, rootId) = []) :
    (graph.relink owed).Entered := by
  obtain ⟨root, others, hnodes, hentry⟩ := h
  refine ⟨root, others.map fun node =>
    node.linkEach (owed (graph.documentId, node.localId)), ?_, ?_⟩
  · unfold Graph.relink
    simp only [hnodes, List.map_cons, hentry.localId, howed,
      Node.linkEach_nil]
  · refine ⟨hentry.localId, hentry.title, hentry.bodyText, hentry.isRoot,
      ?_, fun node hnode => ?_⟩
    · rw [hentry.outgoing]
      cases others with
      | nil => rfl
      | cons first rest =>
          show [entryEdge graph.documentId first]
            = [entryEdge graph.documentId (first.linkEach _)]
          unfold entryEdge
          rw [Node.linkEach_localId]
    · obtain ⟨old, hold, rfl⟩ := List.mem_map.1 hnode
      exact (hentry.others old hold).linkEach _

namespace Compile

open Script (Row)

variable {heading : Heading} {rows : List Row}

-- ===================================================== the entry node

/-- The bare entry is linked to the first of the nodes. -/
theorem outgoing_linkEntry_rootNode (heading : Heading) (counterpart : Int)
    (others : List Node) :
    (linkEntry heading.documentId others
        (rootNode heading counterpart)).outgoing
      = (others.head?.map (entryEdge heading.documentId)).toList := by
  cases others <;> rfl

/-- An entry that leads somewhere is left as it is. -/
theorem linkEntry_of_linked {document : Int} {others : List Node}
    {root : Node} (h : root.outgoing ≠ []) :
    linkEntry document others root = root := by
  unfold linkEntry
  split
  · next first rest hnone => exact absurd hnone h
  · rfl

/-- A first node that is not taken out stays the first. -/
theorem head?_dropReserved {document : Int} {first : Node}
    {rest : List Node} (h : first.localId ∉ goneIds (first :: rest)) :
    (dropReserved document (first :: rest)).head?
      = some (dropEdges document (goneIds (first :: rest)) first) := by
  have hkept : ((first :: rest).filter fun node =>
        !(goneIds (first :: rest)).contains node.localId)
      = first :: rest.filter fun node =>
          !(goneIds (first :: rest)).contains node.localId :=
    List.filter_cons_of_pos (by simpa using h)
  show (List.map _ ((first :: rest).filter fun node =>
    !(goneIds (first :: rest)).contains node.localId)).head? = _
  rw [hkept]
  rfl

/-- The entry of a finished document leads to the first of the nodes
that stay. Linked to the first node of all it keeps that edge when the
node stays; otherwise the edge is dropped, and it is linked again. -/
theorem outgoing_entryNode (heading : Heading) (counterpart : Int)
    (linked : List Node) :
    (entryNode heading counterpart linked).outgoing
      = ((dropReserved heading.documentId linked).head?.map
          (entryEdge heading.documentId)).toList := by
  cases linked with
  | nil => rfl
  | cons first rest =>
      have hfirst :=
        outgoing_linkEntry_rootNode heading counterpart (first :: rest)
      unfold entryNode
      by_cases hgone : first.localId ∈ goneIds (first :: rest)
      · -- the edge goes with the first node
        have hbare : dropEdges heading.documentId (goneIds (first :: rest))
              (linkEntry heading.documentId (first :: rest)
                (rootNode heading counterpart))
            = rootNode heading counterpart := by
          unfold dropEdges
          rw [hfirst]
          simp [entryEdge, hgone, linkEntry, rootNode, Node.link,
            Node.linksTo]
        rw [hbare]
        exact outgoing_linkEntry_rootNode heading counterpart _
      · -- the first node stays, and so does the edge
        have hkept : (dropEdges heading.documentId (goneIds (first :: rest))
              (linkEntry heading.documentId (first :: rest)
                (rootNode heading counterpart))).outgoing
            = [entryEdge heading.documentId first] := by
          unfold dropEdges
          rw [hfirst]
          simp [entryEdge, hgone]
        rw [linkEntry_of_linked (by rw [hkept]; exact List.cons_ne_nil _ _),
          hkept, head?_dropReserved hgone]
        rfl

/-- The entry has the fields that it was made with. -/
theorem bare_entryNode (heading : Heading) (counterpart : Int)
    (linked : List Node) :
    (entryNode heading counterpart linked).bare
      = (rootNode heading counterpart).bare := by
  have hlinkEntry : ∀ others root,
      (linkEntry heading.documentId others root).bare = root.bare := by
    intro others root
    rcases linkEntry_cases heading.documentId others root with
      h | ⟨first, rest, -, h⟩
    · rw [h]
    · rw [h, Node.bare_linkEach]
  unfold entryNode
  rw [hlinkEntry]
  show (linkEntry heading.documentId linked _).bare = _
  rw [hlinkEntry]

-- ==================================================== the other nodes

/-- The node of a row that is not reserved is an ordinary one. -/
theorem ordinary_linkedNode {i : Nat} {row : Row} {voice : Speaker.Voice}
    {script : String} (h : isReserved row = false) :
    (linkedNode heading rows i row voice script).Ordinary := by
  unfold isReserved at h
  simp only [Bool.or_eq_false_iff, decide_eq_false_iff_not] at h
  have hbare : (nodeOf heading (numberOf i) row voice script).Ordinary :=
    ⟨rfl, (rootId_lt_numberOf i).ne', h.1, h.2⟩
  exact hbare.linkEach _

/-- A node that stays is an ordinary one: a reserved one is taken out. -/
theorem ordinary_of_mem_dropReserved {linked : List Node}
    (h : LinkedRows heading rows linked) {node : Node}
    (hnode : node ∈ dropReserved heading.documentId linked) :
    node.Ordinary := by
  obtain ⟨old, hmem, hstays, rfl⟩ := mem_dropReserved_iff.1 hnode
  obtain ⟨i, row, voice, script, -, rfl⟩ := h.of_mem hmem
  have hplain : isReserved row = false := by
    rw [Bool.eq_false_iff]
    intro hreserved
    refine hstays (List.mem_map_of_mem (List.mem_filter.2 ⟨hmem, ?_⟩))
    rwa [looksLikeEntry_linkedNode]
  have hold : (linkedNode heading rows i row voice script).Ordinary :=
    ordinary_linkedNode hplain
  exact ⟨hold.isRoot, hold.localId, hold.title, hold.bodyText⟩

theorem entered_of_compile {compiled : Compiled}
    (h : compile rows heading = .ok compiled) : compiled.graph.Entered := by
  obtain ⟨counterpart, linked, hlinked, hdocument, -, hnodes⟩ :=
    linkedRows_of_compile h
  have hbare := bare_entryNode heading counterpart linked
  refine ⟨_, _, hnodes, ?_⟩
  rw [hdocument]
  exact {
    localId := congrArg Node.localId hbare
    title := congrArg Node.title hbare
    bodyText := congrArg Node.bodyText hbare
    isRoot := congrArg Node.isRoot hbare
    outgoing := outgoing_entryNode heading counterpart linked
    others := fun _ => ordinary_of_mem_dropReserved hlinked }

-- ======================================================= pending links

/-- The nodes of a draft have the numbers from its first on. -/
theorem Drafted.le_localId {n : Int} {authored : List Authored}
    (h : Drafted heading n rows authored) :
    ∀ a ∈ authored, n ≤ a.node.localId := by
  induction h with
  | nil n => exact fun _ ha => absurd ha List.not_mem_nil
  | @cons n row rows authored voice script rest ih =>
      intro a ha
      rcases List.mem_cons.1 ha with rfl | ha
      · exact Int.le_refl n
      · have := ih a ha
        omega

/-- A link to another document starts behind the entry. -/
theorem rootId_lt_of_pending {compiled : Compiled}
    (h : compile rows heading = .ok compiled) :
    ∀ link ∈ compiled.pending, rootId < link.originNode := by
  obtain ⟨counterpart, draft, -, -, hdraft, rfl⟩ := compile_ok h
  intro link hlink
  obtain ⟨a, ha, hlink⟩ :=
    List.mem_flatMap.1 (List.mem_filter.1 hlink).1
  obtain ⟨target, -, rfl⟩ := List.mem_map.1 hlink
  have := (drafted_of_draftFrom hdraft).1.le_localId a ha
  show rootId < a.node.localId
  omega

end Compile

namespace Build

variable {tree : FileTree} {format : Sheet.Format} {sources : Sources}
  {previous : Option Database} {result : Result}

-- ======================================================= the whole run

/-- Every document of a build begins with its entry. -/
theorem entered_of_run (h : run tree format sources previous = .ok result) :
    ∀ graph ∈ result.database.documents, graph.Entered := by
  obtain ⟨loaded, -, hassemble⟩ := Error.bind_eq_ok.1 h
  obtain ⟨compiled, hcompiled, hpass, hdocuments⟩ :=
    documents_of_assemble hassemble
  have hgraphs := soundGraphs_of_compileFrom hcompiled
  intro graph hgraph
  rw [hdocuments, CrossLink.graphs_attachAll hgraphs hpass] at hgraph
  obtain ⟨old, hold, rfl⟩ := List.mem_map.1 hgraph
  obtain ⟨c, hc, rfl⟩ := List.mem_map.1 hold
  obtain ⟨rows, heading, hcompile⟩ := compiled_of_compileFrom hcompiled c hc
  refine (Compile.entered_of_compile hcompile).relink ?_
  unfold CrossLink.goalsFrom
  rw [List.filterMap_eq_nil_iff]
  intro link hlink
  obtain ⟨hpending, horigin⟩ := List.mem_filter.1 hlink
  obtain ⟨other, hother, hpending⟩ := List.mem_flatMap.1 hpending
  obtain ⟨rows, heading, hcompile⟩ :=
    compiled_of_compileFrom hcompiled other hother
  have hbehind := Compile.rootId_lt_of_pending hcompile link hpending
  have hroot : link.originNode = rootId :=
    (Prod.ext_iff.1 (of_decide_eq_true horigin)).2
  omega

/-- The entry of a document. In the database of every build each graph
begins with its entry, which has the number 0 and the title START and is
the only node with this mark, this number, this title or START as its
text. It leads nowhere when there is no other node; otherwise it has one
edge, and that leads to the node of the same document with the smallest
number. -/
theorem entry_of_run (h : run tree format sources previous = .ok result) :
    ∀ graph ∈ result.database.documents, ∃ root others,
      graph.nodes = root :: others
        ∧ root.localId = 0
        ∧ root.title = "START"
        ∧ root.bodyText = ""
        ∧ root.isRoot = true
        ∧ (∀ node ∈ others,
            node.isRoot = false
              ∧ node.localId ≠ 0
              ∧ node.title ≠ "START"
              ∧ node.bodyText ≠ "START")
        ∧ (others = [] → root.outgoing = [])
        ∧ (others ≠ [] → ∃ first ∈ others,
            (∀ node ∈ others, first.localId ≤ node.localId)
              ∧ root.outgoing
                  = [⟨graph.documentId, 0, graph.documentId,
                      first.localId⟩]) := by
  intro graph hgraph
  obtain ⟨root, others, hnodes, hentry⟩ := entered_of_run h graph hgraph
  have hincreasing := ((documents_of_run h).2.1 graph hgraph).increasing
  unfold Graph.localIds at hincreasing
  rw [hnodes, List.map_cons, List.pairwise_cons] at hincreasing
  refine ⟨root, others, hnodes, hentry.localId, hentry.title,
    hentry.bodyText, hentry.isRoot, fun node hnode => ?_, ?_, ?_⟩
  · have hordinary := hentry.others node hnode
    exact ⟨hordinary.isRoot, hordinary.localId, hordinary.title,
      hordinary.bodyText⟩
  · rintro rfl
    exact hentry.outgoing
  · intro hne
    obtain ⟨first, rest, rfl⟩ := List.exists_cons_of_ne_nil hne
    refine ⟨first, List.mem_cons_self, fun node hnode => ?_, hentry.outgoing⟩
    rw [List.map_cons, List.pairwise_cons] at hincreasing
    rcases List.mem_cons.1 hnode with rfl | hnode
    · exact Int.le_refl _
    · exact (hincreasing.2.1 _ (List.mem_map_of_mem hnode)).le

/-- In a build of two documents with a link from one to the entry of the
other, both entries have their one edge. -/
theorem entry_echo :
    ∃ result, run echoTree ⟨",", "ascii"⟩ echoSources none = .ok result
      ∧ ∀ graph ∈ result.database.documents, ∃ root others,
          graph.nodes = root :: others ∧ root.title = "START"
            ∧ (others ≠ [] → root.outgoing.length = 1) := by
  obtain ⟨result, h⟩ := exists_run_echo
  refine ⟨result, h, fun graph hgraph => ?_⟩
  obtain ⟨root, others, hnodes, -, htitle, -, -, -, -, hone⟩ :=
    entry_of_run h graph hgraph
  refine ⟨root, others, hnodes, htitle, fun hne => ?_⟩
  obtain ⟨first, -, -, houtgoing⟩ := hone hne
  rw [houtgoing]
  rfl

end Build

end Storyline
