/-
Other numbers for documents. The number of a document says only when it
was loaded, so nothing that the compiler or the pass over the links does
may depend on it: with other numbers, different ones for different
documents, the same comes out under the other numbers.

* `Graph.renumber` and its companions put other numbers in place of the
  old ones and touch nothing else;
* each operation that makes or drops edges commutes with them
  (`Node.linkEach_renumber`, `dropEdges_renumber`,
  `linkEntry_renumber`), so the compiler does (`compile_renumber`);
* where titles are different, a link means the same node in whatever
  order the documents stand (`destination?_renumber`), so every node is
  owed the same links (`goalsFrom_renumber`).

Consumed by builds with their stories in another order.
-/
import Mathlib.Data.List.Find
import Mathlib.Data.List.Perm.Basic
import Storyline.Proofs.Graph.Attach

namespace Storyline

-- ====================================================== other numbers

/-- An address under other numbers of documents. -/
def renumberAddress (number : Int → Int) (address : Address) : Address :=
  (number address.1, address.2)

/-- An edge under other numbers of documents. -/
def Edge.renumber (number : Int → Int) (edge : Edge) : Edge :=
  { edge with
    originDocument := number edge.originDocument
    destinationDocument := number edge.destinationDocument }

/-- A node under other numbers of documents. -/
def Node.renumber (number : Int → Int) (node : Node) : Node :=
  { node with
    documentId := number node.documentId
    outgoing := node.outgoing.map (Edge.renumber number) }

/-- A graph under other numbers of documents. -/
def Graph.renumber (number : Int → Int) (graph : Graph) : Graph :=
  { graph with
    documentId := number graph.documentId
    nodes := graph.nodes.map (Node.renumber number) }

/-- A pending link under other numbers of documents. -/
def PendingLink.renumber (number : Int → Int) (link : PendingLink) :
    PendingLink :=
  { link with documentId := number link.documentId }

variable {number : Int → Int}

@[simp] theorem Node.renumber_localId (node : Node) :
    (node.renumber number).localId = node.localId := rfl

@[simp] theorem Node.renumber_title (node : Node) :
    (node.renumber number).title = node.title := rfl

@[simp] theorem Graph.renumber_title (graph : Graph) :
    (graph.renumber number).title = graph.title := rfl

@[simp] theorem Graph.renumber_nodes (graph : Graph) :
    (graph.renumber number).nodes
      = graph.nodes.map (Node.renumber number) := rfl

@[simp] theorem PendingLink.renumber_target (link : PendingLink) :
    (link.renumber number).target = link.target := rfl

theorem PendingLink.origin_renumber (link : PendingLink) :
    (link.renumber number).origin = renumberAddress number link.origin :=
  rfl

theorem renumberAddress_injective (hnumber : Function.Injective number) :
    Function.Injective (renumberAddress number) := by
  rintro ⟨document, id⟩ ⟨other, otherId⟩ h
  obtain ⟨hdocument, hid⟩ := Prod.ext_iff.1 h
  exact Prod.ext_iff.2 ⟨hnumber hdocument, hid⟩

theorem Graph.localIds_renumber (graph : Graph) :
    (graph.renumber number).localIds = graph.localIds := by
  unfold Graph.localIds
  rw [Graph.renumber_nodes, List.map_map]
  rfl

-- ============================================================= linking

theorem Node.addresses_renumber (node : Node) :
    (node.renumber number).addresses
      = node.addresses.map (renumberAddress number) := by
  show (node.outgoing.map (Edge.renumber number)).map Edge.address = _
  unfold Node.addresses
  rw [List.map_map, List.map_map]
  rfl

/-- A link under other numbers: an edge is there under the one numbers
when it is there under the others. -/
theorem Node.link_renumber (hnumber : Function.Injective number)
    (node : Node) (goal : Address) :
    (node.renumber number).link (number goal.1) goal.2
      = (node.link goal.1 goal.2).renumber number := by
  have hmem : renumberAddress number goal ∈ (node.renumber number).addresses
      ↔ goal ∈ node.addresses := by
    rw [Node.addresses_renumber,
      List.mem_map_of_injective (renumberAddress_injective hnumber)]
  by_cases hgoal : goal ∈ node.addresses
  · rw [Node.link_of_mem hgoal]
    exact Node.link_of_mem (hmem.2 hgoal)
  · rw [Node.link_of_not_mem hgoal]
    refine (Node.link_of_not_mem (mt hmem.1 hgoal)).trans ?_
    unfold Node.renumber
    simp only [List.map_append, List.map_singleton]
    rfl

theorem Node.linkEach_renumber (hnumber : Function.Injective number)
    (node : Node) (goals : List Address) :
    (node.renumber number).linkEach (goals.map (renumberAddress number))
      = (node.linkEach goals).renumber number := by
  induction goals generalizing node with
  | nil => rfl
  | cons goal goals ih =>
      rw [List.map_cons, Node.linkEach_cons, Node.linkEach_cons, ← ih,
        ← Node.link_renumber hnumber]
      rfl

/-- Relinking under other numbers is relinking by what is owed to the
addresses under these numbers. -/
theorem Graph.relink_renumber (hnumber : Function.Injective number)
    {owed others : Address → List Address} (graph : Graph)
    (howed : ∀ address, others (renumberAddress number address)
      = (owed address).map (renumberAddress number)) :
    (graph.renumber number).relink others
      = (graph.relink owed).renumber number := by
  unfold Graph.relink Graph.renumber
  simp only [Graph.mk.injEq, true_and, List.map_map]
  refine List.map_congr_left fun node _ => ?_
  rw [Function.comp_apply, Function.comp_apply,
    ← Node.linkEach_renumber hnumber, ← howed]
  rfl

theorem Node.Sound.renumber {document : Int} {node : Node}
    (h : node.Sound document) (hnumber : Function.Injective number) :
    (node.renumber number).Sound (number document) := by
  constructor
  · exact congrArg number h.documentId
  · intro e he
    obtain ⟨old, hold, rfl⟩ := List.mem_map.1 he
    obtain ⟨hdocument, hnode⟩ := h.origin old hold
    exact ⟨congrArg number hdocument, hnode⟩
  · rw [Node.addresses_renumber]
    exact h.distinct.map (renumberAddress_injective hnumber)

theorem Graph.Sound.renumber {graph : Graph} (h : graph.Sound)
    (hnumber : Function.Injective number) :
    (graph.renumber number).Sound := by
  constructor
  · rw [Graph.localIds_renumber]
    exact h.entry
  · rw [Graph.localIds_renumber]
    exact h.increasing
  · intro node hnode
    obtain ⟨old, hold, rfl⟩ := List.mem_map.1 hnode
    exact (h.nodes old hold).renumber hnumber

-- ========================================================== compiling

namespace Compile

open Script (Row)

/-- A row and its node under other numbers. -/
def Authored.renumber (number : Int → Int) (a : Authored) : Authored :=
  { a with node := a.node.renumber number }

/-- A heading with another number. -/
def Heading.renumber (number : Int → Int) (heading : Heading) : Heading :=
  { heading with documentId := number heading.documentId }

/-- A draft under other numbers. -/
def Draft.renumber (number : Int → Int) (draft : Draft) : Draft :=
  { draft with authored := draft.authored.map (Authored.renumber number) }

/-- A compiled document under other numbers. -/
def Compiled.renumber (number : Int → Int) (compiled : Compiled) :
    Compiled :=
  { compiled with
    graph := compiled.graph.renumber number
    pending := compiled.pending.map (PendingLink.renumber number) }

variable {heading : Heading} {rows : List Row}

/-- The draft of a document with another number. -/
theorem draftFrom_renumber {state : Speaker.State} {index : KeyIndex}
    {n : Int} {draft : Draft}
    (h : draftFrom heading state index n rows = .ok draft) :
    draftFrom (heading.renumber number) state index n rows
      = .ok (draft.renumber number) := by
  induction rows generalizing state index n draft with
  | nil =>
      cases h
      rfl
  | cons row rows ih =>
      obtain ⟨voice, after, reports, script, rest, hvoice, hscript, hlog,
        hhas, hrest, rfl⟩ := draftFrom_cons_eq_ok_iff.1 h
      exact draftFrom_cons_eq_ok_iff.2 ⟨voice, after, reports, script, _,
        hvoice, hscript, hlog, hhas, ih hrest, rfl⟩

/-- Where a row leads does not depend on numbers of documents. -/
theorem destinationIds_renumber (index : KeyIndex) (row : Row)
    (rest : List Authored) :
    destinationIds index row (rest.map (Authored.renumber number))
      = destinationIds index row rest := by
  have hmenu : menuIds (rest.map (Authored.renumber number))
      = menuIds rest := by
    unfold menuIds
    rw [List.takeWhile_map, List.map_map]
    rfl
  have hfollowing : followingIds row (rest.map (Authored.renumber number))
      = followingIds row rest := by
    cases rest with
    | nil => rfl
    | cons next rest =>
        rw [List.map_cons]
        unfold followingIds
        simp only
        rw [List.find?_map, Option.map_map]
        rfl
  unfold destinationIds
  rw [hmenu, hfollowing]

theorem linkNodes_renumber (hnumber : Function.Injective number)
    (index : KeyIndex) (authored : List Authored) :
    linkNodes (heading.renumber number) index
        (authored.map (Authored.renumber number))
      = (linkNodes heading index authored).map (Node.renumber number) := by
  induction authored with
  | nil => rfl
  | cons a rest ih =>
      rw [List.map_cons]
      unfold linkNodes
      rw [ih, List.map_cons, destinationIds_renumber,
        Node.linkAll_eq_linkEach, Node.linkAll_eq_linkEach,
        ← Node.linkEach_renumber hnumber, List.map_map]
      rfl

theorem goneIds_renumber (nodes : List Node) :
    goneIds (nodes.map (Node.renumber number)) = goneIds nodes := by
  unfold goneIds
  rw [List.filter_map, List.map_map]
  rfl

theorem dropEdges_renumber (hnumber : Function.Injective number)
    (document : Int) (gone : List Int) (node : Node) :
    dropEdges (number document) gone (node.renumber number)
      = (dropEdges document gone node).renumber number := by
  unfold dropEdges Node.renumber
  simp only [Node.mk.injEq, true_and, and_true]
  rw [List.filter_map]
  refine congrArg _ (List.filter_congr fun edge _ => ?_)
  show (!(decide (number edge.destinationDocument = number document)
    && gone.contains edge.destinationNode)) = _
  rw [decide_eq_decide.2 hnumber.eq_iff]

theorem dropReserved_renumber (hnumber : Function.Injective number)
    (document : Int) (nodes : List Node) :
    dropReserved (number document) (nodes.map (Node.renumber number))
      = (dropReserved document nodes).map (Node.renumber number) := by
  show ((nodes.map (Node.renumber number)).filter fun node =>
      !(goneIds (nodes.map (Node.renumber number))).contains
        node.localId).map (dropEdges (number document)
          (goneIds (nodes.map (Node.renumber number)))) = _
  rw [goneIds_renumber, List.filter_map, List.map_map]
  unfold dropReserved
  rw [List.map_map]
  exact List.map_congr_left fun node _ =>
    dropEdges_renumber hnumber document _ node

theorem linkEntry_renumber (hnumber : Function.Injective number)
    (document : Int) (others : List Node) (root : Node) :
    linkEntry (number document) (others.map (Node.renumber number))
        (root.renumber number)
      = (linkEntry document others root).renumber number := by
  unfold linkEntry
  cases hout : root.outgoing with
  | cons edge edges =>
      have : (root.renumber number).outgoing
          = edge.renumber number :: edges.map (Edge.renumber number) := by
        unfold Node.renumber
        rw [hout]
        rfl
      rw [this]
  | nil =>
      have : (root.renumber number).outgoing = [] := by
        unfold Node.renumber
        rw [hout]
        rfl
      rw [this]
      cases others with
      | nil => rfl
      | cons first rest =>
          exact Node.link_renumber hnumber root (document, first.localId)

theorem pendingLinks_renumber (a : Authored) :
    pendingLinks (heading.renumber number) (a.renumber number)
      = (pendingLinks heading a).map (PendingLink.renumber number) := by
  unfold pendingLinks
  rw [List.map_map]
  rfl

theorem entryNode_renumber (hnumber : Function.Injective number)
    (counterpart : Int) (linked : List Node) :
    entryNode (heading.renumber number) counterpart
        (linked.map (Node.renumber number))
      = (entryNode heading counterpart linked).renumber number := by
  unfold entryNode
  rw [← linkEntry_renumber hnumber, ← dropReserved_renumber hnumber,
    ← dropEdges_renumber hnumber, ← linkEntry_renumber hnumber,
    goneIds_renumber]
  rfl

/-- The links that a finished document leaves pending. -/
def pendingOf (heading : Heading) (draft : Draft) (linked : List Node) :
    List PendingLink :=
  (draft.authored.flatMap (pendingLinks heading)).filter fun link =>
    !(goneIds linked).contains link.originNode

theorem pendingOf_renumber (draft : Draft) (linked : List Node) :
    pendingOf (heading.renumber number) (draft.renumber number)
        (linked.map (Node.renumber number))
      = (pendingOf heading draft linked).map
          (PendingLink.renumber number) := by
  have hlinks : (draft.renumber number).authored.flatMap
        (pendingLinks (heading.renumber number))
      = (draft.authored.flatMap (pendingLinks heading)).map
          (PendingLink.renumber number) := by
    show (draft.authored.map (Authored.renumber number)).flatMap _ = _
    rw [List.flatMap_map, List.map_flatMap]
    exact List.flatMap_congr fun a _ => pendingLinks_renumber a
  unfold pendingOf
  rw [hlinks, goneIds_renumber, List.filter_map]
  rfl

theorem linkReports_renumber (draft : Draft) :
    (draft.renumber number).linkReports (heading.renumber number)
      = draft.linkReports heading := by
  unfold Draft.linkReports Draft.renumber
  rw [List.flatMap_map]
  rfl

/-- What is reported on a finished document. -/
def reportsOf (heading : Heading) (draft : Draft) (linked : List Node) :
    List Diagnostic :=
  draft.reports
    ++ draft.linkReports heading
    ++ (if (goneIds linked).isEmpty then []
        else [.reservedStartRemoved heading.title (goneIds linked).length])
    ++ [.documentCompiled heading.title draft.authored.length
          (pendingOf heading draft linked).length]

theorem reportsOf_renumber (draft : Draft) (linked : List Node) :
    reportsOf (heading.renumber number) (draft.renumber number)
        (linked.map (Node.renumber number))
      = reportsOf heading draft linked := by
  unfold reportsOf
  rw [pendingOf_renumber, goneIds_renumber, List.length_map,
    linkReports_renumber]
  unfold Draft.renumber
  rw [List.length_map]
  rfl

/-- Finishing a draft with another number. -/
theorem finish_renumber (hnumber : Function.Injective number)
    (counterpart : Int) (draft : Draft) :
    finish (heading.renumber number) counterpart (draft.renumber number)
      = (finish heading counterpart draft).renumber number := by
  have hlinked : linkNodes (heading.renumber number)
        (draft.renumber number).index (draft.renumber number).authored
      = (linkNodes heading draft.index draft.authored).map
          (Node.renumber number) :=
    linkNodes_renumber hnumber draft.index draft.authored
  -- both sides put together the same four parts
  show Compiled.mk
      ⟨number heading.documentId, heading.title, Actor.player, counterpart,
        entryNode (heading.renumber number) counterpart _
          :: dropReserved (number heading.documentId) _⟩
      (pendingOf (heading.renumber number) (draft.renumber number) _)
      (draft.authored.map (Authored.renumber number)).length
      (reportsOf (heading.renumber number) (draft.renumber number) _) = _
  rw [hlinked, entryNode_renumber hnumber, dropReserved_renumber hnumber,
    pendingOf_renumber, reportsOf_renumber, List.length_map]
  rfl

/-- Compiling the same rows under the same title with another number. -/
theorem compile_renumber (hnumber : Function.Injective number)
    {compiled : Compiled} (h : compile rows heading = .ok compiled)
    (hpositive : 1 ≤ number heading.documentId) :
    compile rows (heading.renumber number)
      = .ok (compiled.renumber number) := by
  obtain ⟨counterpart, draft, ⟨hcounterpart, hissues, hdraft, rfl⟩, hlog⟩ :=
    compile_eq_ok_iff.1 h
  have hother : (heading.renumber number).issues = [] := by
    unfold Heading.issues at hissues ⊢
    rw [if_neg (show ¬ (heading.renumber number).documentId < 1 from
      Int.not_lt.2 hpositive)]
    exact (List.append_eq_nil_iff.1 hissues).2
  refine compile_eq_ok_iff.2 ⟨counterpart, draft.renumber number,
    ⟨hcounterpart, hother, draftFrom_renumber hdraft,
      (finish_renumber hnumber counterpart draft).symm⟩, ?_⟩
  rw [linkReports_renumber]
  exact hlog

end Compile

-- =========================================================== the pass

namespace CrossLink

variable {graphs : List Graph}

theorem unseen_renumber :
    Unseen (Graph.renumber number) (Node.renumber number) :=
  ⟨fun _ => rfl, fun _ => rfl, fun _ => rfl, fun _ => rfl⟩

theorem destination?_renumber (hnumber : Function.Injective number)
    (link : PendingLink) :
    destination? (graphs.map (Graph.renumber number)) (link.renumber number)
      = (destination? graphs link).map (renumberAddress number) := by
  unfold destination?
  rw [outcomeOf_map unseen_renumber (link.renumber_target) rfl
    fun graph => hnumber.eq_iff]
  cases outcomeOf graphs link <;> rfl

/-- What links are owed under other numbers. -/
theorem goalsFrom_renumber (hnumber : Function.Injective number)
    (links : List PendingLink) (address : Address) :
    goalsFrom (graphs.map (Graph.renumber number))
        (links.map (PendingLink.renumber number))
        (renumberAddress number address)
      = (goalsFrom graphs links address).map (renumberAddress number) := by
  have horigin : (fun link : PendingLink => decide
        (link.origin = renumberAddress number address))
          ∘ PendingLink.renumber number
      = fun link => decide (link.origin = address) := by
    funext link
    rw [Function.comp_apply, PendingLink.origin_renumber]
    exact decide_eq_decide.2 (renumberAddress_injective hnumber).eq_iff
  unfold goalsFrom
  rw [List.filter_map, horigin, List.filterMap_map, List.map_filterMap]
  exact List.filterMap_congr fun link _ => destination?_renumber hnumber link

theorem soundGraphs_renumber (hnumber : Function.Injective number)
    (h : SoundGraphs graphs) :
    SoundGraphs (graphs.map (Graph.renumber number)) := by
  constructor
  · intro graph hgraph
    obtain ⟨old, hold, rfl⟩ := List.mem_map.1 hgraph
    exact (h.each old hold).renumber hnumber
  · have hids : (graphs.map (Graph.renumber number)).map (·.documentId)
        = (graphs.map (·.documentId)).map number := by
      simp only [List.map_map]
      rfl
    rw [hids]
    exact h.distinct.map hnumber

theorem edgeCount_of_perm {others : List Graph}
    (hperm : graphs.Perm others) : edgeCount graphs = edgeCount others :=
  (hperm.flatMap_right Graph.edges).length_eq

theorem edgeCount_renumber (graphs : List Graph) :
    edgeCount (graphs.map (Graph.renumber number)) = edgeCount graphs := by
  have hedges (graph : Graph) :
      (graph.renumber number).edges
        = graph.edges.map (Edge.renumber number) := by
    simp only [Graph.edges, Graph.renumber_nodes, List.flatMap_map,
      List.map_flatMap]
    rfl
  simp only [edgeCount, List.flatMap_map, hedges, ← List.map_flatMap,
    List.length_map]

/-- Under other numbers the pass goes through just when it does. -/
theorem failure_renumber (hnumber : Function.Injective number)
    (h : SoundGraphs graphs) (links : List PendingLink) :
    (attachAll (graphs.map (Graph.renumber number))
          (links.map (PendingLink.renumber number))).failure
        = (attachAll graphs links).failure := by
  rw [failure_attachAll h, failure_attachAll (soundGraphs_renumber hnumber h),
    List.all_map]
  congr 2
  funext link
  exact isReportable_map unseen_renumber link.renumber_target rfl rfl
    fun graph => hnumber.eq_iff

/-- The pass over the same documents and links under other numbers. -/
theorem attachAll_renumber (hnumber : Function.Injective number)
    (h : SoundGraphs graphs) {links : List PendingLink}
    (hfailure : (attachAll graphs links).failure = none) :
    (attachAll (graphs.map (Graph.renumber number))
          (links.map (PendingLink.renumber number))).graphs
        = (attachAll graphs links).graphs.map (Graph.renumber number) := by
  have hothers : (attachAll (graphs.map (Graph.renumber number))
      (links.map (PendingLink.renumber number))).failure = none :=
    (failure_renumber hnumber h links).trans hfailure
  rw [graphs_attachAll h hfailure,
    graphs_attachAll (soundGraphs_renumber hnumber h) hothers,
    List.map_map, List.map_map]
  exact List.map_congr_left fun graph _ =>
    Graph.relink_renumber hnumber graph (goalsFrom_renumber hnumber links)

/-- Under other numbers the pass makes as many edges. -/
theorem added_renumber (hnumber : Function.Injective number)
    (h : SoundGraphs graphs) {links : List PendingLink}
    (hfailure : (attachAll graphs links).failure = none) :
    (attachAll (graphs.map (Graph.renumber number))
          (links.map (PendingLink.renumber number))).added
        = (attachAll graphs links).added := by
  have hcount := edgeCount_attachAll h links
  have hothers := edgeCount_attachAll (soundGraphs_renumber hnumber h)
    (links.map (PendingLink.renumber number))
  rw [attachAll_renumber hnumber h hfailure, edgeCount_renumber,
    edgeCount_renumber] at hothers
  omega

-- ========================================== the order of the documents

section Order

variable {others : List Graph} {links rest : List PendingLink}

theorem byTitle?_of_perm (hperm : graphs.Perm others)
    (htitles : (graphs.map fun graph => Text.lower graph.title).Nodup)
    (title : String) : byTitle? graphs title = byTitle? others title := by
  apply List.find?_eq_find?_of_perm hperm
  rintro graph ⟨hgraph, hname⟩ other ⟨hother, hsame⟩
  apply List.inj_on_of_nodup_map htitles hgraph hother
  simp only [Text.sameName_iff] at hname hsame
  rw [hname, hsame]

theorem byId?_of_perm (hperm : graphs.Perm others)
    (hdistinct : (graphs.map (·.documentId)).Nodup) (documentId : Int) :
    byId? graphs documentId = byId? others documentId := by
  have hreverse : graphs.reverse.Perm others.reverse :=
    (graphs.reverse_perm.trans hperm).trans others.reverse_perm.symm
  apply List.find?_eq_find?_of_perm hreverse
  rintro graph ⟨hgraph, hid⟩ other ⟨hother, hsame⟩
  simp only [List.mem_reverse, decide_eq_true_eq] at hgraph hother hid hsame
  apply List.inj_on_of_nodup_map hdistinct hgraph hother
  rw [hid, hsame]

/-- Where titles and numbers are different, a link comes to the same in
whatever order the documents stand. -/
theorem outcomeOf_of_perm (hperm : graphs.Perm others)
    (hdistinct : (graphs.map (·.documentId)).Nodup)
    (htitles : (graphs.map fun graph => Text.lower graph.title).Nodup)
    (link : PendingLink) : outcomeOf graphs link = outcomeOf others link := by
  unfold outcomeOf origin?
  simp only [byTitle?_of_perm hperm htitles, byId?_of_perm hperm hdistinct]

/-- An address is owed the same when the links that start there stand in
the same order, wherever the others stand. -/
theorem goalsFrom_of_perm (hperm : graphs.Perm others)
    (hdistinct : (graphs.map (·.documentId)).Nodup)
    (htitles : (graphs.map fun graph => Text.lower graph.title).Nodup)
    (hlinks : ∀ address : Address, links.filter (·.origin = address)
      = rest.filter (·.origin = address)) :
    goalsFrom graphs links = goalsFrom others rest := by
  have hdestination : destination? graphs = destination? others := by
    funext link
    unfold destination?
    rw [outcomeOf_of_perm hperm hdistinct htitles]
  funext address
  unfold goalsFrom
  rw [hlinks, hdestination]

theorem SoundGraphs.of_perm (hperm : graphs.Perm others)
    (h : SoundGraphs graphs) : SoundGraphs others := by
  constructor
  · intro graph hgraph
    exact h.each graph (hperm.mem_iff.2 hgraph)
  · exact (hperm.map _).nodup_iff.1 h.distinct

/-- Links that stand in the same order where they start at the same
address are the same links. -/
theorem mem_of_filter_origin (hlinks : ∀ address : Address,
      links.filter (·.origin = address) = rest.filter (·.origin = address))
    (link : PendingLink) : link ∈ links ↔ link ∈ rest := by
  have hown : ∀ l : List PendingLink,
      link ∈ l ↔ link ∈ l.filter (·.origin = link.origin) := by
    intro l
    rw [List.mem_filter, decide_eq_true rfl, and_iff_left rfl]
  rw [hown links, hown rest, hlinks]

theorem failure_attachAll_of_perm (hperm : graphs.Perm others)
    (h : SoundGraphs graphs)
    (htitles : (graphs.map fun graph => Text.lower graph.title).Nodup)
    (hlinks : ∀ address : Address, links.filter (·.origin = address)
      = rest.filter (·.origin = address)) :
    (attachAll others rest).failure = (attachAll graphs links).failure := by
  have hreportable : isReportable others = isReportable graphs := by
    funext link
    unfold isReportable isWorded
    rw [outcomeOf_of_perm hperm h.distinct htitles]
  rw [failure_attachAll h, failure_attachAll (SoundGraphs.of_perm hperm h),
    hreportable]
  congr 1
  rw [Bool.eq_iff_iff, List.all_eq_true, List.all_eq_true]
  simp only [mem_of_filter_origin hlinks]

/-- The pass over the same documents in another order, and over links
that stand in the same order where they start at the same address: the
graphs are relinked alike. -/
theorem attachAll_of_perm (hperm : graphs.Perm others)
    (h : SoundGraphs graphs)
    (htitles : (graphs.map fun graph => Text.lower graph.title).Nodup)
    (hlinks : ∀ address : Address, links.filter (·.origin = address)
      = rest.filter (·.origin = address))
    (hfailure : (attachAll graphs links).failure = none) :
    (attachAll others rest).failure = none
      ∧ (attachAll others rest).graphs
        = others.map (Graph.relink (goalsFrom graphs links))
      ∧ (attachAll others rest).added = (attachAll graphs links).added := by
  have hothers : SoundGraphs others := SoundGraphs.of_perm hperm h
  have hgoals := goalsFrom_of_perm hperm h.distinct htitles hlinks
  have hother : (attachAll others rest).failure = none :=
    (failure_attachAll_of_perm hperm h htitles hlinks).trans hfailure
  have hrelinked : (attachAll others rest).graphs
      = others.map (Graph.relink (goalsFrom graphs links)) := by
    rw [graphs_attachAll hothers hother, hgoals]
  refine ⟨hother, hrelinked, ?_⟩
  have hcount := edgeCount_attachAll h links
  have hcount' := edgeCount_attachAll hothers rest
  rw [graphs_attachAll h hfailure, edgeCount_of_perm (hperm.map _),
    edgeCount_of_perm hperm] at hcount
  rw [hrelinked] at hcount'
  omega

end Order

end CrossLink

end Storyline
