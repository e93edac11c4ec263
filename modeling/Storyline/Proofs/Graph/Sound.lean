/-
Sound graphs: what every later reader of a graph relies on.

* `Node.Sound`: a node's edges start at the node itself, and no two of
  them lead to one address;
* `Graph.Sound`: the entry comes first, the numbers increase from it
  on, and every node is sound; `SoundGraphs` are several of these with
  different documents;
* `Graph.Contained`: edges stay inside the document.

Each operation of the compiler gets one lemma for the node-level facts
(`linkEach`, `dropEdges`, `linkEntry`); the graph of a compiled document
is then sound and contained (`sound_of_compile`,
`contained_of_compile`) by putting these together once. The pass over
the links between documents keeps soundness and gives containment up
for one address space of all documents.
-/
import Storyline.Proofs.Graph.Destinations

namespace Storyline

-- ================================================== the predicates

/-- A node of a document whose edges start at it and lead to different
addresses. -/
structure Node.Sound (document : Int) (node : Node) : Prop where
  documentId : node.documentId = document
  origin : ∀ e ∈ node.outgoing,
    e.originDocument = node.documentId ∧ e.originNode = node.localId
  distinct : node.addresses.Nodup

/-- A node whose edges lead to some numbers of one document. -/
def Node.PointsInto (document : Int) (localIds : List Int)
    (node : Node) : Prop :=
  ∀ goal ∈ node.addresses, goal.1 = document ∧ goal.2 ∈ localIds

/-- The numbers of the nodes of a graph, in order. -/
def Graph.localIds (graph : Graph) : List Int :=
  graph.nodes.map (·.localId)

/-- A graph that begins with the entry, with increasing numbers and
sound nodes. -/
structure Graph.Sound (graph : Graph) : Prop where
  entry : graph.localIds.head? = some rootId
  increasing : graph.localIds.Pairwise (· < ·)
  nodes : ∀ node ∈ graph.nodes, node.Sound graph.documentId

/-- Sound graphs of different documents. -/
structure SoundGraphs (graphs : List Graph) : Prop where
  each : ∀ graph ∈ graphs, graph.Sound
  distinct : (graphs.map (·.documentId)).Nodup

/-- A graph whose edges lead to its own nodes. -/
def Graph.Contained (graph : Graph) : Prop :=
  ∀ node ∈ graph.nodes, node.PointsInto graph.documentId graph.localIds

/-- In a sound graph a node is found by its number. -/
theorem Graph.Sound.node?_eq {graph : Graph} (h : graph.Sound)
    {node : Node} (hnode : node ∈ graph.nodes) :
    graph.node? node.localId = some node := by
  have hincreasing := List.pairwise_map.1 h.increasing
  obtain ⟨before, after, hsplit⟩ := List.append_of_mem hnode
  unfold Graph.node?
  rw [List.find?_eq_some_iff_append]
  refine ⟨by simp, before, after, hsplit, fun other hother => ?_⟩
  rw [hsplit, List.pairwise_append] at hincreasing
  have hlt := hincreasing.2.2 other hother node List.mem_cons_self
  have hne : other.localId ≠ node.localId := by omega
  simpa using hne

-- ============================================ what operations keep

namespace Node

variable {document : Int} {localIds gone : List Int} {node : Node}

/-- Links added to a sound node start at it. -/
theorem Sound.linkEach (h : node.Sound document) (goals : List Address) :
    (node.linkEach goals).Sound document := by
  refine ⟨?_, ?_, nodup_addresses_linkEach goals h.distinct⟩
  · rw [linkEach_eq]
    exact h.documentId
  · rw [linkEach_eq]
    intro e he
    rcases List.mem_append.1 he with he | he
    · exact h.origin e he
    · obtain ⟨goal, -, rfl⟩ := List.mem_map.1 he
      exact ⟨rfl, rfl⟩

theorem link_eq_linkEach (node : Node) (goal : Address) :
    node.link goal.1 goal.2 = node.linkEach [goal] := rfl

theorem linkEach_localId (node : Node) (goals : List Address) :
    (node.linkEach goals).localId = node.localId := by
  rw [linkEach_eq]

theorem PointsInto.mono (h : node.PointsInto document localIds)
    {others : List Int} (hsub : ∀ id ∈ localIds, id ∈ others) :
    node.PointsInto document others := fun goal hgoal =>
  ⟨(h goal hgoal).1, hsub _ (h goal hgoal).2⟩

/-- Links to the numbers keep a node pointing into them. -/
theorem PointsInto.linkEach (h : node.PointsInto document localIds)
    {goals : List Address}
    (hgoals : ∀ goal ∈ goals, goal.1 = document ∧ goal.2 ∈ localIds) :
    (node.linkEach goals).PointsInto document localIds := by
  intro goal hgoal
  rcases mem_addresses_linkEach.1 hgoal with hold | hnew
  · exact h goal hold
  · exact hgoals goal hnew

end Node

namespace Compile

open Script (Row)

variable {document : Int} {localIds gone : List Int} {node root : Node}
  {others : List Node}

theorem addresses_dropEdges (document : Int) (gone : List Int)
    (node : Node) :
    (dropEdges document gone node).addresses
      = node.addresses.filter fun goal =>
          !(goal.1 = document && gone.contains goal.2) := by
  unfold dropEdges Node.addresses
  rw [List.filter_map]
  rfl

theorem sound_dropEdges (h : node.Sound document) :
    (dropEdges document gone node).Sound document := by
  refine ⟨h.documentId, fun e he => ?_, ?_⟩
  · exact h.origin e (List.mem_filter.1 he).1
  · rw [addresses_dropEdges]
    exact h.distinct.filter _

theorem pointsInto_dropEdges (h : node.PointsInto document localIds) :
    (dropEdges document gone node).PointsInto document
      (localIds.filter fun id => !gone.contains id) := by
  intro goal hgoal
  rw [addresses_dropEdges] at hgoal
  obtain ⟨hold, hkept⟩ := List.mem_filter.1 hgoal
  obtain ⟨hdocument, hid⟩ := h goal hold
  refine ⟨hdocument, List.mem_filter.2 ⟨hid, ?_⟩⟩
  simpa [hdocument] using hkept

/-- The entry is left as it is, or linked to the first of the others. -/
theorem linkEntry_cases (document : Int) (others : List Node)
    (root : Node) :
    linkEntry document others root = root
      ∨ ∃ first rest, others = first :: rest
          ∧ linkEntry document others root
              = root.linkEach [(document, first.localId)] := by
  unfold linkEntry
  split
  · next first rest _ => exact Or.inr ⟨first, rest, rfl, rfl⟩
  · exact Or.inl rfl

theorem linkEntry_localId (document : Int) (others : List Node)
    (root : Node) :
    (linkEntry document others root).localId = root.localId := by
  rcases linkEntry_cases document others root with h | ⟨first, rest, -, h⟩
  · rw [h]
  · rw [h, Node.linkEach_localId]

theorem sound_linkEntry (h : root.Sound document) :
    (linkEntry document others root).Sound document := by
  rcases linkEntry_cases document others root with hr | ⟨first, rest, -, hr⟩
  · rw [hr]
    exact h
  · rw [hr]
    exact h.linkEach _

/-- The entry leads into the numbers if the others have such numbers. -/
theorem pointsInto_linkEntry (h : root.PointsInto document localIds)
    (hothers : ∀ node ∈ others, node.localId ∈ localIds) :
    (linkEntry document others root).PointsInto document localIds := by
  rcases linkEntry_cases document others root with
    hr | ⟨first, rest, rfl, hr⟩
  · rw [hr]
    exact h
  · rw [hr]
    refine h.linkEach fun goal hgoal => ?_
    rw [List.mem_singleton] at hgoal
    subst hgoal
    exact ⟨rfl, hothers first List.mem_cons_self⟩

end Compile

end Storyline
