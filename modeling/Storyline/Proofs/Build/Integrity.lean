/-
Referential integrity of a whole build. Edges are made twice: by the
compiler, inside each document and before the reserved rows are taken
out, and by the pass over the links between documents. What holds in the
end is that no edge leads into the void.

* the documents are numbered from one in the order of the stories
  (`headings_of_compileFrom`);
* a compiled graph is contained in its document, so the compiled graphs
  together are closed (`closed_of_contained`);
* a link leads to a node that there is, so the pass keeps the graphs
  closed (`Closed.attachAll`).

Main statement: `integrity_of_run`, for every build that gives a result.
-/
import Storyline.Proofs.Build.Assembly

namespace Storyline

-- ============================================================= closed

/-- Graphs whose edges lead to nodes of theirs. -/
def Closed (graphs : List Graph) : Prop :=
  ∀ graph ∈ graphs, ∀ node ∈ graph.nodes, ∀ goal ∈ node.addresses,
    CrossLink.Occupied graphs goal

namespace CrossLink

variable {graphs : List Graph} {owed : Address → List Address}

/-- Graphs that keep to themselves are closed together. -/
theorem closed_of_contained (h : ∀ graph ∈ graphs, graph.Contained) :
    Closed graphs := by
  intro graph hgraph node hnode goal hgoal
  obtain ⟨hdocument, hid⟩ := h graph hgraph node hnode goal hgoal
  exact ⟨graph, hgraph, hdocument.symm, hid⟩

/-- Relinking takes no node away. -/
theorem Occupied.relink {address : Address} (h : Occupied graphs address) :
    Occupied (graphs.map (Graph.relink owed)) address := by
  obtain ⟨graph, hgraph, hdocument, hid⟩ := h
  refine ⟨graph.relink owed, List.mem_map_of_mem hgraph, hdocument, ?_⟩
  rw [Graph.localIds_relink]
  exact hid

/-- Relinking by links to nodes keeps graphs closed. -/
theorem closed_relink (h : Closed graphs)
    (howed : ∀ address, ∀ goal ∈ owed address, Occupied graphs goal) :
    Closed (graphs.map (Graph.relink owed)) := by
  intro relinked hrelinked node hnode goal hgoal
  obtain ⟨graph, hgraph, rfl⟩ := List.mem_map.1 hrelinked
  obtain ⟨old, hold, rfl⟩ := List.mem_map.1 hnode
  -- an edge of the compiler or a link of the pass
  rcases Node.mem_addresses_linkEach.1 hgoal with hkept | hnew
  · exact (h graph hgraph old hold goal hkept).relink
  · exact (howed _ goal hnew).relink

/-- A good link leads to a node. -/
theorem occupied_of_destination? (hgraphs : SoundGraphs graphs)
    {link : PendingLink} {goal : Address}
    (h : destination? graphs link = some goal) : Occupied graphs goal := by
  obtain ⟨title, key, target, node, -, htarget, hnode, -, rfl⟩ :=
    destination?_eq_some_search.1 h
  have hmem : target ∈ graphs := List.mem_of_find?_eq_some htarget
  have hin : node ∈ target.nodes := meant?_mem hnode
  refine ⟨target, hmem, ?_, List.mem_map_of_mem hin⟩
  exact ((hgraphs.each target hmem).nodes node hin).documentId.symm

/-- The pass keeps closed graphs closed. -/
theorem closed_attachAll (h : SoundGraphs graphs) (hclosed : Closed graphs)
    (pending : List PendingLink) :
    Closed (attachAll graphs pending).graphs := by
  rw [graphs_attachAll_reached h]
  refine closed_relink hclosed fun address goal hgoal => ?_
  obtain ⟨link, -, hlink⟩ := List.mem_filterMap.1 hgoal
  exact occupied_of_destination? h hlink

end CrossLink

namespace Build

variable {tree : FileTree} {format : Sheet.Format} {sources : Sources}
  {previous : Option Database} {result : Result}

-- ====================================================== the whole run

/-- The documents of a build: headed as the stories are, each of them
sound, and closed together. -/
theorem documents_of_run (h : run tree format sources previous = .ok result) :
    result.database.documents.map headingOf
        = numbered 1 (sources.stories.map (·.title))
      ∧ (∀ graph ∈ result.database.documents, graph.Sound)
      ∧ Closed result.database.documents := by
  obtain ⟨loaded, hloaded, hassemble⟩ := Error.bind_eq_ok.1 h
  obtain ⟨compiled, hcompiled, hpass, hdocuments⟩ :=
    documents_of_assemble hassemble
  have hgraphs := soundGraphs_of_compileFrom hcompiled
  have hclosed : Closed (compiled.map (·.graph)) := by
    refine CrossLink.closed_of_contained fun graph hgraph => ?_
    obtain ⟨c, hc, rfl⟩ := List.mem_map.1 hgraph
    obtain ⟨rows, heading, hc⟩ := compiled_of_compileFrom hcompiled c hc
    exact Compile.contained_of_compile hc
  refine ⟨?_, ?_, ?_⟩
  · rw [hdocuments, CrossLink.graphs_attachAll hgraphs hpass, List.map_map,
      List.map_map, ← titles_of_load hloaded,
      ← headings_of_compileFrom hcompiled]
    rfl
  · rw [hdocuments]
    exact (CrossLink.soundGraphs_attachAll hgraphs _).each
  · rw [hdocuments]
    exact CrossLink.closed_attachAll hgraphs hclosed _

/-- Referential integrity. In the database of every build the documents
are numbered from one in the order of the stories and bear their titles;
in each of them the numbers of the nodes increase from the entry on;
every edge says at which node it is kept, and it leads to a node that is
in the document that it names; and no node has two edges to one node. -/
theorem integrity_of_run (h : run tree format sources previous = .ok result) :
    result.database.documents.map headingOf
        = numbered 1 (sources.stories.map (·.title))
      ∧ ∀ graph ∈ result.database.documents,
          graph.localIds.head? = some 0
          ∧ graph.localIds.Pairwise (· < ·)
          ∧ ∀ node ∈ graph.nodes,
              node.documentId = graph.documentId
              ∧ (∀ e ∈ node.outgoing,
                e.originDocument = node.documentId
                ∧ e.originNode = node.localId
                ∧ ∃ target ∈ result.database.documents,
                    target.documentId = e.destinationDocument
                    ∧ ∃ destination ∈ target.nodes,
                        destination.localId = e.destinationNode)
              ∧ (node.outgoing.map fun e =>
                  (e.destinationDocument, e.destinationNode)).Nodup := by
  obtain ⟨hheadings, hsound, hclosed⟩ := documents_of_run h
  refine ⟨hheadings, fun graph hgraph => ?_⟩
  have hs := hsound graph hgraph
  refine ⟨hs.entry, hs.increasing, fun node hnode => ?_⟩
  have hn := hs.nodes node hnode
  refine ⟨hn.documentId, fun e he => ?_, hn.distinct⟩
  obtain ⟨hdocument, horigin⟩ := hn.origin e he
  obtain ⟨target, htarget, hid, hlocal⟩ :=
    hclosed graph hgraph node hnode e.address (List.mem_map_of_mem he)
  obtain ⟨destination, hdestination, hlocal⟩ := List.mem_map.1 hlocal
  exact ⟨hdocument, horigin, target, htarget, hid, destination,
    hdestination, hlocal⟩

/-- A file of ASCII text with the records of a sheet, one on a line. -/
def sheetFile (records : List (List String)) : Entry :=
  .file ((records.flatMap fun cells =>
      List.intercalate [','] (cells.map String.toList) ++ ['\n']).map
    fun c => UInt8.ofNat c.toNat)

/-- A story that leads to the entry of one document and to a row of
another, and names a row that is reserved. -/
def echoTree : FileTree :=
  ⟨[(["story"], sheetFile [Script.columns,
        ["2", "Hi.", "Ask", "echo:START|Again:ask|gone"],
        ["2", "START", "gone"]]),
    (["actors"], sheetFile [["id", "displayName"], ["1", "Player"]]),
    (["backgrounds"], sheetFile [["id", "description"]]),
    (["media"], sheetFile [["id", "resourceName"]]),
    (["sequences"], sheetFile [["id", "dsuCommand"]]),
    (["poses"], sheetFile [["actorId", "expression", "resourcePath"]])]⟩

/-- Two documents of that story: of each link one end is in the other
document, or both are in one. -/
def echoSources : Sources :=
  { stories := [⟨.ofString "story", "Echo"⟩, ⟨.ofString "story", "Again"⟩]
    actorSheet := .ofString "actors"
    backgroundSheet := .ofString "backgrounds"
    musicSheet := .ofString "media"
    soundEffectSheet := .ofString "media"
    sequenceSheet := .ofString "sequences"
    standingSheet := .ofString "poses" }

theorem exists_run_echo :
    ∃ result, run echoTree ⟨",", "ascii"⟩ echoSources none = .ok result :=
  Error.exists_ok (by decide +kernel)

/-- The two documents get the numbers one and two, and no edge of theirs
leads into the void. -/
theorem integrity_echo :
    ∃ result, run echoTree ⟨",", "ascii"⟩ echoSources none = .ok result
      ∧ result.database.documents.map headingOf
          = [(1, "Echo"), (2, "Again")]
      ∧ ∀ graph ∈ result.database.documents, ∀ node ∈ graph.nodes,
          ∀ e ∈ node.outgoing,
            ∃ target ∈ result.database.documents,
              target.documentId = e.destinationDocument := by
  obtain ⟨result, h⟩ := exists_run_echo
  obtain ⟨hheadings, hgraphs⟩ := integrity_of_run h
  refine ⟨result, h, hheadings.trans (by decide +kernel), ?_⟩
  intro graph hgraph node hnode e he
  obtain ⟨-, -, hnodes⟩ := hgraphs graph hgraph
  obtain ⟨-, -, target, htarget, hid, -⟩ :=
    (hnodes node hnode).2.1 e he
  exact ⟨target, htarget, hid⟩

end Build

end Storyline
