/-
Linking in closed form. `Node.link` and its folds are written as steps
that each look at the edges so far; here a whole run of links is one
equation: the edges before, followed by one new edge for the first
mention of every address to which no edge led.

# What is compared

* an edge is seen as the address it leads to (`Edge.address`), since
  its origin is always the node that keeps it;
* a run of links is `Node.linkEach`, of which `Node.linkAll` is the
  case of one document (`linkAll_eq_linkEach`);
* the addresses that a node gains from a run are `Node.gained`, said
  without the steps: those that are new to the node, each once.

Consumed by the edges of a compiled document and by the pass over the
links between documents.
-/
import Mathlib.Data.List.Nodup
import Storyline.Graph.Basic

namespace Storyline

-- ============================================ first mentions of a list

/-- Dropping later repeats commutes with an injective renaming. -/
theorem eraseDups_map_of_injective {α β : Type _} [BEq α]
    [LawfulBEq α] [BEq β] [LawfulBEq β] {f : α → β}
    (hf : Function.Injective f) (l : List α) :
    (l.map f).eraseDups = l.eraseDups.map f := by
  induction hn : l.length using Nat.strongRecOn generalizing l with
  | ind n ih =>
      cases l with
      | nil => rfl
      | cons a l =>
          have hshort : (l.filter fun b => !b == a).length < n := by
            have := List.length_filter_le (fun b => !b == a) l
            rw [List.length_cons] at hn
            omega
          have hfilter : (l.map f).filter (fun b => !b == f a)
              = (l.filter fun b => !b == a).map f := by
            rw [List.filter_map]
            congr 1
            refine List.filter_congr fun b _ => ?_
            rw [Bool.eq_iff_iff]
            simp [hf.eq_iff]
          rw [List.map_cons, List.eraseDups_cons, List.eraseDups_cons,
            List.map_cons, hfilter, ih _ hshort _ rfl]

/-- What is left without later repeats has none. -/
theorem nodup_eraseDups {α : Type _} [BEq α] [LawfulBEq α]
    (l : List α) : l.eraseDups.Nodup := by
  induction hn : l.length using Nat.strongRecOn generalizing l with
  | ind n ih =>
      cases l with
      | nil => exact List.nodup_nil
      | cons a l =>
          have hshort : (l.filter fun b => !b == a).length < n := by
            have := List.length_filter_le (fun b => !b == a) l
            rw [List.length_cons] at hn
            omega
          rw [List.eraseDups_cons, List.nodup_cons]
          refine ⟨?_, ih _ hshort _ rfl⟩
          rw [List.mem_eraseDups, List.mem_filter]
          simp

-- ================================================ edges as addresses

/-- A document and a number in it: where an edge can lead. -/
abbrev Address := Int × Int

/-- The address that an edge leads to. -/
def Edge.address (e : Edge) : Address :=
  (e.destinationDocument, e.destinationNode)

namespace Node

/-- The addresses that a node leads to, in the order of its edges. -/
def addresses (node : Node) : List Address := node.outgoing.map Edge.address

/-- Adds edges to several addresses. -/
def linkEach (node : Node) (goals : List Address) : Node :=
  goals.foldl (fun node goal => node.link goal.1 goal.2) node

/-- The addresses that are new to a node, without later repeats. -/
def gained (node : Node) (goals : List Address) : List Address :=
  (goals.filter (· ∉ node.addresses)).eraseDups

theorem linksTo_iff (node : Node) (document localId : Int) :
    node.linksTo document localId = true
      ↔ (document, localId) ∈ node.addresses := by
  unfold linksTo addresses
  rw [List.any_eq_true, List.mem_map]
  constructor
  · rintro ⟨e, he, hto⟩
    refine ⟨e, he, ?_⟩
    simpa [Edge.address] using hto
  · rintro ⟨e, he, hto⟩
    refine ⟨e, he, ?_⟩
    simpa [Edge.address] using hto

@[simp] theorem linkEach_nil (node : Node) : node.linkEach [] = node := rfl

@[simp] theorem linkEach_cons (node : Node) (goal : Address)
    (goals : List Address) :
    node.linkEach (goal :: goals)
      = (node.link goal.1 goal.2).linkEach goals := rfl

theorem linkAll_eq_linkEach (node : Node) (document : Int)
    (localIds : List Int) :
    node.linkAll document localIds
      = node.linkEach (localIds.map (document, ·)) := by
  unfold linkAll linkEach
  rw [List.foldl_map]

-- ======================================================= the equation

theorem link_of_mem {node : Node} {goal : Address}
    (h : goal ∈ node.addresses) : node.link goal.1 goal.2 = node := by
  unfold link
  rw [if_pos ((linksTo_iff node _ _).2 h)]

/-- A link to any other address puts an edge behind the others. -/
theorem link_of_not_mem {node : Node} {goal : Address}
    (h : goal ∉ node.addresses) :
    node.link goal.1 goal.2
      = { node with
          outgoing := node.outgoing ++ [node.edgeTo goal.1 goal.2] } := by
  unfold link
  rw [if_neg fun hto => h ((linksTo_iff node _ _).1 hto)]

/-- A run of links: the edges before, and behind them an edge for the
first mention of every address that is new to the node. -/
theorem linkEach_eq (node : Node) (goals : List Address) :
    node.linkEach goals
      = { node with
          outgoing := node.outgoing
            ++ (node.gained goals).map fun goal =>
                node.edgeTo goal.1 goal.2 } := by
  induction goals generalizing node with
  | nil => simp [gained]
  | cons goal goals ih =>
      rw [linkEach_cons]
      by_cases hmem : goal ∈ node.addresses
      · rw [link_of_mem hmem, ih]
        unfold gained
        rw [List.filter_cons_of_neg (by simpa using hmem)]
      · rw [link_of_not_mem hmem, ih]
        have hgained : gained { node with
              outgoing := node.outgoing ++ [node.edgeTo goal.1 goal.2] } goals
            = ((goals.filter (· ∉ node.addresses)).filter
                fun other => !other == goal).eraseDups := by
          unfold gained
          rw [List.filter_filter]
          congr 1
          refine List.filter_congr fun other _ => ?_
          rw [Bool.eq_iff_iff]
          simp [addresses, edgeTo, Edge.address, and_comm]
        have hcons : node.gained (goal :: goals)
            = goal :: ((goals.filter (· ∉ node.addresses)).filter
                fun other => !other == goal).eraseDups := by
          unfold gained
          rw [List.filter_cons_of_pos (by simpa using hmem),
            List.eraseDups_cons]
        rw [hgained, hcons, List.map_cons, List.append_assoc]
        rfl

theorem addresses_linkEach (node : Node) (goals : List Address) :
    (node.linkEach goals).addresses
      = node.addresses ++ node.gained goals := by
  rw [linkEach_eq]
  unfold addresses
  rw [List.map_append, List.map_map]
  congr 1
  exact List.map_id _

/-- No address is gained twice, and none that was there before. -/
theorem nodup_addresses_linkEach {node : Node} (goals : List Address)
    (h : node.addresses.Nodup) :
    (node.linkEach goals).addresses.Nodup := by
  rw [addresses_linkEach]
  unfold gained
  refine h.append (nodup_eraseDups _) ?_
  intro goal hold hnew
  have hfresh := List.mem_filter.1 (List.mem_eraseDups.1 hnew)
  simp [hold] at hfresh

/-- After a run the node leads where it led and to every goal. -/
theorem mem_addresses_linkEach {node : Node} {goals : List Address}
    {goal : Address} :
    goal ∈ (node.linkEach goals).addresses
      ↔ goal ∈ node.addresses ∨ goal ∈ goals := by
  rw [addresses_linkEach, List.mem_append]
  unfold gained
  rw [List.mem_eraseDups, List.mem_filter]
  by_cases h : goal ∈ node.addresses <;> simp [h]

end Node

end Storyline
