/-
Scripts without jumps: no row names a target, none looks like the entry,
and the first one is a line. Such a script plays through. From the entry
every node is reached, edges lead only onwards, and a node is an end only
where the script ends, at its last row or in a menu that nothing follows.

# What is compared

* `Follows`: the two rules that are left, leading on (`LeadsOn`) and
  offering (`Offers`), by places and flags alone;
* `mem_edges_iff`: the edges of the compiled graph are the one of the
  entry and those of the two rules, and no others.

# What carries it

Every place but the first follows an earlier one (`exists_follows`): a
line the place in front of it, and an option the line in front of its
menu. The walk from the entry is the induction on places along this
(`reachable_numberOf`), and a run of edges only goes up
(`lt_of_transGen`).
-/
import Mathlib.Logic.Relation
import Storyline.Proofs.Graph.Accounts
import Storyline.Proofs.Graph.Options

namespace Storyline

open Relation (ReflTransGen TransGen)
open Script (Row)

/-- An edge of a graph leads from one number to another. -/
def Graph.Leads (graph : Graph) (a b : Int) : Prop :=
  ∃ e ∈ graph.edges, e.originNode = a ∧ e.destinationNode = b

namespace Compile

-- ============================================================ the rules

section Rules

variable {isOption : Nat → Bool} {i j n : Nat}

/-- Where a row without targets leads, by the flags of the rows: on, and
to what it offers. -/
def Follows (isOption : Nat → Bool) (i j : Nat) : Prop :=
  LeadsOn isOption i j ∨ Offers isOption i j

theorem Follows.lt (h : Follows isOption i j) : i < j := by
  rcases h with hleads | hoffers
  · exact hleads.1
  · exact hoffers.2.1

/-- In front of an option there is a line with nothing but options
between them, if the first row is a line. -/
theorem exists_line_before (hfirst : isOption 0 = false)
    (hj : isOption j = true) : ∃ i, Offers isOption i j := by
  induction j with
  | zero =>
      rw [hfirst] at hj
      cases hj
  | succ j ih =>
      cases hbefore : isOption j with
      | false =>
          refine ⟨j, hbefore, Nat.lt_succ_self j, fun m hjm hmj => ?_⟩
          obtain rfl : m = j + 1 := by omega
          exact hj
      | true =>
          obtain ⟨i, hline, hij, hbetween⟩ := ih hbefore
          refine ⟨i, hline, by omega, fun m him hmj => ?_⟩
          by_cases hlast : m = j + 1
          · rw [hlast, hj]
          · exact hbetween m him (by omega)

/-- Every place behind the first follows one in front of it. -/
theorem exists_follows (hfirst : isOption 0 = false) (hj : 0 < j) :
    ∃ i, Follows isOption i j := by
  cases hoption : isOption j with
  | false =>
      refine ⟨j - 1, Or.inl ⟨by omega, hoption, fun m hm hmj => ?_, ?_⟩⟩
      · omega
      · exact Or.inl (by omega)
  | true =>
      obtain ⟨i, hoffers⟩ := exists_line_before hfirst hoption
      exact ⟨i, Or.inr hoffers⟩

/-- A line is followed by the row behind it, whatever that is. -/
theorem follows_succ_of_line (hline : isOption i = false) :
    Follows isOption i (i + 1) := by
  cases hnext : isOption (i + 1) with
  | false =>
      refine Or.inl ⟨Nat.lt_succ_self i, hnext, fun m him hmi => ?_,
        Or.inl rfl⟩
      omega
  | true =>
      refine Or.inr ⟨hline, Nat.lt_succ_self i, fun m him hmi => ?_⟩
      obtain rfl : m = i + 1 := by omega
      exact hnext

/-- The places that nothing follows: the last one, and the options that
only options come behind. -/
theorem forall_not_follows_iff (hi : i < n) :
    (∀ j < n, ¬Follows isOption i j)
      ↔ i + 1 = n ∨ ∀ j, i ≤ j → j < n → isOption j = true := by
  constructor
  · intro hnone
    by_cases hlast : i + 1 = n
    · exact Or.inl hlast
    · have hoption : isOption i = true := by
        by_contra hline
        rw [Bool.not_eq_true] at hline
        exact hnone (i + 1) (by omega) (follows_succ_of_line hline)
      -- the first line behind an option would follow it
      refine Or.inr fun j => ?_
      induction j using Nat.strongRecOn with
      | ind j ih =>
          intro hij hjn
          by_contra hline
          rw [Bool.not_eq_true] at hline
          have hlt : i < j := by
            rcases Nat.lt_or_eq_of_le hij with hlt | rfl
            · exact hlt
            · rw [hoption] at hline
              cases hline
          refine hnone j hjn (Or.inl ⟨hlt, hline, fun m him hmj => ?_,
            Or.inr hoption⟩)
          exact ih m hmj him.le (by omega)
  · rintro hend j hjn hfollows
    have hij := hfollows.lt
    rcases hend with hlast | hoptions
    · omega
    · rcases hfollows with ⟨-, hline, -⟩ | ⟨hline, -⟩
      · rw [hoptions j hij.le hjn] at hline
        cases hline
      · rw [hoptions i (Nat.le_refl i) hi] at hline
        cases hline

end Rules

-- ======================================================= plain scripts

/-- Rows of a script without jumps. -/
structure Plain (rows : List Row) : Prop where
  /-- No row names a target. -/
  targets : ∀ row ∈ rows, row.linkTargets = []
  /-- No row looks like the entry. -/
  ordinary : ∀ row ∈ rows, isReserved row = false
  /-- The first row is no option. -/
  opening : ∀ row ∈ rows.head?, row.isOption = false

variable {heading : Heading} {rows : List Row} {compiled : Compiled}
  {i j : Nat}

/-- There is an option at every place from one on when the rows from there
on are options. -/
theorem forall_optionAt_iff :
    (∀ j, i ≤ j → j < rows.length → optionAt rows j = true)
      ↔ ∀ row ∈ rows.drop i, row.isOption = true := by
  constructor
  · intro hall row hrow
    obtain ⟨t, ht⟩ := List.mem_iff_getElem?.1 hrow
    rw [List.getElem?_drop] at ht
    have hoption := hall (i + t) (Nat.le_add_right i t)
      (List.getElem?_eq_some_iff.1 ht).1
    unfold optionAt at hoption
    rwa [ht] at hoption
  · intro hall j hij hj
    have hrow : rows[j] ∈ rows.drop i := by
      rw [List.mem_drop_iff_getElem]
      exact ⟨j - i, by omega, by congr 1; omega⟩
    unfold optionAt
    rw [List.getElem?_eq_getElem hj]
    exact hall _ hrow

namespace Plain

variable (hplain : Plain rows)
include hplain

theorem optionAt_zero : optionAt rows 0 = false := by
  unfold optionAt
  rw [← List.head?_eq_getElem?]
  cases hhead : rows.head? with
  | none => rfl
  | some row => exact hplain.opening row hhead

theorem reservedAt_eq (j : Nat) : reservedAt rows j = false := by
  unfold reservedAt
  cases hrow : rows[j]? with
  | none => rfl
  | some row => exact hplain.ordinary row (List.mem_of_getElem? hrow)

/-- The goals of a row are the places that follow it. -/
theorem mem_goals_iff {row : Row} (hrow : rows[i]? = some row) :
    j ∈ goals rows i row
      ↔ j < rows.length ∧ Follows (optionAt rows) i j := by
  rw [Compile.mem_goals_iff hrow,
    if_pos (hplain.targets row (List.mem_of_getElem? hrow))]
  rfl

end Plain

-- ============================================================ the graph

/-- Without reserved rows every row has its node, in order. -/
theorem localIds_of_compile (h : compile rows heading = .ok compiled)
    (hordinary : ∀ row ∈ meaningful rows, isReserved row = false) :
    compiled.graph.localIds
      = rootId
        :: (List.range (meaningful rows).length).map numberOf := by
  obtain ⟨counterpart, linked, hlinked, -, -, hnodes⟩ :=
    linkedRows_of_compile h
  have hgone : goneIds linked = [] := by
    have hnone : (meaningful rows).any isReserved = false := by
      rw [List.any_eq_false]
      intro row hrow
      rw [hordinary row hrow]
      exact Bool.false_ne_true
    rw [← List.isEmpty_iff, isEmpty_goneIds hlinked, hnone]
    rfl
  unfold Graph.localIds
  rw [hnodes, List.map_cons, entryNode_localId, localIds_dropReserved,
    hlinked.localIds_eq, hgone]
  simp

/-- The edges that leave the node of a row lead to the places that follow
the row. -/
theorem mem_outgoing_iff (h : compile rows heading = .ok compiled)
    (hplain : Plain (meaningful rows)) {node : Node}
    (hnode : node ∈ compiled.graph.nodes) (hid : node.localId = numberOf i)
    (hi : i < (meaningful rows).length) {e : Edge} :
    e ∈ node.outgoing
      ↔ ∃ j, j < (meaningful rows).length
          ∧ Follows (optionAt (meaningful rows)) i j
          ∧ e = edgeBetween heading.documentId i j := by
  have hrow := List.getElem?_eq_getElem hi
  obtain ⟨found, hfound, -, -, -, houtgoing⟩ :=
    outgoing_of_compile h hrow
      (hplain.ordinary _ (List.mem_of_getElem? hrow))
  rw [← hid, (sound_of_compile h).node?_eq hnode, Option.some.injEq] at hfound
  subst hfound
  rw [houtgoing, List.mem_map]
  constructor
  · rintro ⟨j, hj, rfl⟩
    have hgoal := List.mem_eraseDups.1 (List.mem_filter.1 hj).1
    obtain ⟨hlt, hfollows⟩ := (hplain.mem_goals_iff hrow).1 hgoal
    exact ⟨j, hlt, hfollows, rfl⟩
  · rintro ⟨j, hlt, hfollows, rfl⟩
    have hgoal := (hplain.mem_goals_iff hrow).2 ⟨hlt, hfollows⟩
    refine ⟨j, List.mem_filter.2 ⟨List.mem_eraseDups.2 hgoal, ?_⟩, rfl⟩
    rw [hplain.reservedAt_eq]
    rfl

/-- The nodes of a script without jumps: the entry and behind it one node
for each row, in order. -/
theorem shape_of_compile (h : compile rows heading = .ok compiled)
    (hplain : Plain (meaningful rows)) :
    ∃ root others,
      compiled.graph.nodes = root :: others
        ∧ root.localId = rootId
        ∧ root.outgoing
            = (others.head?.map (entryEdge heading.documentId)).toList
        ∧ others.length = (meaningful rows).length
        ∧ ∀ i node, others[i]? = some node → node.localId = numberOf i := by
  obtain ⟨-, -, -, hdocument, -, -⟩ := linkedRows_of_compile h
  obtain ⟨root, others, hnodes, hentry⟩ := entered_of_compile h
  have hids := localIds_of_compile h hplain.ordinary
  unfold Graph.localIds at hids
  rw [hnodes, List.map_cons] at hids
  have hothers := (List.cons.inj hids).2
  rw [hdocument] at hentry
  refine ⟨root, others, hnodes, hentry.localId, hentry.outgoing, ?_, ?_⟩
  · have hlength := congrArg List.length hothers
    simpa using hlength
  · intro i node hnode
    have hi : i < (meaningful rows).length := by
      have hlength := congrArg List.length hothers
      rw [List.length_map, List.length_map, List.length_range] at hlength
      rw [← hlength]
      exact (List.getElem?_eq_some_iff.1 hnode).1
    have hget := congrArg (·[i]?) hothers
    simp only [List.getElem?_map, hnode, List.getElem?_range hi,
      Option.map_some, Option.some.injEq] at hget
    exact hget

/-- The edges of a script without jumps: the entry leads to the first row,
if there is one, and every row to the places that follow it. -/
theorem mem_edges_iff (h : compile rows heading = .ok compiled)
    (hplain : Plain (meaningful rows)) {e : Edge} :
    e ∈ compiled.graph.edges
      ↔ (0 < (meaningful rows).length
          ∧ e = ⟨heading.documentId, rootId, heading.documentId,
              numberOf 0⟩)
        ∨ ∃ i j, i < (meaningful rows).length
            ∧ j < (meaningful rows).length
            ∧ Follows (optionAt (meaningful rows)) i j
            ∧ e = edgeBetween heading.documentId i j := by
  obtain ⟨root, others, hnodes, -, hroot, hlength, hids⟩ :=
    shape_of_compile h hplain
  have hmem : ∀ {i : Nat} {node}, others[i]? = some node →
      node ∈ compiled.graph.nodes := by
    intro i node hnode
    rw [hnodes]
    exact List.mem_cons_of_mem _ (List.mem_of_getElem? hnode)
  have hentry : e ∈ root.outgoing
      ↔ 0 < (meaningful rows).length
          ∧ e = ⟨heading.documentId, rootId, heading.documentId,
              numberOf 0⟩ := by
    rw [hroot, ← hlength, List.head?_eq_getElem?]
    cases hfirst : others[0]? with
    | none =>
        rw [List.getElem?_eq_none_iff] at hfirst
        simp only [Option.map_none, Option.toList_none, List.not_mem_nil,
          false_iff]
        omega
    | some first =>
        have hpos := (List.getElem?_eq_some_iff.1 hfirst).1
        simp only [Option.map_some, Option.toList_some, List.mem_singleton,
          entryEdge, hids 0 first hfirst, hpos, true_and]
  unfold Graph.edges
  rw [hnodes, List.flatMap_cons, List.mem_append, hentry, List.mem_flatMap]
  refine or_congr_right ⟨?_, ?_⟩
  · rintro ⟨node, hnode, he⟩
    obtain ⟨i, hi⟩ := List.mem_iff_getElem?.1 hnode
    have hlt : i < (meaningful rows).length := by
      rw [← hlength]
      exact (List.getElem?_eq_some_iff.1 hi).1
    obtain ⟨j, hj, hfollows, rfl⟩ :=
      (mem_outgoing_iff h hplain (hmem hi) (hids i node hi) hlt).1 he
    exact ⟨i, j, hlt, hj, hfollows, rfl⟩
  · rintro ⟨i, j, hi, hj, hfollows, rfl⟩
    rw [← hlength] at hi
    have hget := List.getElem?_eq_getElem hi
    refine ⟨others[i], List.getElem_mem hi, ?_⟩
    rw [hlength] at hi
    exact (mem_outgoing_iff h hplain (hmem hget) (hids i _ hget) hi).2
      ⟨j, hj, hfollows, rfl⟩

-- ============================================================ the walks

/-- From the entry the node of every row is reached: the first row by the
edge of the entry, and any other behind an earlier one that it follows. -/
theorem reachable_numberOf (h : compile rows heading = .ok compiled)
    (hplain : Plain (meaningful rows)) :
    ∀ j < (meaningful rows).length,
      ReflTransGen compiled.graph.Leads rootId (numberOf j) := by
  intro j
  induction j using Nat.strongRecOn with
  | ind j ih =>
      intro hj
      by_cases hzero : j = 0
      · subst hzero
        have hedge := (mem_edges_iff h hplain).2 (Or.inl ⟨hj, rfl⟩)
        exact ReflTransGen.single ⟨_, hedge, rfl, rfl⟩
      · obtain ⟨i, hfollows⟩ :=
          exists_follows hplain.optionAt_zero (Nat.pos_of_ne_zero hzero)
        have hij := hfollows.lt
        have hedge := (mem_edges_iff h hplain).2
          (Or.inr ⟨i, j, hij.trans hj, hj, hfollows, rfl⟩)
        exact (ih i hij (hij.trans hj)).tail ⟨_, hedge, rfl, rfl⟩

/-- Every edge leads to a larger number of the same document. -/
theorem edge_onward (h : compile rows heading = .ok compiled)
    (hplain : Plain (meaningful rows)) {e : Edge}
    (he : e ∈ compiled.graph.edges) :
    e.originDocument = heading.documentId
      ∧ e.destinationDocument = heading.documentId
      ∧ e.originNode < e.destinationNode := by
  rcases (mem_edges_iff h hplain).1 he with
    ⟨-, rfl⟩ | ⟨i, j, -, -, hfollows, rfl⟩
  · exact ⟨rfl, rfl, rootId_lt_numberOf 0⟩
  · refine ⟨rfl, rfl, ?_⟩
    have hij := hfollows.lt
    show numberOf i < numberOf j
    unfold numberOf
    omega

/-- A run of edges that go up goes up. -/
theorem lt_of_transGen {graph : Graph}
    (honward : ∀ e ∈ graph.edges, e.originNode < e.destinationNode)
    {a b : Int} (h : TransGen graph.Leads a b) : a < b := by
  induction h with
  | single hstep =>
      obtain ⟨e, he, rfl, rfl⟩ := hstep
      exact honward e he
  | tail _ hstep ih =>
      obtain ⟨e, he, rfl, rfl⟩ := hstep
      exact ih.trans (honward e he)

/-- A script without jumps plays through. Its graph has one node for each
row behind the entry, in order. From the entry every node is reached. All
edges stay in the document and lead to a larger number, so there is no
way back to any node. And the node of a row leads nowhere just when it is
the last one, or when its row and all rows behind it are options. -/
theorem playThrough_of_compile (h : compile rows heading = .ok compiled)
    (hplain : Plain (meaningful rows)) :
    (∀ node ∈ compiled.graph.nodes,
        ReflTransGen compiled.graph.Leads rootId node.localId)
      ∧ (∀ e ∈ compiled.graph.edges,
          e.originDocument = heading.documentId
            ∧ e.destinationDocument = heading.documentId
            ∧ e.originNode < e.destinationNode)
      ∧ (∀ a, ¬TransGen compiled.graph.Leads a a)
      ∧ ∃ root others,
          compiled.graph.nodes = root :: others
            ∧ root.localId = rootId
            ∧ others.length = (meaningful rows).length
            ∧ ∀ i node, others[i]? = some node →
                node.localId = numberOf i
                  ∧ (node.outgoing = []
                      ↔ i + 1 = others.length
                        ∨ ∀ row ∈ (meaningful rows).drop i,
                            row.isOption = true) := by
  obtain ⟨root, others, hnodes, hroot, -, hlength, hids⟩ :=
    shape_of_compile h hplain
  refine ⟨fun node hnode => ?_, fun e he => edge_onward h hplain he,
    fun a hcycle => ?_, root, others, hnodes, hroot, hlength,
    fun i node hnode => ⟨hids i node hnode, ?_⟩⟩
  · rw [hnodes] at hnode
    rcases List.mem_cons.1 hnode with rfl | hother
    · rw [hroot]
    · obtain ⟨i, hi⟩ := List.mem_iff_getElem?.1 hother
      have hlt := (List.getElem?_eq_some_iff.1 hi).1
      rw [hids i node hi]
      exact reachable_numberOf h hplain i (hlength ▸ hlt)
  · have honward : ∀ e ∈ compiled.graph.edges,
        e.originNode < e.destinationNode := fun e he =>
      (edge_onward h hplain he).2.2
    exact lt_irrefl a (lt_of_transGen honward hcycle)
  · have hi : i < (meaningful rows).length := by
      rw [← hlength]
      exact (List.getElem?_eq_some_iff.1 hnode).1
    have hmem : node ∈ compiled.graph.nodes := by
      rw [hnodes]
      exact List.mem_cons_of_mem _ (List.mem_of_getElem? hnode)
    have houtgoing : node.outgoing = []
        ↔ ∀ j < (meaningful rows).length,
            ¬Follows (optionAt (meaningful rows)) i j := by
      rw [List.eq_nil_iff_forall_not_mem]
      constructor
      · intro hnone j hj hfollows
        exact hnone _ ((mem_outgoing_iff h hplain hmem (hids i node hnode)
          hi).2 ⟨j, hj, hfollows, rfl⟩)
      · intro hnone e he
        obtain ⟨j, hj, hfollows, -⟩ := (mem_outgoing_iff h hplain hmem
          (hids i node hnode) hi).1 he
        exact hnone j hj hfollows
    rw [houtgoing, forall_not_follows_iff hi, hlength, forall_optionAt_iff]

/-- A question with two options, a row that means nothing inside the menu,
a line behind it, and a menu at the end. -/
def playedStory : List Row :=
  [spokenRow 1 "3" "Ask?" "" [], spokenRow 2 "99" "Yes" "" [],
   spokenRow 3 "" " " "" [], spokenRow 4 "99" "No" "" [],
   spokenRow 5 "" "And then?" "" [], spokenRow 6 "99" "Go" "" [],
   spokenRow 7 "99" "Stay" "" []]

/-- All seven nodes are reached, and the story ends at either option of
its last menu. -/
theorem playThrough_playedStory :
    ∃ compiled, compile playedStory ⟨1, "Demo"⟩ = .ok compiled
      ∧ Plain (meaningful playedStory)
      ∧ compiled.graph.nodes.length = 7
      ∧ (∀ node ∈ compiled.graph.nodes,
          ReflTransGen compiled.graph.Leads rootId node.localId)
      ∧ ¬TransGen compiled.graph.Leads 4 4
      ∧ ∃ node ∈ compiled.graph.nodes,
          node.localId = 5 ∧ node.outgoing = [] := by
  obtain ⟨compiled, h⟩ := Error.exists_ok
    (show (compile playedStory ⟨1, "Demo"⟩).toOption.isSome = true by
      decide +kernel)
  have hplain : Plain (meaningful playedStory) :=
    ⟨by decide +kernel, by decide +kernel, by decide +kernel⟩
  obtain ⟨hreached, -, hacyclic, root, others, hnodes, -, hlength, hends⟩ :=
    playThrough_of_compile h hplain
  have hsix : others.length = 6 := hlength.trans (by decide +kernel)
  have hget : others[4]? = some others[4] :=
    List.getElem?_eq_getElem (by omega)
  obtain ⟨hid, hend⟩ := hends 4 _ hget
  refine ⟨compiled, h, hplain, ?_, hreached, hacyclic 4, others[4], ?_, hid,
    hend.2 (Or.inr (by decide +kernel))⟩
  · rw [hnodes, List.length_cons, hsix]
  · rw [hnodes]
    exact List.mem_cons_of_mem _ (List.mem_of_getElem? hget)

end Compile

end Storyline
