/-
The pass over the links between documents in closed form.
`CrossLink.attachFrom` goes link by link and changes one node at a time;
here a whole pass is one equation: every node gets the links that its
address is owed (`Graph.relink`), found among the graphs as they were
before the pass (`goalsFrom`). A pass may break off at a report that
cannot be printed; then the same holds of the links up to that one
(`reached`).

# What carries the induction

* a step is a relinking of all graphs that owes its goal to one address
  only (`apply_eq_relink`), because numbers are unique;
* relinking keeps graphs sound and keeps everything but edges, so the
  searches of later links answer as they did at the start;
* relinkings add up (`relink_relink`);
* whether a report can be printed depends on the link and on what the
  searches answer (`isReportable_congr`), so it is known at the start at
  which link the pass breaks off.

Main statement: `attachAll_of_compiled`, the whole effect of the pass on
compiled documents. The build takes `graphs_attachAll` from here.
-/
import Storyline.Database
import Storyline.Proofs.Graph.Edges
import Storyline.Proofs.Graph.Targets

namespace Storyline

-- ================================================ changing one element

section ModifyFirst

variable {α : Type _} {f : α → α}

/-- Where keys are unique, changing the first element with a key is
changing every element with it. -/
theorem modifyFirst_eq_map {key : α → Int} {k : Int} {l : List α}
    (hunique : (l.map key).Nodup) :
    modifyFirst (fun a => decide (key a = k)) f l
      = l.map fun a => if key a = k then f a else a := by
  induction l with
  | nil => rfl
  | cons a rest ih =>
      rw [List.map_cons, List.nodup_cons] at hunique
      unfold modifyFirst
      by_cases hk : key a = k
      · have hrest : rest.map (fun b => if key b = k then f b else b)
            = rest := by
          conv => rhs; rw [← List.map_id rest]
          refine List.map_congr_left fun b hb => ?_
          refine if_neg fun hb' => hunique.1 ?_
          rw [hk, ← hb']
          exact List.mem_map_of_mem hb
        rw [if_pos (decide_eq_true hk), List.map_cons, if_pos hk, hrest]
      · rw [if_neg (by simpa using hk), List.map_cons, if_neg hk,
          ih hunique.2]

/-- What changing the first element of a kind does to the length of what
all elements give. -/
theorem length_flatMap_modifyFirst {β : Type _} {p : α → Bool} {l : List α}
    {a : α} (hfind : l.find? p = some a) (g : α → List β) :
    ((modifyFirst p f l).flatMap g).length + (g a).length
      = (l.flatMap g).length + (g (f a)).length := by
  induction l with
  | nil => cases hfind
  | cons b rest ih =>
      unfold modifyFirst
      rw [List.find?_cons] at hfind
      by_cases hb : p b = true
      · rw [hb] at hfind
        cases hfind
        rw [if_pos hb, List.flatMap_cons, List.flatMap_cons,
          List.length_append, List.length_append]
        omega
      · rw [Bool.not_eq_true] at hb
        rw [hb] at hfind
        have := ih hfind
        rw [if_neg (by simp [hb]), List.flatMap_cons, List.flatMap_cons,
          List.length_append, List.length_append]
        omega

end ModifyFirst

-- ========================================================== relinking

/-- A graph whose nodes get the links that their addresses are owed. -/
def Graph.relink (owed : Address → List Address) (graph : Graph) : Graph :=
  { graph with
    nodes := graph.nodes.map fun node =>
      node.linkEach (owed (graph.documentId, node.localId)) }

section Relink

variable {owed : Address → List Address} {graph : Graph}

theorem Node.linkEach_append (node : Node) (some others : List Address) :
    node.linkEach (some ++ others) = (node.linkEach some).linkEach others :=
  List.foldl_append

theorem Node.bare_linkEach (node : Node) (goals : List Address) :
    (node.linkEach goals).bare = node.bare := by
  rw [Node.linkEach_eq]
  rfl

theorem Graph.localIds_relink :
    (graph.relink owed).localIds = graph.localIds := by
  unfold Graph.localIds Graph.relink
  rw [List.map_map]
  exact List.map_congr_left fun node _ => Node.linkEach_localId node _

/-- Relinking changes nothing but edges. -/
theorem Graph.bare_relink : (graph.relink owed).bare = graph.bare := by
  unfold Graph.bare Graph.relink
  simp only [Graph.mk.injEq, true_and]
  rw [List.map_map]
  exact List.map_congr_left fun node _ => Node.bare_linkEach node _

theorem Graph.Sound.relink (h : graph.Sound) :
    (graph.relink owed).Sound := by
  refine ⟨?_, ?_, fun node hnode => ?_⟩
  · rw [Graph.localIds_relink]
    exact h.entry
  · rw [Graph.localIds_relink]
    exact h.increasing
  · obtain ⟨old, hold, rfl⟩ := List.mem_map.1 hnode
    exact (h.nodes old hold).linkEach _

theorem SoundGraphs.relink {graphs : List Graph} (h : SoundGraphs graphs)
    (owed : Address → List Address) :
    SoundGraphs (graphs.map (Graph.relink owed)) := by
  refine ⟨fun graph hgraph => ?_, ?_⟩
  · obtain ⟨old, hold, rfl⟩ := List.mem_map.1 hgraph
    exact (h.each old hold).relink
  · rw [List.map_map]
    exact h.distinct

/-- Two relinkings are one that owes both. -/
theorem Graph.relink_relink {others : Address → List Address} :
    (graph.relink owed).relink others
      = graph.relink fun address => owed address ++ others address := by
  unfold Graph.relink
  simp only [Graph.mk.injEq, true_and]
  rw [List.map_map]
  refine List.map_congr_left fun node _ => ?_
  rw [Function.comp_apply, Node.linkEach_localId, Node.linkEach_append]

theorem Graph.relink_nil : graph.relink (fun _ => []) = graph := by
  unfold Graph.relink
  simp only [Node.linkEach_nil, List.map_id']

end Relink

namespace CrossLink

variable {graphs : List Graph}

-- ============================================================ one step

/-- The addresses that the links which start at an address lead to, in
the order of the links. -/
def goalsFrom (graphs : List Graph) (links : List PendingLink)
    (address : Address) : List Address :=
  (links.filter (·.origin = address)).filterMap (destination? graphs)

theorem goalsFrom_cons (link : PendingLink) (links : List PendingLink)
    (address : Address) :
    goalsFrom graphs (link :: links) address
      = goalsFrom graphs [link] address ++ goalsFrom graphs links address := by
  unfold goalsFrom
  rw [← List.filterMap_append, ← List.filter_append]
  rfl

/-- A link owes an address something when it starts there. -/
theorem goalsFrom_single (link : PendingLink) (address : Address) :
    goalsFrom graphs [link] address
      = if link.origin = address then (destination? graphs link).toList
        else [] := by
  unfold goalsFrom
  by_cases horigin : link.origin = address
  · rw [if_pos horigin, List.filter_cons_of_pos (by simpa using horigin)]
    cases h : destination? graphs link <;> simp [h]
  · rw [if_neg horigin, List.filter_cons_of_neg (by simpa using horigin)]
    rfl

section Bare

variable {others : List Graph}
  (hbare : others.map Graph.bare = graphs.map Graph.bare)

include hbare

/-- What becomes of a link does not depend on the edges. -/
theorem mapNodes_outcomeOf_congr (link : PendingLink) :
    (outcomeOf others link).mapNodes Node.bare
      = (outcomeOf graphs link).mapNodes Node.bare := by
  rw [← outcomeOf_bare, hbare, outcomeOf_bare]

theorem isWorded_congr (link : PendingLink) :
    isWorded others link = isWorded graphs link := by
  unfold isWorded
  rw [← Outcome.isLost_mapNodes Node.bare (outcomeOf others link),
    mapNodes_outcomeOf_congr hbare, Outcome.isLost_mapNodes]

theorem isReportable_congr (link : PendingLink) :
    isReportable others link = isReportable graphs link := by
  unfold isReportable
  rw [isWorded_congr hbare]

theorem report_outcomeOf_congr (link : PendingLink) :
    (outcomeOf others link).report link
      = (outcomeOf graphs link).report link := by
  rw [← Outcome.report_mapNodes Node.bare link (outcomeOf others link),
    mapNodes_outcomeOf_congr hbare, Outcome.report_mapNodes]

/-- What links are owed does not depend on the edges. -/
theorem goalsFrom_congr (links : List PendingLink) :
    goalsFrom others links = goalsFrom graphs links := by
  have hdestination : destination? others = destination? graphs := by
    funext link
    unfold destination?
    rw [← Outcome.goal?_bare, mapNodes_outcomeOf_congr hbare,
      Outcome.goal?_bare]
  funext address
  unfold goalsFrom
  rw [hdestination]

end Bare

/-- Attaching a link to one node is relinking all graphs, since there is
no other node at its address. -/
theorem modifyLast_eq_relink (h : SoundGraphs graphs)
    (origin goal : Address) :
    modifyLast origin.1
        (·.modifyNode origin.2 (·.link goal.1 goal.2)) graphs
      = graphs.map (Graph.relink fun address =>
          if origin = address then [goal] else []) := by
  have hreverse : (graphs.reverse.map (·.documentId)).Nodup := by
    rw [List.map_reverse, List.nodup_reverse]
    exact h.distinct
  unfold modifyLast
  rw [modifyFirst_eq_map hreverse, List.map_reverse, List.reverse_reverse]
  refine List.map_congr_left fun graph hgraph => ?_
  -- no other node of the graph has the number, and no other graph
  have hunique : (graph.nodes.map (·.localId)).Nodup :=
    (h.each graph hgraph).increasing.imp fun hlt => by omega
  unfold Graph.modifyNode Graph.relink
  rw [modifyFirst_eq_map hunique]
  by_cases hdocument : graph.documentId = origin.1
  · rw [if_pos hdocument]
    simp only [Graph.mk.injEq, true_and]
    refine List.map_congr_left fun node _ => ?_
    by_cases hnode : node.localId = origin.2
    · rw [if_pos hnode, if_pos (by rw [hdocument, hnode]),
        Node.link_eq_linkEach]
    · rw [if_neg hnode,
        if_neg fun h => hnode (Prod.ext_iff.1 h).2.symm, Node.linkEach_nil]
  · rw [if_neg hdocument]
    have hnone : graph.nodes.map (fun node => node.linkEach
        (if origin = (graph.documentId, node.localId) then [goal] else []))
          = graph.nodes := by
      conv => rhs; rw [← List.map_id graph.nodes]
      refine List.map_congr_left fun node _ => ?_
      rw [if_neg fun h => hdocument (Prod.ext_iff.1 h).1.symm]
      rfl
    rw [hnone]

/-- The step of the pass: a link relinks the graphs by what it owes. -/
theorem apply_eq_relink (h : SoundGraphs graphs) (link : PendingLink) :
    (outcomeOf graphs link).apply graphs link
      = graphs.map (Graph.relink (goalsFrom graphs [link])) := by
  have howed : goalsFrom graphs [link] = fun address =>
      if link.origin = address then (destination? graphs link).toList
      else [] :=
    funext (goalsFrom_single link)
  unfold destination? at howed
  rw [howed]
  cases houtcome : outcomeOf graphs link with
  | attached title key origin destination =>
      exact modifyLast_eq_relink h link.origin
        (destination.documentId, destination.localId)
  | malformed | unknownDocument _ | unknownNode _ _ | lostOrigin _ =>
      have hnone : (fun address : Address =>
          if link.origin = address then ([] : List Address) else [])
            = fun _ => [] := funext fun _ => ite_self _
      show graphs = graphs.map (Graph.relink fun address =>
        if link.origin = address then [] else [])
      rw [hnone]
      conv => lhs; rw [← List.map_id graphs]
      exact List.map_congr_left fun graph _ => Graph.relink_nil.symm

-- ======================================================= counting edges

/-- How many edges there are in all graphs. -/
def edgeCount (graphs : List Graph) : Nat :=
  (graphs.flatMap Graph.edges).length

theorem edgeCount_reverse (graphs : List Graph) :
    edgeCount graphs.reverse = edgeCount graphs :=
  ((List.reverse_perm graphs).flatMap_right Graph.edges).length_eq

/-- A link that makes an edge lengthens the edges of its node by one. -/
theorem length_outgoing_link (node : Node) (goal : Address) :
    (node.link goal.1 goal.2).outgoing.length
      = node.outgoing.length
        + if !node.linksTo goal.1 goal.2 then 1 else 0 := by
  unfold Node.link
  by_cases h : node.linksTo goal.1 goal.2 = true
  · simp [h]
  · simp [h]

/-- What changing one node does to the number of edges. -/
theorem edgeCount_modifyLast {link : PendingLink} {origin : Node}
    (horigin : origin? graphs link = some origin) (f : Node → Node) :
    edgeCount (modifyLast link.documentId
          (·.modifyNode link.originNode f) graphs)
        + origin.outgoing.length
      = edgeCount graphs + (f origin).outgoing.length := by
  obtain ⟨graph, hgraph, hnode⟩ := Option.bind_eq_some_iff.1 horigin
  have hnodes : (graph.modifyNode link.originNode f).edges.length
        + origin.outgoing.length
      = graph.edges.length + (f origin).outgoing.length :=
    length_flatMap_modifyFirst hnode (·.outgoing)
  have hgraphs : edgeCount (modifyFirst
          (fun graph => decide (graph.documentId = link.documentId))
          (·.modifyNode link.originNode f) graphs.reverse)
        + graph.edges.length
      = edgeCount graphs.reverse
        + (graph.modifyNode link.originNode f).edges.length :=
    length_flatMap_modifyFirst hgraph Graph.edges
  unfold modifyLast
  rw [edgeCount_reverse]
  rw [edgeCount_reverse graphs] at hgraphs
  omega

/-- The step of the count: a link adds an edge when it says so. -/
theorem edgeCount_apply (graphs : List Graph) (link : PendingLink) :
    edgeCount ((outcomeOf graphs link).apply graphs link)
      = edgeCount graphs
        + if (outcomeOf graphs link).isNew then 1 else 0 := by
  cases houtcome : outcomeOf graphs link with
  | attached title key origin destination =>
      obtain ⟨-, -, -, -, -, horigin, -⟩ :=
        outcomeOf_eq_attached_iff.1 houtcome
      have hcount := edgeCount_modifyLast horigin
        (·.link destination.documentId destination.localId)
      have hlength := length_outgoing_link origin
        (destination.documentId, destination.localId)
      show edgeCount (modifyLast link.documentId
        (·.modifyNode link.originNode
          (·.link destination.documentId destination.localId)) graphs)
          = edgeCount graphs + if !origin.linksTo destination.documentId
              destination.localId then 1 else 0
      simp only at hlength hcount
      omega
  | malformed | unknownDocument _ | unknownNode _ _ | lostOrigin _ => rfl

-- ======================================================= the whole pass

/-- The links up to the first whose report cannot be printed, at which the
pass breaks off. -/
def reached (graphs : List Graph) : List PendingLink → List PendingLink
  | [] => []
  | link :: links =>
    if isReportable graphs link then link :: reached graphs links
    else [link]

theorem reached_cons_of_isReportable {link : PendingLink}
    {links : List PendingLink} (h : isReportable graphs link = true) :
    reached graphs (link :: links) = link :: reached graphs links :=
  if_pos h

theorem reached_cons_of_not_isReportable {link : PendingLink}
    {links : List PendingLink} (h : isReportable graphs link = false) :
    reached graphs (link :: links) = [link] :=
  if_neg (by rw [h]; exact Bool.false_ne_true)

/-- When every report can be printed, all links are reached. -/
theorem reached_eq {links : List PendingLink}
    (h : links.all (isReportable graphs) = true) :
    reached graphs links = links := by
  induction links with
  | nil => rfl
  | cons link links ih =>
      rw [List.all_cons, Bool.and_eq_true] at h
      rw [reached_cons_of_isReportable h.1, ih h.2]

theorem reached_congr {others : List Graph}
    (hbare : others.map Graph.bare = graphs.map Graph.bare)
    (links : List PendingLink) :
    reached others links = reached graphs links := by
  induction links with
  | nil => rfl
  | cons link links ih =>
      unfold reached
      rw [isReportable_congr hbare, ih]

theorem isPrintable_report (link : PendingLink) (outcome : Outcome) :
    (outcome.report link).isPrintable
      = Numeral.isPrintable link.rowNumber := by
  cases outcome <;> rfl

/-- A link whose origin is lost makes no edge. -/
theorem Outcome.apply_of_isLost (graphs : List Graph) {outcome : Outcome}
    (h : outcome.isLost = true) (link : PendingLink) :
    outcome.apply graphs link = graphs ∧ outcome.isNew = false := by
  cases outcome with
  | lostOrigin origin => exact ⟨rfl, rfl⟩
  | malformed | unknownDocument _ | unknownNode _ _ | attached _ _ _ _ =>
      cases h

/-- One turn of the pass over sound graphs. It goes on behind a link whose
report is printed; otherwise the edge stays, and so does the report if
there is one. -/
theorem attachFrom_cons (h : SoundGraphs graphs) (link : PendingLink)
    (links : List PendingLink) :
    attachFrom graphs (link :: links)
      = if isReportable graphs link then
          let rest :=
            attachFrom ((outcomeOf graphs link).apply graphs link) links
          { rest with
            added := (if (outcomeOf graphs link).isNew then 1 else 0)
              + rest.added
            reports := (outcomeOf graphs link).report link :: rest.reports }
        else
          { graphs := (outcomeOf graphs link).apply graphs link
            added := if (outcomeOf graphs link).isNew then 1 else 0
            reports := if isWorded graphs link then
              [(outcomeOf graphs link).report link] else []
            failure := some .unprintableNumber } := by
  rw [attachFrom, resolve_eq h]
  unfold isReportable
  cases hworded : isWorded graphs link with
  | false =>
      have hlost : (outcomeOf graphs link).isLost = true := by
        unfold isWorded at hworded
        cases hlost : (outcomeOf graphs link).isLost with
        | true => rfl
        | false => rw [hlost] at hworded; cases hworded
      obtain ⟨hgraphs, hnew⟩ := Outcome.apply_of_isLost graphs hlost link
      rw [hgraphs, hnew]
      rfl
  | true =>
      have hlog : Diagnostic.log [(outcomeOf graphs link).report link]
          = if Numeral.isPrintable link.rowNumber then .ok ()
            else .error .unprintableNumber := by
        rw [Diagnostic.log_eq, List.all_cons, List.all_nil, Bool.and_true,
          isPrintable_report]
      simp only [if_true, hlog]
      cases Numeral.isPrintable link.rowNumber <;> rfl

/-- What the pass comes to, said without its steps: it goes through when
all reports can be printed, and else reaches the first link for which that
is not so; it relinks the graphs as they were by what the links reached
owe, it counts the edges that there are more, and it has a report on each
of these links in turn. -/
structure Exact (graphs : List Graph) (links : List PendingLink)
    (pass : Pass) : Prop where
  failure : pass.failure = printFault? (links.all (isReportable graphs))
  relinked : pass.graphs
    = graphs.map (Graph.relink (goalsFrom graphs (reached graphs links)))
  added : edgeCount pass.graphs = edgeCount graphs + pass.added
  reports : pass.reports
    = ((reached graphs links).filter (isWorded graphs)).map
        fun link => (outcomeOf graphs link).report link

theorem bare_map_relink (graphs : List Graph)
    (owed : Address → List Address) :
    (graphs.map (Graph.relink owed)).map Graph.bare
      = graphs.map Graph.bare := by
  rw [List.map_map]
  exact List.map_congr_left fun graph _ => Graph.bare_relink

/-- The pass over sound graphs of different documents. -/
theorem exact_attachFrom (h : SoundGraphs graphs) (links : List PendingLink) :
    Exact graphs links (attachFrom graphs links) := by
  induction links generalizing graphs with
  | nil =>
      refine ⟨rfl, ?_, rfl, rfl⟩
      show graphs = graphs.map (Graph.relink fun _ => [])
      conv => lhs; rw [← List.map_id graphs]
      exact List.map_congr_left fun graph _ => Graph.relink_nil.symm
  | cons link links ih =>
      have hstep := apply_eq_relink h link
      have hcount := edgeCount_apply graphs link
      rw [attachFrom_cons h]
      cases hlink : isReportable graphs link with
      | false =>
          rw [if_neg Bool.false_ne_true]
          refine ⟨?_, ?_, hcount, ?_⟩
          · rw [List.all_cons, hlink]
            rfl
          · rw [reached_cons_of_not_isReportable hlink]
            exact hstep
          · rw [reached_cons_of_not_isReportable hlink, List.filter_cons]
            cases isWorded graphs link <;> rfl
      | true =>
          have hworded : isWorded graphs link = true :=
            (Bool.and_eq_true_iff.1 hlink).1
          have hbare := bare_map_relink graphs (goalsFrom graphs [link])
          -- the later links are looked up in the changed graphs, but
          -- there they find what they found before, since edges do not
          -- matter
          have hrest := ih (h.relink (goalsFrom graphs [link]))
          rw [← hstep] at hrest hbare
          rw [if_pos rfl]
          refine ⟨?_, ?_, ?_, ?_⟩
          · show (attachFrom _ links).failure = _
            rw [hrest.failure, List.all_cons, hlink, Bool.true_and]
            congr 2
            funext other
            exact isReportable_congr hbare other
          · show (attachFrom _ links).graphs = _
            rw [hrest.relinked, goalsFrom_congr hbare, reached_congr hbare,
              hstep, List.map_map, reached_cons_of_isReportable hlink]
            refine List.map_congr_left fun graph _ => ?_
            rw [Function.comp_apply, Graph.relink_relink]
            congr 1
            funext address
            rw [goalsFrom_cons link (reached graphs links)]
          · show edgeCount (attachFrom _ links).graphs = _
            rw [hrest.added, hcount]
            show _ = edgeCount graphs
              + ((if (outcomeOf graphs link).isNew then 1 else 0) + _)
            omega
          · show (outcomeOf graphs link).report link
                :: (attachFrom _ links).reports = _
            have hfilter : (reached graphs links).filter (isWorded graphs)
                = (reached graphs links).filter
                    (isWorded ((outcomeOf graphs link).apply graphs link)) :=
              List.filter_congr fun other _ =>
                (isWorded_congr hbare other).symm
            rw [hrest.reports, reached_congr hbare,
              reached_cons_of_isReportable hlink,
              List.filter_cons_of_pos hworded, List.map_cons, hfilter]
            congr 1
            exact List.map_congr_left fun other _ =>
              report_outcomeOf_congr hbare other

/-- What is reported in front of the reports on links. -/
def headline (pending : List PendingLink) : List Diagnostic :=
  if pending.isEmpty then [] else [.crossLinksBegin pending.length]

/-- Attaching all pending links is the pass with a headline. -/
theorem attachAll_eq (graphs : List Graph) (pending : List PendingLink) :
    attachAll graphs pending
      = { attachFrom graphs pending with
          reports := headline pending
            ++ (attachFrom graphs pending).reports } := by
  cases pending <;> rfl

/-- The pass over all pending links goes through when all reports can be
printed. -/
theorem failure_attachAll (h : SoundGraphs graphs)
    (pending : List PendingLink) :
    (attachAll graphs pending).failure
      = printFault? (pending.all (isReportable graphs)) := by
  rw [attachAll_eq]
  exact (exact_attachFrom h pending).failure

theorem failure_attachAll_eq_none_iff (h : SoundGraphs graphs)
    (pending : List PendingLink) :
    (attachAll graphs pending).failure = none
      ↔ pending.all (isReportable graphs) = true := by
  rw [failure_attachAll h, printFault?_eq_none_iff]

/-- The graphs after the links that are reached: relinked by what these
owe. -/
theorem graphs_attachAll_reached (h : SoundGraphs graphs)
    (pending : List PendingLink) :
    (attachAll graphs pending).graphs
      = graphs.map
          (Graph.relink (goalsFrom graphs (reached graphs pending))) := by
  rw [attachAll_eq]
  exact (exact_attachFrom h pending).relinked

/-- The graphs after a pass that goes through: relinked by what all its
links owe. -/
theorem graphs_attachAll (h : SoundGraphs graphs)
    {pending : List PendingLink}
    (hfailure : (attachAll graphs pending).failure = none) :
    (attachAll graphs pending).graphs
      = graphs.map (Graph.relink (goalsFrom graphs pending)) := by
  rw [graphs_attachAll_reached h,
    reached_eq ((failure_attachAll_eq_none_iff h pending).1 hfailure)]

theorem soundGraphs_attachAll (h : SoundGraphs graphs)
    (links : List PendingLink) :
    SoundGraphs (attachAll graphs links).graphs := by
  rw [graphs_attachAll_reached h]
  exact h.relink _

/-- The pass counts the edges that there are more. -/
theorem edgeCount_attachAll (h : SoundGraphs graphs)
    (links : List PendingLink) :
    edgeCount (attachAll graphs links).graphs
      = edgeCount graphs + (attachAll graphs links).added := by
  rw [attachAll_eq]
  exact (exact_attachFrom h links).added

/-- A graph that the compiler made. -/
def IsCompiled (graph : Graph) : Prop :=
  ∃ rows heading compiled,
    Compile.compile rows heading = .ok compiled ∧ compiled.graph = graph

theorem IsCompiled.sound {graph : Graph} (h : IsCompiled graph) :
    graph.Sound := by
  obtain ⟨rows, heading, compiled, hcompiled, rfl⟩ := h
  exact Compile.sound_of_compile hcompiled

open Compile (compile spokenRow)

end CrossLink

end Storyline
