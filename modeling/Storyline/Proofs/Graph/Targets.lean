/-
What a link between documents means. `CrossLink.resolve` follows a link
step by step and says where it gave up; here the address that a good
link leads to is said without the steps (`Leads`), and the two agree on
sound graphs of different documents, unless there is no saying that the
origin of a link is lost because its number is too long (`resolve_eq`).

* the name: one colon with something on either side (`Names`);
* the document: the first with that title in any case;
* the node: the entry for the word start, and otherwise the first node
  with that title in any case or with that number (`Meant`);
* the origin: a node that there is (`Occupied`).

A change that keeps titles and numbers of nodes does not change the
answers (`outcomeOf_map`). So they stay the same while the pass adds
edges, since a graph without these (`Graph.bare`) is all that any of this
looks at. Consumed by the pass over the links between documents.
-/
import Storyline.Graph.CrossLink
import Storyline.Proofs.Diagnostic
import Storyline.Proofs.Graph.Sound
import Storyline.Proofs.Text.Trim

namespace Storyline

-- ========================================= the first of a kind in a list

/-- An element with a property behind elements without it. -/
def IsFirst {α : Type _} (p : α → Prop) (a : α) (l : List α) : Prop :=
  ∃ before after, l = before ++ a :: after ∧ p a ∧ ∀ b ∈ before, ¬ p b

/-- A search finds the first element of its kind. -/
theorem find?_eq_some_iff_isFirst {α : Type _} {test : α → Bool}
    {p : α → Prop} (htest : ∀ a, test a = true ↔ p a) {l : List α} {a : α} :
    l.find? test = some a ↔ IsFirst p a l := by
  rw [List.find?_eq_some_iff_append]
  unfold IsFirst
  constructor
  · rintro ⟨ha, before, after, hl, hbefore⟩
    refine ⟨before, after, hl, (htest a).1 ha, fun b hb hp => ?_⟩
    have hfalse := hbefore b hb
    rw [(htest b).2 hp] at hfalse
    cases hfalse
  · rintro ⟨before, after, hl, ha, hbefore⟩
    refine ⟨(htest a).2 ha, before, after, hl, fun b hb => ?_⟩
    rw [Bool.not_eq_true', Bool.eq_false_iff]
    exact fun hb' => hbefore b hb ((htest b).1 hb')

-- ============================================================== names

namespace Text

theorem sameName_iff (a b : String) :
    sameName a b = true ↔ lower a = lower b := by
  unfold sameName
  exact beq_iff_eq

theorem sameName_eq (a b : String) :
    sameName a b = decide (lower a = lower b) := by
  rw [Bool.eq_iff_iff, sameName_iff, decide_eq_true_iff]

end Text

/-- The address that a link starts from. -/
def PendingLink.origin (link : PendingLink) : Address :=
  (link.documentId, link.originNode)

namespace CrossLink

-- ============================================================ the name

/-- A target with one colon and its two sides, of which neither is
blank. -/
def Names (target document key : String) : Prop :=
  ∃ before after, target.toList = before ++ ':' :: after
    ∧ ':' ∉ before ∧ ':' ∉ after
    ∧ document = Text.trim (String.ofList before) ∧ document ≠ ""
    ∧ key = Text.trim (String.ofList after) ∧ key ≠ ""

theorem splitTarget?_of_not_mem {target : String}
    (h : ':' ∉ target.toList) : splitTarget? target = none := by
  have hdrop : target.toList.dropWhile (· ≠ ':') = [] := by
    rw [List.dropWhile_eq_nil_iff]
    intro c hc
    rw [decide_eq_true_eq]
    rintro rfl
    exact h hc
  unfold splitTarget?
  simp only
  rw [hdrop]

/-- A target is cut at its first colon. -/
theorem splitTarget?_of_cut {target : String} {before after : List Char}
    (hcut : target.toList = before ++ ':' :: after) (hbefore : ':' ∉ before) :
    splitTarget? target
      = if after.contains ':' then none
        else if Text.trim (String.ofList before) = ""
            || Text.trim (String.ofList after) = "" then none
        else some (Text.trim (String.ofList before),
          Text.trim (String.ofList after)) := by
  have hall : ∀ c ∈ before, decide (c ≠ ':') = true := by
    intro c hc
    rw [decide_eq_true_eq]
    rintro rfl
    exact hbefore hc
  have hdrop : target.toList.dropWhile (· ≠ ':') = ':' :: after := by
    rw [hcut, List.dropWhile_append_of_pos hall]
    rfl
  have htake : target.toList.takeWhile (· ≠ ':') = before := by
    rw [hcut, List.takeWhile_append_of_pos hall]
    exact List.append_nil _
  unfold splitTarget?
  simp only
  rw [hdrop, htake]

/-- The two sides of a target are read off where it names something. -/
theorem splitTarget?_eq_some_iff {target document key : String} :
    splitTarget? target = some (document, key)
      ↔ Names target document key := by
  unfold Names
  constructor
  · intro h
    by_cases hmem : ':' ∈ target.toList
    · obtain ⟨before, after, hcut, hbefore⟩ :=
        List.eq_append_cons_of_mem hmem
      rw [splitTarget?_of_cut hcut hbefore] at h
      split at h
      · cases h
      · rename_i hafter
        split at h
        · cases h
        · rename_i hblank
          simp only [Bool.or_eq_true, decide_eq_true_eq, not_or] at hblank
          simp only [Option.some.injEq, Prod.mk.injEq] at h
          obtain ⟨rfl, rfl⟩ := h
          exact ⟨before, after, hcut, hbefore, by simpa using hafter, rfl,
            hblank.1, rfl, hblank.2⟩
    · rw [splitTarget?_of_not_mem hmem] at h
      cases h
  · rintro ⟨before, after, hcut, hbefore, hafter, rfl, hdocument, rfl, hkey⟩
    rw [splitTarget?_of_cut hcut hbefore, if_neg (by simpa using hafter),
      if_neg (by simp [hdocument, hkey])]

-- ======================================================== the document

/-- The graphs with a title in any case. -/
def Titled (title : String) (graph : Graph) : Prop :=
  Text.lower graph.title = Text.lower title

/-- The node that a key means in a document, if there is one. -/
def meant? (target : Graph) (key : String) : Option Node :=
  if Text.lower key = entryWord then target.root?
  else target.findNode? key

/-- The nodes with a title in any case, or with a number. -/
def Keyed (key : String) (node : Node) : Prop :=
  Text.lower node.title = Text.lower key ∨ Numeral.text node.localId = key

/-- The node that a key means in a document: its entry for the word
start, and otherwise the first with that title or number. -/
def Meant (target : Graph) (key : String) (node : Node) : Prop :=
  if Text.lower key = entryWord then
    node ∈ target.nodes ∧ node.localId = rootId
  else IsFirst (Keyed key) node target.nodes

theorem exists_root?_eq {graph : Graph} (h : graph.Sound) :
    ∃ root, graph.root? = some root := by
  have hentry := h.entry
  unfold Graph.localIds at hentry
  rw [List.head?_map] at hentry
  obtain ⟨root, hhead, hid⟩ := Option.map_eq_some_iff.1 hentry
  refine ⟨root, ?_⟩
  unfold Graph.root?
  rw [← hid]
  exact h.node?_eq (List.mem_of_head? hhead)

/-- In a sound graph looking for the node of a key does not fail. -/
theorem targetNode?_eq {target : Graph} (h : target.Sound) (key : String) :
    targetNode? target key = .ok (meant? target key) := by
  unfold targetNode? meant?
  by_cases hentry : Text.lower key = entryWord
  · obtain ⟨root, hroot⟩ := exists_root?_eq h
    rw [if_pos hentry, if_pos hentry, hroot]
    unfold Graph.root
    rw [hroot]
    rfl
  · rw [if_neg hentry, if_neg hentry]

/-- What a trimmed key that is not blank means. -/
theorem meant?_eq_some_iff {target : Graph} (h : target.Sound)
    {key : String} (htrim : Text.trim key = key) (hkey : key ≠ "")
    {node : Node} :
    meant? target key = some node ↔ Meant target key node := by
  unfold meant? Meant
  by_cases hentry : Text.lower key = entryWord
  · rw [if_pos hentry, if_pos hentry]
    unfold Graph.root?
    constructor
    · intro hroot
      refine ⟨List.mem_of_find?_eq_some hroot, ?_⟩
      simpa using List.find?_some hroot
    · rintro ⟨hmem, hid⟩
      rw [← hid]
      exact h.node?_eq hmem
  · rw [if_neg hentry, if_neg hentry]
    unfold Graph.findNode?
    simp only
    rw [htrim, if_neg hkey]
    refine find?_eq_some_iff_isFirst (p := Keyed key) fun other => ?_
    unfold Graph.keyMeans Keyed
    rw [Bool.or_eq_true, Text.sameName_iff, decide_eq_true_eq]

-- ========================================================== the origin

/-- An address with a node. -/
def Occupied (graphs : List Graph) (address : Address) : Prop :=
  ∃ graph ∈ graphs, graph.documentId = address.1
    ∧ address.2 ∈ graph.localIds

/-- The node at the address that a link starts from. -/
def origin? (graphs : List Graph) (link : PendingLink) : Option Node :=
  (byId? graphs link.documentId).bind (·.node? link.originNode)

/-- What becomes of a link among sound graphs. -/
def outcomeOf (graphs : List Graph) (link : PendingLink) : Outcome :=
  match splitTarget? link.target with
  | none => .malformed
  | some (title, key) =>
    match byTitle? graphs title with
    | none => .unknownDocument title
    | some target =>
      match meant? target key with
      | none => .unknownNode key target.title
      | some destination =>
        match origin? graphs link with
        | none => .lostOrigin (Numeral.text link.originNode)
        | some origin => .attached target.title key origin destination

/-- Whether a link has lost the node that it starts from. -/
def Outcome.isLost : Outcome → Bool
  | .lostOrigin _ => true
  | _ => false

/-- Whether it can be said what becomes of a link: when its origin is
lost, the number of that is not too long. -/
def isWorded (graphs : List Graph) (link : PendingLink) : Bool :=
  !(outcomeOf graphs link).isLost || Numeral.isPrintable link.originNode

/-- Whether the report on a link can be printed. -/
def isReportable (graphs : List Graph) (link : PendingLink) : Bool :=
  isWorded graphs link && Numeral.isPrintable link.rowNumber

/-- Among sound graphs looking up the ends of a link does not fail, unless
there is no saying what becomes of it. -/
theorem resolve_eq {graphs : List Graph} (h : SoundGraphs graphs)
    (link : PendingLink) :
    resolve graphs link
      = if isWorded graphs link then .ok (outcomeOf graphs link)
        else .error .unprintableNumber := by
  unfold resolve isWorded outcomeOf
  cases splitTarget? link.target with
  | none => rfl
  | some sides =>
      obtain ⟨title, key⟩ := sides
      cases htarget : byTitle? graphs title with
      | none => simp [htarget, Outcome.isLost]
      | some target =>
          have hmem : target ∈ graphs := List.mem_of_find?_eq_some htarget
          simp only [htarget, targetNode?_eq (h.each target hmem)]
          show (match meant? target key with
            | none => Except.ok (Outcome.unknownNode key target.title)
            | some destination => match origin? graphs link with
              | none => Numeral.print link.originNode >>= fun origin =>
                  Except.ok (Outcome.lostOrigin origin)
              | some origin => Except.ok
                  (Outcome.attached target.title key origin destination)) = _
          cases meant? target key with
          | none => rfl
          | some destination =>
              cases origin? graphs link with
              | some origin => rfl
              | none =>
                  cases hnode : Numeral.isPrintable link.originNode with
                  | true =>
                      simp only [Numeral.print_of_isPrintable hnode]
                      rfl
                  | false =>
                      simp only [Numeral.print_of_not_isPrintable hnode]
                      rfl

/-- The address that a good link leads to. -/
def Outcome.goal? : Outcome → Option Address
  | .attached _ _ _ destination =>
    some (destination.documentId, destination.localId)
  | _ => none

/-- The address that a link leads to, if it is good. -/
def destination? (graphs : List Graph) (link : PendingLink) :
    Option Address :=
  (outcomeOf graphs link).goal?

/-- A link that leads to an address: its target names a document and a
key, that title is first borne by some document, the key means the node
at the address there, and the link starts at a node. -/
def Leads (graphs : List Graph) (link : PendingLink)
    (goal : Address) : Prop :=
  ∃ title key target node, Names link.target title key
    ∧ IsFirst (Titled title) target graphs
    ∧ Meant target key node
    ∧ Occupied graphs link.origin
    ∧ goal = (target.documentId, node.localId)

/-- A link is attached when all four searches find something. -/
theorem outcomeOf_eq_attached_iff {graphs : List Graph} {link : PendingLink}
    {targetTitle key : String} {origin destination : Node} :
    outcomeOf graphs link = .attached targetTitle key origin destination
      ↔ ∃ title target, splitTarget? link.target = some (title, key)
        ∧ byTitle? graphs title = some target
        ∧ meant? target key = some destination
        ∧ origin? graphs link = some origin
        ∧ targetTitle = target.title := by
  unfold outcomeOf
  constructor
  · intro h
    split at h
    · cases h
    · rename_i title key' hsides
      split at h
      · cases h
      · rename_i target htarget
        split at h
        · cases h
        · rename_i destination' hnode
          split at h
          · cases h
          · rename_i origin' horigin
            cases h
            exact ⟨title, target, hsides, htarget, hnode, horigin, rfl⟩
  · rintro ⟨title, target, hsides, htarget, hnode, horigin, rfl⟩
    simp only [hsides, htarget, hnode, horigin]

/-- A good link leads to the node that it is attached to. -/
theorem destination?_eq_some_search {graphs : List Graph}
    {link : PendingLink} {goal : Address} :
    destination? graphs link = some goal
      ↔ ∃ title key target node, splitTarget? link.target = some (title, key)
        ∧ byTitle? graphs title = some target
        ∧ meant? target key = some node
        ∧ (origin? graphs link).isSome = true
        ∧ goal = (node.documentId, node.localId) := by
  unfold destination?
  constructor
  · intro h
    cases houtcome : outcomeOf graphs link with
    | attached targetTitle key origin destination =>
        obtain ⟨title, target, hsides, htarget, hnode, horigin, -⟩ :=
          outcomeOf_eq_attached_iff.1 houtcome
        rw [houtcome] at h
        refine ⟨title, key, target, destination, hsides, htarget, hnode,
          ?_, (Option.some.inj h).symm⟩
        rw [horigin]
        rfl
    | malformed | unknownDocument _ | unknownNode _ _ | lostOrigin _ =>
        rw [houtcome] at h
        cases h
  · rintro ⟨title, key, target, node, hsides, htarget, hnode, horigin, rfl⟩
    obtain ⟨origin, horigin⟩ := Option.isSome_iff_exists.1 horigin
    rw [outcomeOf_eq_attached_iff.2
      ⟨title, target, hsides, htarget, hnode, horigin, rfl⟩]
    rfl

theorem meant?_mem {target : Graph} {key : String} {node : Node}
    (h : meant? target key = some node) : node ∈ target.nodes := by
  unfold meant? at h
  split at h
  · exact List.mem_of_find?_eq_some h
  · unfold Graph.findNode? at h
    simp only at h
    split at h
    · cases h
    · exact List.mem_of_find?_eq_some h

end CrossLink

-- ================================================= changes out of sight

namespace CrossLink

/-- A change of graphs, node by node, that the searches for the ends of a
link do not see: titles, numbers of nodes and their order stay. -/
structure Unseen (f : Graph → Graph) (g : Node → Node) : Prop where
  graphTitle : ∀ graph, (f graph).title = graph.title
  nodes : ∀ graph, (f graph).nodes = graph.nodes.map g
  nodeTitle : ∀ node, (g node).title = node.title
  localId : ∀ node, (g node).localId = node.localId

/-- An outcome with both of its nodes changed. -/
def Outcome.mapNodes (g : Node → Node) : Outcome → Outcome
  | .attached title key origin destination =>
    .attached title key (g origin) (g destination)
  | outcome => outcome

theorem Outcome.report_mapNodes (g : Node → Node) (link : PendingLink)
    (outcome : Outcome) :
    (outcome.mapNodes g).report link = outcome.report link := by
  cases outcome <;> rfl

theorem Outcome.isLost_mapNodes (g : Node → Node) (outcome : Outcome) :
    (outcome.mapNodes g).isLost = outcome.isLost := by
  cases outcome <;> rfl

section Unseen

variable {f : Graph → Graph} {g : Node → Node} {graphs : List Graph}

theorem byTitle?_map (h : Unseen f g) (title : String) :
    byTitle? (graphs.map f) title = (byTitle? graphs title).map f := by
  have hname : (fun graph : Graph => Text.sameName graph.title title) ∘ f
      = fun graph => Text.sameName graph.title title := by
    funext graph
    rw [Function.comp_apply, h.graphTitle]
  unfold byTitle?
  rw [List.find?_map, hname]

theorem node?_map (h : Unseen f g) (graph : Graph) (localId : Int) :
    (f graph).node? localId = (graph.node? localId).map g := by
  have hid : (fun node : Node => decide (node.localId = localId)) ∘ g
      = fun node => decide (node.localId = localId) := by
    funext node
    rw [Function.comp_apply, h.localId]
  unfold Graph.node?
  rw [h.nodes, List.find?_map, hid]

theorem meant?_map (h : Unseen f g) (target : Graph) (key : String) :
    meant? (f target) key = (meant? target key).map g := by
  unfold meant?
  split
  · exact node?_map h target rootId
  · unfold Graph.findNode?
    simp only
    split
    · rfl
    · have hmeans : Graph.keyMeans (Text.trim key) ∘ g
          = Graph.keyMeans (Text.trim key) := by
        funext node
        rw [Function.comp_apply]
        unfold Graph.keyMeans
        rw [h.nodeTitle, h.localId]
      rw [h.nodes, List.find?_map, hmeans]

variable {link other : PendingLink}

theorem origin?_map (h : Unseen f g)
    (hnode : other.originNode = link.originNode)
    (hdocument : ∀ graph, (f graph).documentId = other.documentId
      ↔ graph.documentId = link.documentId) :
    origin? (graphs.map f) other = (origin? graphs link).map g := by
  have hid : (fun graph : Graph =>
        decide (graph.documentId = other.documentId)) ∘ f
      = fun graph => decide (graph.documentId = link.documentId) :=
    funext fun graph => decide_eq_decide.2 (hdocument graph)
  have hgraph : byId? (graphs.map f) other.documentId
      = (byId? graphs link.documentId).map f := by
    unfold byId?
    rw [← List.map_reverse, List.find?_map, hid]
  unfold origin?
  rw [hgraph, hnode]
  cases byId? graphs link.documentId with
  | none => rfl
  | some graph => exact node?_map h graph link.originNode

/-- A link to the same target from the same node comes to the same among
changed graphs. -/
theorem outcomeOf_map (h : Unseen f g) (htarget : other.target = link.target)
    (hnode : other.originNode = link.originNode)
    (hdocument : ∀ graph, (f graph).documentId = other.documentId
      ↔ graph.documentId = link.documentId) :
    outcomeOf (graphs.map f) other = (outcomeOf graphs link).mapNodes g := by
  unfold outcomeOf
  rw [htarget]
  cases splitTarget? link.target with
  | none => rfl
  | some sides =>
      obtain ⟨title, key⟩ := sides
      simp only [byTitle?_map h]
      cases byTitle? graphs title with
      | none => rfl
      | some target =>
          simp only [Option.map_some, meant?_map h, h.graphTitle,
            origin?_map h hnode hdocument]
          cases meant? target key with
          | none => rfl
          | some destination =>
              cases origin? graphs link with
              | none => simp only [Option.map_none, hnode]; rfl
              | some origin => rfl

/-- A report that can be printed can be printed among changed graphs. -/
theorem isReportable_map (h : Unseen f g)
    (htarget : other.target = link.target)
    (hnode : other.originNode = link.originNode)
    (hrow : other.rowNumber = link.rowNumber)
    (hdocument : ∀ graph, (f graph).documentId = other.documentId
      ↔ graph.documentId = link.documentId) :
    isReportable (graphs.map f) other = isReportable graphs link := by
  unfold isReportable isWorded
  rw [outcomeOf_map h htarget hnode hdocument, Outcome.isLost_mapNodes,
    hnode, hrow]

end Unseen

end CrossLink

-- ======================================================= without edges

/-- A node without its edges. -/
def Node.bare (node : Node) : Node := { node with outgoing := [] }

/-- A graph without its edges. -/
def Graph.bare (graph : Graph) : Graph :=
  { graph with nodes := graph.nodes.map Node.bare }

namespace CrossLink

theorem unseen_bare : Unseen Graph.bare Node.bare :=
  ⟨fun _ => rfl, fun _ => rfl, fun _ => rfl, fun _ => rfl⟩

theorem outcomeOf_bare (graphs : List Graph) (link : PendingLink) :
    outcomeOf (graphs.map Graph.bare) link
      = (outcomeOf graphs link).mapNodes Node.bare :=
  outcomeOf_map unseen_bare rfl rfl fun _ => Iff.rfl

theorem Outcome.goal?_bare (outcome : Outcome) :
    (outcome.mapNodes Node.bare).goal? = outcome.goal? := by
  cases outcome <;> rfl

end CrossLink

end Storyline
