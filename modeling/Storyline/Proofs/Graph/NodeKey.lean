/-
The key of a row, from inside its document and from outside. Inside, a
target is looked up among the keys that rows have claimed; from another
document it is looked for among the nodes, by title and by number at
once. Here the two are compared for the keys that authors give to rows.

* inside, such a key leads to the first row that has it in any case
  (`claimant?_eq_findIdx?`), since keys of row numbers do not interfere;
* from outside it means the first node that has it as a title or as a
  number, and every node is the entry or the node of a row
  (`mem_nodes_of_compile`).

The two differ just when the key is the number of a node further up,
which `numberKey_splits` shows to happen. Main statement:
`targetNode?_nodeKey_iff`.
-/
import Storyline.Proofs.Graph.Edges
import Storyline.Proofs.Graph.Targets

namespace Storyline

/-- In front of a node of a sound graph stand the nodes with smaller
numbers. -/
theorem Graph.Sound.isFirst_iff {graph : Graph} (h : graph.Sound)
    {p : Node → Prop} {node : Node} (hnode : node ∈ graph.nodes) :
    IsFirst p node graph.nodes
      ↔ p node ∧ ∀ other ∈ graph.nodes,
          other.localId < node.localId → ¬ p other := by
  have hincreasing := List.pairwise_map.1 h.increasing
  constructor
  · rintro ⟨before, after, hsplit, hp, hbefore⟩
    refine ⟨hp, fun other hother hlt => ?_⟩
    rw [hsplit] at hother hincreasing
    have hcons := (List.pairwise_append.1 hincreasing).2.1
    rcases List.mem_append.1 hother with hother | hother
    · exact hbefore other hother
    · rcases List.mem_cons.1 hother with rfl | hother
      · omega
      · have := (List.pairwise_cons.1 hcons).1 other hother
        omega
  · rintro ⟨hp, hsmaller⟩
    obtain ⟨before, after, hsplit⟩ := List.append_of_mem hnode
    refine ⟨before, after, hsplit, hp, fun other hother => ?_⟩
    refine hsmaller other ?_ ?_
    · rw [hsplit]
      exact List.mem_append_left _ hother
    · rw [hsplit] at hincreasing
      exact (List.pairwise_append.1 hincreasing).2.2 other hother node
        List.mem_cons_self

namespace Compile

open Script (Row)
open CrossLink (targetNode? splitTarget? entryWord Keyed)

-- ========================================================== from inside

/-- A key in small letters that is no key of a row number. -/
structure IsOwnKey (key : String) : Prop where
  filled : key ≠ ""
  noRowKey : ¬ "__row_".toList <+: key.toList

variable {rows : List Row} {heading : Heading} {compiled : Compiled}
  {row : Row} {key : String} {j : Nat}

theorem IsOwnKey.numberKey_ne (h : IsOwnKey key) (row : Row) :
    numberKey row ≠ key := by
  rintro rfl
  refine h.noRowKey ⟨(Numeral.text row.rowNumber).toList, ?_⟩
  unfold numberKey
  rw [String.toList_append]

/-- A row claims a free key of this kind when it is the row's own. -/
theorem claimed?_eq_some_iff (h : IsOwnKey key) {taken : List String}
    (hfree : key ∉ taken) :
    claimed? taken row = some key ↔ Text.lower row.nodeKey = key := by
  unfold claimed?
  constructor
  · intro hclaim
    split at hclaim
    · exact Option.some.inj hclaim
    · split at hclaim
      · exact absurd (Option.some.inj hclaim) (h.numberKey_ne row)
      · cases hclaim
  · rintro rfl
    rw [if_pos ⟨h.filled, hfree⟩]

theorem idxOf?_claimsFrom (h : IsOwnKey key) {taken : List String}
    (hfree : key ∉ taken) :
    (claimsFrom taken rows).idxOf? (some key)
      = rows.findIdx? fun row => Text.lower row.nodeKey = key := by
  induction rows generalizing taken with
  | nil => rfl
  | cons row rows ih =>
      have hclaim : claimed? taken row = some key
          ↔ Text.lower row.nodeKey = key := claimed?_eq_some_iff h hfree
      rw [claimsFrom_cons, List.idxOf?_cons, List.findIdx?_cons]
      by_cases hkey : Text.lower row.nodeKey = key
      · rw [if_pos (by simpa using hclaim.2 hkey),
          if_pos (decide_eq_true hkey)]
      · have hnot : claimed? taken row ≠ some key := fun h =>
          hkey (hclaim.1 h)
        rw [if_neg (by simpa using hnot), if_neg (by simpa using hkey), ih]
        rw [List.mem_append, Option.mem_toList]
        rintro (hclaimed | htaken)
        · exact hnot hclaimed
        · exact hfree htaken

/-- The row that claims such a key is the first that has it. -/
theorem claimant?_eq_findIdx? (h : IsOwnKey key) :
    claimant? rows key
      = rows.findIdx? fun row => Text.lower row.nodeKey = key :=
  idxOf?_claimsFrom h List.not_mem_nil

/-- The key of a row is claimed, by the first row that has it. -/
theorem exists_claimant? (h : IsOwnKey (Text.lower row.nodeKey))
    (hrow : row ∈ rows) :
    ∃ j first, claimant? rows (Text.lower row.nodeKey) = some j
      ∧ rows[j]? = some first
      ∧ Text.lower first.nodeKey = Text.lower row.nodeKey
      ∧ ∀ i other, i < j → rows[i]? = some other →
          Text.lower other.nodeKey ≠ Text.lower row.nodeKey := by
  rw [claimant?_eq_findIdx? h]
  cases hfound : rows.findIdx? fun other =>
      decide (Text.lower other.nodeKey = Text.lower row.nodeKey) with
  | none =>
      have := List.findIdx?_eq_none_iff.1 hfound row hrow
      simp at this
  | some j =>
      obtain ⟨hj, hsame, hfirst⟩ := List.findIdx?_eq_some_iff_getElem.1 hfound
      refine ⟨j, rows[j], rfl, List.getElem?_eq_getElem hj,
        of_decide_eq_true hsame, fun i other hi hother => ?_⟩
      obtain ⟨hlt, rfl⟩ := List.getElem?_eq_some_iff.1 hother
      simpa using hfirst i hi

/-- What the linking code looks a target up in, once all rows are in. -/
theorem targetId?_of_draftFrom {counterpart : Int} {draft : Draft}
    (h : draftFrom heading (.initial counterpart) [] (rootId + 1) rows
      = .ok draft) {target : String} (hinside : isCrossTarget target = false) :
    targetId? draft.index target
      = (claimant? rows (Text.lower target)).map numberOf := by
  unfold targetId?
  rw [hinside]
  exact lookup_of_draftFrom h _

-- ========================================================= from outside

theorem entryNode_title {counterpart : Int} {linked : List Node} :
    (entryNode heading counterpart linked).title = rootTitle := by
  have hlink : ∀ others root,
      (linkEntry heading.documentId others root).title = root.title := by
    intro others root
    rcases linkEntry_cases heading.documentId others root with
      h | ⟨first, rest, -, h⟩
    · rw [h]
    · rw [h, Node.linkEach_eq]
  unfold entryNode
  rw [hlink]
  show (linkEntry heading.documentId linked
    (rootNode heading counterpart)).title = rootTitle
  rw [hlink]
  rfl

/-- A node of a compiled document is the entry or the node of a row. -/
theorem mem_nodes_of_compile (h : compile rows heading = .ok compiled)
    {node : Node} (hnode : node ∈ compiled.graph.nodes) :
    (node.localId = rootId ∧ node.title = rootTitle)
      ∨ ∃ i row, (meaningful rows)[i]? = some row
          ∧ node.localId = numberOf i ∧ node.title = row.nodeKey := by
  obtain ⟨counterpart, linked, hlinked, -, -, hnodes⟩ :=
    linkedRows_of_compile h
  rw [hnodes] at hnode
  rcases List.mem_cons.1 hnode with rfl | hnode
  · exact Or.inl ⟨entryNode_localId, entryNode_title⟩
  · obtain ⟨old, hmem, -, rfl⟩ := mem_dropReserved_iff.1 hnode
    obtain ⟨i, row, voice, script, hrow, rfl⟩ := hlinked.of_mem hmem
    refine Or.inr ⟨i, row, hrow, linkedNode_localId, ?_⟩
    unfold dropEdges linkedNode
    rw [Node.linkEach_eq]
    rfl

/-- Without reserved rows there is a node for the entry and every row. -/
theorem exists_mem_nodes (h : compile rows heading = .ok compiled)
    (hstays : ∀ row ∈ meaningful rows, isReserved row = false) {n : Nat}
    (hn : n ≤ (meaningful rows).length) :
    ∃ node ∈ compiled.graph.nodes, node.localId = n := by
  cases n with
  | zero =>
      obtain ⟨counterpart, linked, -, -, -, hnodes⟩ :=
        linkedRows_of_compile h
      refine ⟨entryNode heading counterpart linked, ?_, entryNode_localId⟩
      rw [hnodes]
      exact List.mem_cons_self
  | succ i =>
      have hrow := List.getElem?_eq_getElem hn
      obtain ⟨node, hnode, -⟩ := outgoing_of_compile h hrow
        (hstays _ (List.getElem_mem hn))
      have hid : node.localId = numberOf i := by
        simpa using List.find?_some hnode
      exact ⟨node, List.mem_of_find?_eq_some hnode, hid⟩

/-- A key that is neither the word for the entry nor blank means a node
when this is the first with that title or number. -/
theorem targetNode?_eq_some_iff (h : compile rows heading = .ok compiled)
    (htrim : Text.trim key = key) (hkey : key ≠ "")
    (hentry : Text.lower key ≠ entryWord) {node : Node} :
    targetNode? compiled.graph key = .ok (some node)
      ↔ IsFirst (Keyed key) node compiled.graph.nodes := by
  have hsound := sound_of_compile h
  rw [CrossLink.targetNode?_eq hsound, Except.ok.injEq,
    CrossLink.meant?_eq_some_iff hsound htrim hkey]
  unfold CrossLink.Meant
  rw [if_neg hentry]

-- ========================================================= both at once

/-- A row has an edge to the row that claims one of its targets. -/
theorem mem_addresses_of_claimant? (h : compile rows heading = .ok compiled)
    (hstays : ∀ row ∈ meaningful rows, isReserved row = false) {i : Nat}
    (hrow : (meaningful rows)[i]? = some row) {target : String}
    (htarget : target ∈ row.linkTargets)
    (hinside : isCrossTarget target = false)
    (hclaim : claimant? (meaningful rows) (Text.lower target) = some j) :
    ∃ origin, compiled.graph.node? (numberOf i) = some origin
      ∧ addressOf heading.documentId j ∈ origin.addresses := by
  obtain ⟨origin, horigin, -, -, -, houtgoing⟩ := outgoing_of_compile h
    hrow (hstays row (List.mem_of_getElem? hrow))
  have hnamed : j ∈ named (meaningful rows) row := by
    refine List.mem_filterMap.2 ⟨target, ?_, hclaim⟩
    exact List.mem_filter.2 ⟨htarget, by simp [hinside]⟩
  have hgoal : j ∈ goals (meaningful rows) i row := by
    refine List.mem_append_left _ ?_
    rw [if_neg (List.ne_nil_of_mem htarget)]
    exact hnamed
  have hkept : reservedAt (meaningful rows) j = false := by
    have hj := claimant?_lt hclaim
    unfold reservedAt
    rw [List.getElem?_eq_getElem hj]
    exact hstays _ (List.getElem_mem hj)
  refine ⟨origin, horigin, ?_⟩
  unfold Node.addresses
  rw [houtgoing, List.map_map]
  exact List.mem_map.2 ⟨j, List.mem_filter.2
    ⟨List.mem_eraseDups.2 hgoal, by simp [hkept]⟩, rfl⟩

/-- A title and a key with a colon between them are cut there again. -/
theorem splitTarget?_joined {title : String} (htitle : Text.trim title ≠ "")
    (hcolon : isCrossTarget title = false) (htrim : Text.trim key = key)
    (hkey : key ≠ "") (hinside : isCrossTarget key = false) :
    splitTarget? (title ++ ":" ++ key) = some (Text.trim title, key) := by
  refine CrossLink.splitTarget?_eq_some_iff.2
    ⟨title.toList, key.toList, ?_, ?_, ?_, ?_, htitle, ?_, hkey⟩
  · rw [String.toList_append, String.toList_append, List.append_assoc]
    rfl
  · simpa [isCrossTarget] using hcolon
  · simpa [isCrossTarget] using hinside
  · rw [String.ofList_toList]
  · rw [String.ofList_toList, htrim]

/-- A node further up than the first row with a key has the key only as
its number, and its number is no negative one. -/
theorem exists_text_of_keyed (h : compile rows heading = .ok compiled)
    (hentry : Text.lower key ≠ entryWord)
    (hbefore : ∀ i other, i < j → (meaningful rows)[i]? = some other →
      Text.lower other.nodeKey ≠ Text.lower key) {node : Node}
    (hnode : node ∈ compiled.graph.nodes) (hlt : node.localId < numberOf j)
    (hkeyed : Keyed key node) :
    ∃ n : Nat, node.localId = n ∧ key = Numeral.text n := by
  rcases mem_nodes_of_compile h hnode with
    ⟨hid, htitle⟩ | ⟨i, row, hrow, hid, htitle⟩
  · rcases hkeyed with hname | hnumber
    · rw [htitle] at hname
      exact absurd (hname.symm.trans (by decide +kernel)) hentry
    · exact ⟨0, hid, by rw [← hnumber, hid]; rfl⟩
  · rcases hkeyed with hname | hnumber
    · rw [htitle] at hname
      refine absurd hname (hbefore i row ?_ hrow)
      rw [hid] at hlt
      unfold numberOf at hlt
      omega
    · exact ⟨i + 1, hid, by rw [← hnumber, hid]; rfl⟩

/-- A key of a row, from inside and from outside. Let no row be
reserved, and let a row have a trimmed key without a colon that is
neither the word for the entry nor a key of a row number. Then there is
a node to which the key leads inside the document: the linking code
finds its number, and every row with the key among its targets has an
edge to it. A target that names a document and the key means the same
node just when the key is not the number of a node further up. -/
theorem targetNode?_nodeKey_iff (h : compile rows heading = .ok compiled)
    (hstays : ∀ row ∈ meaningful rows, isReserved row = false)
    (hrow : row ∈ meaningful rows)
    (htrim : Text.trim row.nodeKey = row.nodeKey)
    (hinside : isCrossTarget row.nodeKey = false)
    (hentry : Text.lower row.nodeKey ≠ entryWord)
    (hown : IsOwnKey (Text.lower row.nodeKey)) :
    ∃ node ∈ compiled.graph.nodes,
      (∀ counterpart draft,
          draftFrom heading (.initial counterpart) [] (rootId + 1)
            (meaningful rows) = .ok draft →
          targetId? draft.index row.nodeKey = some node.localId)
        ∧ (∀ i other, (meaningful rows)[i]? = some other →
            row.nodeKey ∈ other.linkTargets →
            ∃ origin, compiled.graph.node? (numberOf i) = some origin
              ∧ (heading.documentId, node.localId) ∈ origin.addresses)
        ∧ (∀ title, Text.trim title ≠ "" → isCrossTarget title = false →
            splitTarget? (title ++ ":" ++ row.nodeKey)
              = some (Text.trim title, row.nodeKey))
        ∧ (targetNode? compiled.graph row.nodeKey = .ok (some node)
            ↔ ∀ n : Nat, (n : Int) < node.localId →
                row.nodeKey ≠ Numeral.text n) := by
  have hkey : row.nodeKey ≠ "" := fun hempty =>
    hown.filled (lower_eq_empty.2 hempty)
  obtain ⟨j, first, hclaim, hfirst, hsame, hbefore⟩ :=
    exists_claimant? hown hrow
  obtain ⟨node, hnode, htitle, -⟩ :=
    outgoing_of_compile h hfirst (hstays first (List.mem_of_getElem? hfirst))
  have hmem : node ∈ compiled.graph.nodes := List.mem_of_find?_eq_some hnode
  have hid : node.localId = numberOf j := by
    simpa using List.find?_some hnode
  refine ⟨node, hmem, fun counterpart draft hdraft => ?_,
    fun i other hother htarget => ?_, fun title htitle hcolon =>
      splitTarget?_joined htitle hcolon htrim hkey hinside, ?_⟩
  · rw [targetId?_of_draftFrom hdraft hinside, hclaim, hid]
    rfl
  · rw [hid]
    exact mem_addresses_of_claimant? h hstays hother htarget hinside hclaim
  · rw [targetNode?_eq_some_iff h htrim hkey hentry,
      (sound_of_compile h).isFirst_iff hmem]
    have hkeyed : Keyed row.nodeKey node := Or.inl (by rw [htitle, hsame])
    constructor
    · rintro ⟨-, hnone⟩ n hn hnumber
      -- the node with that number would be found first
      have hbound : n ≤ (meaningful rows).length := by
        have hlt := claimant?_lt hclaim
        rw [hid] at hn
        unfold numberOf at hn
        omega
      obtain ⟨other, hother, hotherId⟩ := exists_mem_nodes h hstays hbound
      refine hnone other hother (by rw [hotherId]; exact hn) (Or.inr ?_)
      rw [hotherId, hnumber]
    · intro hnumbers
      refine ⟨hkeyed, fun other hother hlt hotherKeyed => ?_⟩
      obtain ⟨n, hotherId, hnumber⟩ := exists_text_of_keyed h hentry
        hbefore hother (by rw [← hid]; exact hlt) hotherKeyed
      exact hnumbers n (by rw [← hotherId]; exact hlt) hnumber

/-- Three rows with a key that is the number of a later row, a key, and
the same key in another case. -/
def laterNumberStory : List Row :=
  [spokenRow 1 "2" "One." "3" ["REPLY", "3"],
   spokenRow 2 "2" "Two." "Reply" [],
   spokenRow 3 "2" "Three." "reply" ["3"]]

/-- The number of a later row does no harm: the first row is meant. -/
theorem targetNode?_laterNumber :
    ∃ compiled node,
      compile laterNumberStory ⟨1, "Demo"⟩ = .ok compiled
        ∧ targetNode? compiled.graph "3" = .ok (some node)
        ∧ node.localId = 1
        ∧ ∃ origin, compiled.graph.node? 3 = some origin
            ∧ (1, node.localId) ∈ origin.addresses := by
  obtain ⟨compiled, h⟩ := Error.exists_ok
    (show (compile laterNumberStory ⟨1, "Demo"⟩).toOption.isSome = true by
      decide +kernel)
  have hrow : spokenRow 1 "2" "One." "3" ["REPLY", "3"]
      ∈ meaningful laterNumberStory := by decide +kernel
  have hown : IsOwnKey (Text.lower "3") :=
    ⟨by decide +kernel, by decide +kernel⟩
  obtain ⟨node, hnode, hdraft, hlinked, -, hmeant⟩ :=
    targetNode?_nodeKey_iff h (by decide +kernel) hrow (by decide +kernel)
      (by decide +kernel) (by decide +kernel) hown
  obtain ⟨counterpart, draft, hcounterpart, -, hdraftFrom, -⟩ := compile_ok h
  have hid : node.localId = 1 := by
    have hlookup := hdraft counterpart draft hdraftFrom
    rw [targetId?_of_draftFrom hdraftFrom (by decide +kernel)] at hlookup
    refine Option.some.inj (hlookup.symm.trans ?_)
    decide +kernel
  obtain ⟨origin, horigin, hedge⟩ := hlinked 2
    (spokenRow 3 "2" "Three." "reply" ["3"]) (by decide +kernel)
    (by decide +kernel)
  refine ⟨compiled, node, h, hmeant.2 fun n hn => ?_, hid, origin, horigin,
    hedge⟩
  have hzero : n = 0 := by omega
  subst hzero
  decide +kernel

/-- A row whose key is the number of the row in front of it, which leads
there. -/
def numberStory : List Row :=
  [spokenRow 1 "2" "Hi." "A" ["1"], spokenRow 2 "2" "Bye." "1" []]

/-- Inside the document the key `1` leads to the second row, from outside
it means the first one, which has that number. -/
theorem numberKey_splits :
    isCrossTarget "1" = false ∧ Text.trim "1" = "1"
      ∧ Text.lower "1" ≠ entryWord ∧ IsOwnKey (Text.lower "1")
      ∧ (∀ row ∈ meaningful numberStory, isReserved row = false)
      ∧ spokenRow 2 "2" "Bye." "1" [] ∈ meaningful numberStory
      ∧ ∃ compiled origin node,
          compile numberStory ⟨1, "Demo"⟩ = .ok compiled
            ∧ compiled.graph.node? 1 = some origin
            ∧ origin.addresses = [(1, 2)]
            ∧ targetNode? compiled.graph "1" = .ok (some node)
            ∧ node.localId = 1 := by
  refine ⟨by decide +kernel, by decide +kernel, by decide +kernel,
    ⟨by decide +kernel, by decide +kernel⟩, by decide +kernel,
    by decide +kernel, ?_⟩
  obtain ⟨compiled, h⟩ := Error.exists_ok
    (show (compile numberStory ⟨1, "Demo"⟩).toOption.isSome = true by
      decide +kernel)
  have hinside : ((compile numberStory ⟨1, "Demo"⟩).toOption.bind
      fun compiled => compiled.graph.node? 1).map (·.addresses)
        = some [(1, 2)] := by decide +kernel
  have houtside : ((compile numberStory ⟨1, "Demo"⟩).toOption.bind
      fun compiled => CrossLink.meant? compiled.graph "1").map (·.localId)
        = some 1 := by decide +kernel
  rw [h] at hinside houtside
  obtain ⟨origin, horigin, haddresses⟩ := Option.map_eq_some_iff.1 hinside
  obtain ⟨node, hnode, hid⟩ := Option.map_eq_some_iff.1 houtside
  refine ⟨compiled, origin, node, h, horigin, haddresses, ?_, hid⟩
  rw [CrossLink.targetNode?_eq (sound_of_compile h)]
  exact congrArg Except.ok hnode

end Compile

end Storyline
