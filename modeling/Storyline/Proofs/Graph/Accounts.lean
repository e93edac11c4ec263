/-
What becomes of the targets and cells that make no edge and name no
actor: the links that a document leaves to the pass over all documents,
and everything that is reported about it, said row by row. The compiler
gathers both from nodes, and the reports of its loop come between the
states that it carries; here every entry is a function of the rows and of
a place among them, so that none can be lost, doubled or moved.

* `openLinks`: the targets with a colon, of the rows that stay;
* `rowReports`: a cell that is no number and a key that is taken, each at
  its row and against the rows in front of it (`reports_of_draftFrom`);
* `lostTargets`: the targets without a colon that no row claims, of all
  rows, also of those that are taken out.

Main statement: `accounts_of_compile`.
-/
import Storyline.Proofs.Graph.Authored
import Storyline.Proofs.Graph.NodeKey

namespace Storyline

open Script (Row)

-- ========================================================= speaker cells

namespace Speaker

/-- The last speaker behind some rows, whom a row without a number
repeats: the latest who is no option, or the narrator. -/
def lastSpeaker (rows : List Row) : Int :=
  (latest? isRepeatable rows).getD Actor.narrator

theorem last_stateAfter (counterpart : Int) (rows : List Row) :
    (stateAfter (.initial counterpart) rows).last = lastSpeaker rows := by
  rw [stateAfter_initial]
  rfl

end Speaker

namespace Compile

-- ============================================================ row by row

/-- The links to other documents, by row and then by target: those of the
rows that stay. -/
def openLinks (heading : Heading) (rows : List Row) : List PendingLink :=
  rows.zipIdx.flatMap fun (row, i) =>
    if isReserved row then []
    else (row.linkTargets.filter isCrossTarget).map fun target =>
      ⟨heading.documentId, heading.title, numberOf i, target, row.rowNumber⟩

/-- The report on a key that one of the rows in front has claimed. -/
def keyReports (document : String) (before : List Row) (row : Row) :
    List Diagnostic :=
  if Text.lower row.nodeKey ≠ ""
      ∧ (claimant? before (Text.lower row.nodeKey)).isSome then
    [.duplicateNodeKey document row.rowNumber row.nodeKey]
  else []

/-- What is reported about the row at a place when it becomes a node. -/
def rowReports (document : String) (rows : List Row) (row : Row × Nat) :
    List Diagnostic :=
  Speaker.cellReports document (Speaker.lastSpeaker (rows.take row.2)) row.1
    ++ keyReports document (rows.take row.2) row.1

/-- The reports on targets of a row that lead nowhere: those without a
colon that no row claims. -/
def lostTargets (document : String) (rows : List Row) (row : Row) :
    List Diagnostic :=
  (row.linkTargets.filter fun target =>
    !isCrossTarget target && (claimant? rows (Text.lower target)).isNone).map
      (.danglingLink document row.rowNumber)

variable {heading : Heading} {rows : List Row} {n : Int} {draft : Draft}
  {authored : List Authored} {linked : List Node} {compiled : Compiled}

-- ============================================================= the loop

theorem KeyIndex.claimAll_concat (index : KeyIndex) (n : Int)
    (rows : List Row) (row : Row) :
    index.claimAll n (rows ++ [row])
      = (index.claimAll n rows).claim
          ((index.claimAll n rows).keyOf row) (n + rows.length) := by
  induction rows generalizing index n with
  | nil =>
      show index.claim (index.keyOf row) n = _
      rw [List.length_nil, Int.natCast_zero, Int.add_zero]
      rfl
  | cons first rows ih =>
      show (index.claim (index.keyOf first) n).claimAll (n + 1)
        (rows ++ [row]) = _
      rw [ih, List.length_cons, Int.natCast_succ, Int.add_assoc,
        Int.add_comm 1]
      rfl

/-- A key is taken when one of the rows so far claims it. -/
theorem isTaken_claimAll (n : Int) (before : List Row) (row : Row) :
    (KeyIndex.claimAll [] n before).isTaken row = true
      ↔ Text.lower row.nodeKey ≠ ""
          ∧ (claimant? before (Text.lower row.nodeKey)).isSome = true := by
  unfold KeyIndex.isTaken
  rw [lookup_claimAll_nil, Option.isSome_map, Bool.and_eq_true,
    decide_eq_true_iff, ne_eq, ne_eq, lower_eq_empty]

/-- What the loop reports, from any row on: the reports on that row and
the ones behind it. The induction is on the rows that are left, with
those in front kept as they are, because the state and the keys that the
loop carries are told from them. -/
theorem reports_of_draftFrom {counterpart : Int} {before : List Row}
    (h : draftFrom heading
      (Speaker.stateAfter (.initial counterpart) before)
      (KeyIndex.claimAll [] n before) (n + before.length) rows
        = .ok draft) :
    draft.reports
      = (rows.zipIdx before.length).flatMap
          (rowReports heading.title (before ++ rows)) := by
  induction rows generalizing before draft with
  | nil =>
      cases h
      rfl
  | cons row rows ih =>
      obtain ⟨voice, after, reports, script, rest, hvoice, -, -, -, hrest,
        rfl⟩ := draftFrom_cons_eq_ok_iff.1 h
      have hafter : after = Speaker.stateAfter (.initial counterpart)
          (before ++ [row]) := by
        rw [Speaker.stateAfter_concat]
        exact (Speaker.resolve_ok hvoice).2
      have hplace : n + (before.length : Int) + 1
          = n + ((before ++ [row]).length : Int) := by
        rw [List.length_append, List.length_singleton]
        omega
      rw [hafter, ← KeyIndex.claimAll_concat, hplace] at hrest
      have hkeys : (KeyIndex.claimAll [] n before).reports heading.title row
          = keyReports heading.title before row :=
        if_congr (isTaken_claimAll n before row) rfl rfl
      have hfront : (before ++ row :: rows).take before.length = before :=
        List.take_left
      rw [hkeys, (Speaker.reports_of_resolve hvoice).1,
        Speaker.last_stateAfter,
        ih hrest, List.zipIdx_cons, List.flatMap_cons]
      unfold rowReports
      simp only [hfront, List.append_assoc, List.singleton_append,
        List.length_append, List.length_singleton]

theorem reports_of_draft {counterpart : Int}
    (h : draftFrom heading (.initial counterpart) [] n rows = .ok draft) :
    draft.reports = rows.zipIdx.flatMap (rowReports heading.title rows) := by
  have hstart : draftFrom heading
      (Speaker.stateAfter (.initial counterpart) [])
      (KeyIndex.claimAll [] n []) (n + ([] : List Row).length) rows
        = .ok draft := by
    rw [List.length_nil, Int.natCast_zero, Int.add_zero]
    exact h
  have hreports := reports_of_draftFrom hstart
  rwa [List.length_nil, List.nil_append] at hreports

-- =========================================================== the linking

/-- A list made from the nodes of a draft, one after the other, is made
from the rows at their places. -/
theorem Drafted.flatMap_eq {β : Type} {f : Authored → List β}
    {g : Row × Nat → List β} (h : Drafted heading n rows authored) (k : Nat)
    (hfg : ∀ (i : Nat) row voice script, rows[i]? = some row →
      f ⟨row, nodeOf heading (n + i) row voice script⟩ = g (row, k + i)) :
    authored.flatMap f = (rows.zipIdx k).flatMap g := by
  induction h generalizing k with
  | nil n => rfl
  | @cons n row rows authored voice script rest ih =>
      have hfirst := hfg 0 row voice script rfl
      rw [Int.natCast_zero, Int.add_zero] at hfirst
      rw [List.flatMap_cons, List.zipIdx_cons, List.flatMap_cons, hfirst]
      refine congrArg _ (ih (k + 1) fun i other voice script hother => ?_)
      have hlater := hfg (i + 1) other voice script hother
      rwa [Int.natCast_succ, Int.add_comm (i : Int) 1, ← Int.add_assoc,
        Nat.add_comm i 1, ← Nat.add_assoc] at hlater

theorem Drafted.rows_eq (h : Drafted heading n rows authored) :
    authored.map (·.row) = rows := by
  induction h with
  | nil n => rfl
  | cons voice script rest ih => rw [List.map_cons, ih]

/-- The links that are left open when the rows that look like the entry
are out. -/
theorem pending_eq
    (h : Drafted heading (rootId + 1) rows authored)
    (hlinked : LinkedRows heading rows linked) :
    ((authored.flatMap (pendingLinks heading)).filter fun link =>
        !(goneIds linked).contains link.originNode)
      = openLinks heading rows := by
  rw [List.filter_flatMap]
  refine h.flatMap_eq 0 fun i row voice script hrow => ?_
  have hgone : (goneIds linked).contains (numberOf i) = isReserved row := by
    rw [Bool.eq_iff_iff, List.contains_iff_mem]
    refine hlinked.mem_gone_iff.trans ?_
    unfold reservedAt
    rw [hrow]
    rfl
  unfold pendingLinks
  rw [rootId_add_eq_numberOf, List.filter_map, Nat.zero_add]
  show ((row.linkTargets.filter isCrossTarget).filter fun _ =>
    !(goneIds linked).contains (numberOf i)).map _ = _
  rw [hgone]
  cases hres : isReserved row with
  | true => simp [hres]
  | false => simp [hres, nodeOf]

/-- The targets of a row that lead nowhere, by the keys that rows claim. -/
theorem danglingReports_eq {counterpart : Int}
    (h : draftFrom heading (.initial counterpart) [] (rootId + 1) rows
      = .ok draft) (row : Row) :
    danglingReports heading draft.index row
      = lostTargets heading.title rows row := by
  unfold danglingReports lostTargets
  refine congrArg _ (List.filter_congr fun target _ => ?_)
  cases hinside : isCrossTarget target with
  | true => rfl
  | false => rw [targetId?_of_draftFrom h hinside, Option.isNone_map]

/-- The reports on the targets of a draft, row by row. -/
theorem linkReports_eq {counterpart : Int}
    (h : draftFrom heading (.initial counterpart) [] (rootId + 1) rows
      = .ok draft) :
    draft.linkReports heading
      = rows.flatMap (lostTargets heading.title rows) := by
  have hdrafted := (drafted_of_draftFrom h).1
  unfold Draft.linkReports
  rw [← hdrafted.rows_eq, List.flatMap_map]
  refine List.flatMap_congr fun a _ => ?_
  rw [danglingReports_eq h, hdrafted.rows_eq]

/-- As many nodes are taken out as there are rows that look like the
entry. -/
theorem length_goneIds (h : LinkedRows heading rows linked) :
    (goneIds linked).length = rows.countP isReserved := by
  have hlooks : linked.map looksLikeEntry = rows.map isReserved := by
    refine List.ext_getElem? fun i => ?_
    rw [List.getElem?_map, List.getElem?_map]
    by_cases hi : i < rows.length
    · have hrow := List.getElem?_eq_getElem hi
      obtain ⟨voice, script, hget⟩ := h.2 i _ hrow
      rw [hget, hrow, Option.map_some, looksLikeEntry_linkedNode]
      rfl
    · rw [List.getElem?_eq_none (by rw [h.1]; omega),
        List.getElem?_eq_none (by omega)]
      rfl
  have hcount : ∀ {α : Type} (p : α → Bool) (l : List α),
      l.countP p = (l.map p).countP id := fun p l => by
    rw [List.countP_map]
    rfl
  unfold goneIds
  rw [List.length_map, ← List.countP_eq_length_filter, hcount, hlooks,
    ← hcount]

theorem isEmpty_goneIds (h : LinkedRows heading rows linked) :
    (goneIds linked).isEmpty = !rows.any isReserved := by
  rw [Bool.eq_iff_iff, List.isEmpty_iff_length_eq_zero, length_goneIds h,
    List.countP_eq_zero]
  simp

-- ========================================================== the document

/-- The account of a document. Number the meaningful rows by their
places. Left open are the targets with a colon of the rows that are not
reserved, by row and then by target, each with its document, its node and
its row. The reports are, in this order: for each row one on its speaker
cell, if that is filled in and no number, and one on its key, if a row in
front has claimed it; one on each target without a colon that no row
claims; one on the reserved rows, if there are any; and one at the end. -/
theorem accounts_of_compile (h : compile rows heading = .ok compiled) :
    compiled.pending = openLinks heading (meaningful rows)
      ∧ compiled.reports
          = (meaningful rows).zipIdx.flatMap
              (rowReports heading.title (meaningful rows))
            ++ (meaningful rows).flatMap
                (lostTargets heading.title (meaningful rows))
            ++ (if (meaningful rows).any isReserved then
                  [Diagnostic.reservedStartRemoved heading.title
                    ((meaningful rows).countP isReserved)]
                else [])
            ++ [Diagnostic.documentCompiled heading.title
                (meaningful rows).length
                (openLinks heading (meaningful rows)).length] := by
  obtain ⟨counterpart, draft, -, -, hdraft, rfl⟩ := compile_ok h
  have hdrafted := (drafted_of_draftFrom hdraft).1
  have hlinked := linkedRows_of_draftFrom hdraft
  have hpending : (finish heading counterpart draft).pending
      = openLinks heading (meaningful rows) := pending_eq hdrafted hlinked
  have hdangling := linkReports_eq hdraft
  refine ⟨hpending, ?_⟩
  show draft.reports
      ++ draft.linkReports heading
      ++ (if (goneIds (linkNodes heading draft.index
              draft.authored)).isEmpty then []
          else [Diagnostic.reservedStartRemoved heading.title
            (goneIds (linkNodes heading draft.index
              draft.authored)).length])
      ++ [Diagnostic.documentCompiled heading.title draft.authored.length
          (finish heading counterpart draft).pending.length] = _
  rw [reports_of_draft hdraft, hdangling, hpending, hdrafted.length_eq,
    isEmpty_goneIds hlinked, length_goneIds hlinked]
  cases (meaningful rows).any isReserved <;> rfl

/-- A row with good and bad targets, a reserved row without a proper
speaker, and a row with the key of the first one. -/
def accountsStory : List Row :=
  [spokenRow 1 "2" "Hi." "A" ["B:x", "nowhere", "a"],
   spokenRow 2 "who" "START" "" ["B:y", "gone"],
   spokenRow 3 "" "Bye." "a" ["B:x", "B:x"]]

/-- The reserved row leaves no link open and has its lost target
reported; a target that is written twice is left open twice. -/
theorem accounts_accountsStory :
    ∃ compiled, compile accountsStory ⟨1, "Demo"⟩ = .ok compiled
      ∧ compiled.pending
          = [⟨1, "Demo", 1, "B:x", 1⟩, ⟨1, "Demo", 3, "B:x", 3⟩,
             ⟨1, "Demo", 3, "B:x", 3⟩]
      ∧ compiled.reports
          = [.unparsableSpeaker "Demo" 2 "who" "2",
             .duplicateNodeKey "Demo" 3 "a",
             .danglingLink "Demo" 1 "nowhere",
             .danglingLink "Demo" 2 "gone",
             .reservedStartRemoved "Demo" 1,
             .documentCompiled "Demo" 3 3] := by
  obtain ⟨compiled, h⟩ := Error.exists_ok
    (show (compile accountsStory ⟨1, "Demo"⟩).toOption.isSome = true by
      decide +kernel)
  obtain ⟨hpending, hreports⟩ := accounts_of_compile h
  exact ⟨compiled, h, hpending.trans (by decide +kernel),
    hreports.trans (by decide +kernel)⟩

end Compile

end Storyline
