/-
The link targets of a cell. The cell is cut at every separator, the pieces
are trimmed, and those of which nothing is left are dropped; here the
cells for a list of targets are built up from below.

# What is compared

* `targetChars`, the targets of a cell;
* `Lists`: a slot with one target and blanks around it, or with blanks
  alone, and two cells with a separator between them.

# What carries it

A cell is cut at a separator into cells of their own
(`targetChars_append`), and blanks are no separators, so the targets of a
slot are told by trimming it (`targetChars_of_slot`). Every cell is built
up from slots (`lists_targetChars`, by induction on its length), and what
holds of the targets in slots holds of the targets of every cell.

Main statement: `targets_of_cell`.
-/
import Storyline.Proofs.Text.Trim
import Storyline.Script.Row

namespace Storyline.Script

open Text (isBlankChar Padded IsTrimmed)

variable {a b cs t : List Char} {ts us : List (List Char)} {s : Char}

-- ============================================================= cutting

/-- The pieces of a text are those of the library. -/
theorem cutFrom_eq (p : Char → Bool) (piece cs : List Char) :
    cutFrom p piece cs = List.splitOnPPrepend p cs piece := by
  induction cs generalizing piece with
  | nil => rfl
  | cons c cs ih =>
      unfold cutFrom
      by_cases hc : p c = true
      · rw [if_pos hc, ih, List.splitOnPPrepend_cons_pos hc,
          List.splitOnPPrepend_nil_right]
      · rw [if_neg hc, ih,
          List.splitOnPPrepend_cons_neg (Bool.eq_false_iff.2 hc)]

theorem targetChars_eq (cs : List Char) :
    targetChars cs = ((cs.splitOnP isTargetSeparator).map
      Text.trimChars).filter (· ≠ []) := by
  unfold targetChars
  rw [cutFrom_eq, List.splitOnPPrepend_nil_right]

/-- The targets on both sides of a separator. -/
theorem targetChars_append (hs : isTargetSeparator s = true) :
    targetChars (a ++ s :: b) = targetChars a ++ targetChars b := by
  rw [targetChars_eq, targetChars_eq, targetChars_eq,
    List.splitOnP_append_cons a b hs, List.map_append, List.filter_append]

/-- Without a separator there is one piece. -/
theorem targetChars_of_plain (h : ∀ c ∈ cs, isTargetSeparator c = false) :
    targetChars cs = [Text.trimChars cs].filter (· ≠ []) := by
  rw [targetChars_eq, List.splitOnP_eq_singleton h, List.map_singleton]

theorem isTargetSeparator_iff :
    isTargetSeparator s = true ↔ s ∈ ['|', ';', ','] := by
  unfold isTargetSeparator
  simp [or_assoc]

theorem isTargetSeparator_of_isBlankChar (h : isBlankChar s = true) :
    isTargetSeparator s = false := by
  rw [Bool.eq_false_iff, Ne, isTargetSeparator_iff]
  have hplain : ∀ c ∈ ['|', ';', ','], isBlankChar c = false := by
    simp only [List.forall_mem_cons]
    exact ⟨by decide, by decide, by decide, nofun⟩
  intro hs
  rw [hplain s hs] at h
  cases h

-- =============================================================== slots

/-- A target: not empty, trimmed, and without separators. -/
structure IsTarget (t : List Char) : Prop where
  ne_nil : t ≠ []
  trimmed : IsTrimmed isBlankChar t
  plain : ∀ c ∈ t, isTargetSeparator c = false

/-- The targets in what stands between two separators: none among blanks,
or one with blanks around it. -/
inductive Slot : List Char → List (List Char) → Prop where
  | blank {cs : List Char} (h : ∀ c ∈ cs, isBlankChar c = true) : Slot cs []
  | target {cs t : List Char} (ht : IsTarget t)
      (h : Padded isBlankChar cs t) : Slot cs [t]

/-- A cell that lists targets: one slot, or two such cells with a separator
between them. -/
inductive Lists : List Char → List (List Char) → Prop where
  | slot {cs : List Char} {ts : List (List Char)} (h : Slot cs ts) :
      Lists cs ts
  | join {a b : List Char} {ts us : List (List Char)} {s : Char}
      (first : Lists a ts) (hs : isTargetSeparator s = true)
      (second : Lists b us) : Lists (a ++ s :: b) (ts ++ us)

theorem Slot.plain (h : Slot cs ts) :
    ∀ c ∈ cs, isTargetSeparator c = false := by
  intro c hc
  cases h with
  | blank hblank => exact isTargetSeparator_of_isBlankChar (hblank c hc)
  | @target t ht hpadded =>
      obtain ⟨before, after, hcs, hbefore, hafter⟩ := hpadded
      rw [hcs, List.mem_append, List.mem_append] at hc
      rcases hc with (hc | hc) | hc
      · exact isTargetSeparator_of_isBlankChar (hbefore c hc)
      · exact ht.plain c hc
      · exact isTargetSeparator_of_isBlankChar (hafter c hc)

theorem targetChars_of_slot (h : Slot cs ts) : targetChars cs = ts := by
  rw [targetChars_of_plain h.plain]
  cases h with
  | blank hblank =>
      have hnone : Text.trimChars cs = [] :=
        Text.dropEnds_of_padded (.of_all hblank)
      rw [hnone]
      rfl
  | @target t ht hpadded =>
      have htarget : Text.trimChars cs = t :=
        Text.dropEnds_eq_iff.2 ⟨hpadded, ht.trimmed⟩
      rw [htarget]
      exact List.filter_cons_of_pos (decide_eq_true ht.ne_nil)

/-- A cell without separators is one slot. -/
theorem slot_of_plain (h : ∀ c ∈ cs, isTargetSeparator c = false) :
    Slot cs (targetChars cs) := by
  have hpadded := Text.padded_dropEnds isBlankChar cs
  rw [targetChars_of_plain h]
  by_cases hnone : Text.trimChars cs = []
  · rw [hnone]
    refine .blank fun c hc => ?_
    obtain ⟨before, after, hcs, hbefore, hafter⟩ := hpadded
    have hblanks : cs = before ++ after := by
      rw [← List.append_nil before]
      exact hcs.trans (congrArg (before ++ · ++ after) hnone)
    rw [hblanks] at hc
    exact (List.mem_append.1 hc).elim (hbefore c) (hafter c)
  · have hkept : [Text.trimChars cs].filter (· ≠ []) = [Text.trimChars cs] :=
      List.filter_cons_of_pos (decide_eq_true hnone)
    rw [hkept]
    refine .target ⟨hnone, Text.isTrimmed_dropEnds isBlankChar cs,
      fun c hc => h c ?_⟩ hpadded
    obtain ⟨before, after, hcs, -, -⟩ := hpadded
    rw [hcs]
    exact List.mem_append_left after (List.mem_append_right before hc)

-- =============================================================== lists

/-- A cell that lists targets has them. -/
theorem Lists.targetChars_eq (h : Lists cs ts) : targetChars cs = ts := by
  induction h with
  | slot h => exact targetChars_of_slot h
  | join _ hs _ first second =>
      rw [targetChars_append hs, first, second]

/-- A cell lists the targets that it has. -/
theorem lists_targetChars (cs : List Char) : Lists cs (targetChars cs) := by
  induction hlength : cs.length using Nat.strongRecOn generalizing cs with
  | ind n ih =>
      by_cases hcut : ∃ s ∈ cs, isTargetSeparator s = true
      · obtain ⟨s, hmem, hs⟩ := hcut
        obtain ⟨a, b, hcs⟩ := List.append_of_mem hmem
        subst hcs
        rw [List.length_append, List.length_cons] at hlength
        rw [targetChars_append hs]
        exact .join (ih a.length (by omega) a rfl) hs
          (ih b.length (by omega) b rfl)
      · refine .slot (slot_of_plain fun c hc => ?_)
        exact Bool.eq_false_iff.2 fun hs => hcut ⟨c, hc, hs⟩

theorem lists_iff : Lists cs ts ↔ targetChars cs = ts := by
  constructor
  · exact Lists.targetChars_eq
  · intro h
    rw [← h]
    exact lists_targetChars cs

theorem Lists.isTarget (h : Lists cs ts) : ∀ t ∈ ts, IsTarget t := by
  induction h with
  | slot h =>
      intro t ht
      cases h with
      | blank => cases ht
      | target htarget =>
          rw [List.mem_singleton.1 ht]
          exact htarget
  | join _ _ _ first second =>
      intro t ht
      exact (List.mem_append.1 ht).elim (first t) (second t)

/-- Targets with separators between them are listed as they are. -/
theorem lists_intercalate (hs : isTargetSeparator s = true)
    (h : ∀ t ∈ ts, IsTarget t) : Lists ([s].intercalate ts) ts := by
  induction ts with
  | nil => exact .slot (.blank nofun)
  | cons t ts ih =>
      obtain ⟨ht, hts⟩ := List.forall_mem_cons.1 h
      have hfirst : Lists t [t] := .slot (.target ht (.refl _ t))
      cases ts with
      | nil =>
          rw [List.intercalate_singleton]
          exact hfirst
      | cons u ts =>
          rw [List.intercalate_cons_cons, List.append_assoc]
          exact hfirst.join hs (ih hts)

-- ============================================================== cells

theorem toList_targetsOf (cell : String) :
    (targetsOf cell).map String.toList = targetChars cell.toList := by
  unfold targetsOf
  rw [List.map_map]
  exact List.map_id'' (fun _ => String.toList_ofList) _

theorem targetsOf_eq_iff {cell : String} {targets : List String} :
    targetsOf cell = targets
      ↔ Lists cell.toList (targets.map String.toList) := by
  rw [lists_iff, ← toList_targetsOf]
  exact (List.map_injective_iff.2 fun _ _ =>
    String.toList_injective).eq_iff.symm

/-- The link targets of a cell. Two cells with a separator between them
have the targets of the first and then those of the second. Every target
is filled in, trimmed, and free of separators. The targets, put into one
cell with a separator between them, are the targets of that cell. And the
targets of a cell are the list just when the cell lists them, whichever
separators, blanks and empty slots it was written with. -/
theorem targets_of_cell :
    (∀ s ∈ ['|', ';', ','], ∀ a b : String,
        targetsOf (a ++ String.singleton s ++ b) = targetsOf a ++ targetsOf b)
      ∧ (∀ cell, ∀ target ∈ targetsOf cell,
          target ≠ "" ∧ Text.trim target = target
            ∧ ∀ s ∈ ['|', ';', ','], s ∉ target.toList)
      ∧ (∀ s ∈ ['|', ';', ','], ∀ cell,
          targetsOf ((String.singleton s).intercalate (targetsOf cell))
            = targetsOf cell)
      ∧ ∀ cell targets, targetsOf cell = targets
          ↔ Lists cell.toList (targets.map String.toList) := by
  refine ⟨fun s hs a b => ?_, fun cell target htarget => ?_,
    fun s hs cell => ?_, fun cell targets => targetsOf_eq_iff⟩
  · have hseparator := isTargetSeparator_iff.2 hs
    unfold targetsOf
    rw [← List.map_append, ← targetChars_append hseparator,
      String.toList_append, String.toList_append, String.toList_singleton,
      List.append_assoc, List.singleton_append]
  · have hchars : target.toList ∈ targetChars cell.toList := by
      rw [← toList_targetsOf]
      exact List.mem_map_of_mem htarget
    have htarget : IsTarget target.toList :=
      (lists_targetChars cell.toList).isTarget _ hchars
    refine ⟨?_, ?_, fun s hs hmem => ?_⟩
    · rintro rfl
      exact htarget.ne_nil rfl
    · unfold Text.trim
      rw [Text.trimChars, Text.dropEnds_of_isTrimmed htarget.trimmed,
        String.ofList_toList]
    · have hplain := htarget.plain s hmem
      rw [isTargetSeparator_iff.2 hs] at hplain
      cases hplain
  · have hlisted := lists_targetChars cell.toList
    rw [targetsOf_eq_iff, String.toList_intercalate, toList_targetsOf,
      String.toList_singleton]
    exact lists_intercalate (isTargetSeparator_iff.2 hs) hlisted.isTarget

/-- Different separators, blanks and empty slots, with the targets of both
halves and written anew with one separator. -/
theorem targets_mixedCell :
    targetsOf " a |\u3000b;c ,, d:start " = ["a", "b", "c", "d:start"]
      ∧ targetsOf "a,b,c,d:start" = ["a", "b", "c", "d:start"]
      ∧ "a" ≠ "" ∧ Text.trim "a" = "a" ∧ '|' ∉ "a".toList := by
  obtain ⟨happend, hmem, hjoin, -⟩ := targets_of_cell
  have hfirst : targetsOf " a |\u3000b" = ["a", "b"] := by rfl
  have hsecond : targetsOf "c ,, d:start " = ["c", "d:start"] := by rfl
  have hboth := happend ';' (by decide) " a |\u3000b" "c ,, d:start "
  rw [hfirst, hsecond] at hboth
  have hagain := hjoin ',' (by decide) " a |\u3000b;c ,, d:start "
  have hcell : targetsOf " a |\u3000b;c ,, d:start "
      = ["a", "b", "c", "d:start"] := hboth
  rw [hcell] at hagain
  obtain ⟨hfilled, htrimmed, hplain⟩ :=
    hmem " a |\u3000b" "a" (by rw [hfirst]; decide)
  exact ⟨hcell, hagain, hfilled, htrimmed, hplain '|' (by decide)⟩

end Storyline.Script
