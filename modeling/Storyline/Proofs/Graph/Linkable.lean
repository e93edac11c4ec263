/-
Whether a row can be linked to. The loop over the rows enters each of
them under one key, its own one or the key of its number, and leaves a
key that is taken as it is; the linking code then looks targets up among
these keys, but not targets with a colon.

# What is compared

* being in the index after the loop, and what the rows in front say
  about a row: it is missing just when it is left with the key of its
  number and one of them has that key as its own (`Shadowed`);
* being in the index, and being named by some target: the key under
  which a row is entered is a target unless it has a colon.

# What carries it

A key stays with the row that claims it first, so nothing behind a row
matters (`claimant?_take`), and a row gets its key just when that is free
at its turn (`claimant?_eq_some_iff`). Keys of different numbers differ
(`numberKey_inj`), which leaves the keys that authors give. Small letters
neither bring a colon in nor take one away (`isCrossTarget_lower`).

Main statement: `linkable_of_compile`.
-/
import Storyline.Proofs.Graph.Acceptance
import Storyline.Proofs.Graph.Options
import Storyline.Proofs.Json.Numbers

namespace Storyline

open Script (Row)

-- ======================================================= keys of numbers

namespace Numeral

/-- The characters of a number stand in front of the letters. -/
theorem toNat_lt_of_mem_intChars {z : Int} {c : Char}
    (h : c ∈ intChars z) : c.toNat < 65 := by
  have hdigit : ∀ n, c ∈ natChars n → c.toNat < 65 := by
    intro n hc
    have hascii := Json.isAsciiDigit_of_mem_natChars hc
    simp only [Json.isAsciiDigit, Bool.and_eq_true, decide_eq_true_eq]
      at hascii
    have hle : c.toNat ≤ 57 := hascii.2
    omega
  cases z with
  | ofNat n => exact hdigit n h
  | negSucc n =>
      rcases List.mem_cons.1 h with rfl | hc
      · decide
      · exact hdigit (n + 1) hc

theorem text_injective : Function.Injective text := by
  have hnat : Function.Injective natChars :=
    Function.LeftInverse.injective Json.asciiNumber_natChars
  have hminus : ∀ n, '-' ∉ natChars n := fun n hmem =>
    absurd (Json.isAsciiDigit_of_mem_natChars hmem) (by decide)
  intro a b h
  have hchars : intChars a = intChars b := by
    unfold text at h
    simpa using congrArg String.toList h
  cases a with
  | ofNat n =>
      cases b with
      | ofNat m => exact congrArg Int.ofNat (hnat hchars)
      | negSucc m =>
          refine absurd ?_ (hminus n)
          show '-' ∈ intChars (.ofNat n)
          rw [hchars]
          exact List.mem_cons_self
  | negSucc n =>
      cases b with
      | ofNat m =>
          refine absurd ?_ (hminus m)
          show '-' ∈ intChars (.ofNat m)
          rw [← hchars]
          exact List.mem_cons_self
      | negSucc m =>
          have htail := hnat (List.cons.inj hchars).2
          rw [Nat.add_right_cancel htail]

end Numeral

namespace Compile

variable {heading : Heading} {rows before : List Row} {row : Row}
  {key : String} {i : Nat}

theorem toList_numberKey (row : Row) :
    (numberKey row).toList
      = "__row_".toList ++ Numeral.intChars row.rowNumber := by
  unfold numberKey
  rw [String.toList_append]
  exact congrArg _ String.toList_ofList

theorem numberKey_inj {a b : Row} (h : numberKey a = numberKey b) :
    a.rowNumber = b.rowNumber := by
  have hchars := congrArg String.toList h
  unfold numberKey at hchars
  rw [String.toList_append, String.toList_append] at hchars
  exact Numeral.text_injective
    (String.toList_injective (List.append_cancel_left hchars))

theorem numberKey_ne_empty (row : Row) : numberKey row ≠ "" := by
  intro h
  have hchars := toList_numberKey row
  rw [h] at hchars
  cases hchars

/-- The key of a number is written in small letters. -/
theorem lower_numberKey (row : Row) :
    Text.lower (numberKey row) = numberKey row := by
  refine String.toList_injective ?_
  rw [Text.toList_lower]
  refine Text.lowerCharsAfter_of_isSmall (fun c hc => ?_) []
  rw [toList_numberKey] at hc
  rcases List.mem_append.1 hc with hc | hc
  · have hprefix : ("__row_".toList.all fun c =>
        c ≠ 'Σ' && c ≠ 'İ' && Text.CaseRun.apply Text.lowerRuns c = c)
          = true := by decide +kernel
    have hsmall := List.all_eq_true.1 hprefix c hc
    simp only [Bool.and_eq_true, decide_eq_true_eq] at hsmall
    exact Text.isSmall_of_apply hsmall.1.1 hsmall.1.2 hsmall.2
  · exact Text.isSmall_of_lt (Numeral.toNat_lt_of_mem_intChars hc)

theorem isCrossTarget_lower (s : String) :
    isCrossTarget (Text.lower s) = isCrossTarget s := by
  unfold isCrossTarget
  rw [Text.toList_lower, List.contains_eq_mem, List.contains_eq_mem]
  exact decide_eq_decide.2 (Text.colon_mem_lowerCharsAfter [] s.toList)

-- =========================================================== first come

/-- The key under which a row is entered behind some rows: its own one in
small letters, or the one of its number when it has none of its own or
that is claimed. -/
def entryKey (before : List Row) (row : Row) : String :=
  if Text.lower row.nodeKey ≠ ""
      ∧ claimant? before (Text.lower row.nodeKey) = none then
    Text.lower row.nodeKey
  else numberKey row

theorem keyOf_claimAll (n : Int) (before : List Row) (row : Row) :
    (KeyIndex.claimAll [] n before).keyOf row = entryKey before row := by
  have htaken := isTaken_claimAll n before row
  unfold KeyIndex.keyOf KeyIndex.needsNumber entryKey
  by_cases hempty : row.nodeKey = ""
  · rw [if_pos (by simp [hempty]),
      if_neg fun h => h.1 (lower_eq_empty.2 hempty)]
  · have hown : Text.lower row.nodeKey ≠ "" := fun h =>
      hempty (lower_eq_empty.1 h)
    cases hclaim : claimant? before (Text.lower row.nodeKey) with
    | none =>
        rw [hclaim] at htaken
        have hfree : (KeyIndex.claimAll [] n before).isTaken row = false :=
          Bool.eq_false_iff.2 fun h => Bool.false_ne_true (htaken.1 h).2
        rw [if_neg (by simp [hempty, hfree]), if_pos ⟨hown, rfl⟩]
    | some j =>
        rw [hclaim] at htaken
        rw [if_pos (by simp [htaken.2 ⟨hown, rfl⟩]),
          if_neg fun h => nomatch h.2]

theorem claimsFrom_take (taken : List String) (rows : List Row) (k : Nat) :
    claimsFrom taken (rows.take k) = (claimsFrom taken rows).take k := by
  induction rows generalizing taken k with
  | nil => rw [List.take_nil]; exact List.take_nil.symm
  | cons row rows ih =>
      cases k with
      | zero => rfl
      | succ k =>
          rw [List.take_succ_cons, claimsFrom_cons, claimsFrom_cons,
            List.take_succ_cons, ih]

/-- The rows in front of a place claim their keys without regard to those
behind it. -/
theorem claimant?_take {j k : Nat} :
    claimant? (rows.take k) key = some j
      ↔ claimant? rows key = some j ∧ j < k := by
  unfold claimant? List.idxOf?
  rw [claimsFrom_take, List.findIdx?_take, Option.bind_eq_some_iff]
  simp only [Option.guard_eq_some_iff, decide_eq_true_eq]
  constructor
  · rintro ⟨m, hm, rfl, hlt⟩
    exact ⟨hm, hlt⟩
  · rintro ⟨hj, hlt⟩
    exact ⟨j, hj, rfl, hlt⟩

/-- One row more claims the key under which it is entered, if that is
free. -/
theorem claimant?_concat (before : List Row) (row : Row) (key : String) :
    claimant? (before ++ [row]) key
      = (claimant? before key).or
          (if key = entryKey before row then some before.length
            else none) := by
  have hinjective : Function.Injective fun i : Nat => (0 : Int) + i := by
    intro i j h
    simpa using h
  have hlookup := lookup_claimAll_nil (before ++ [row]) 0 key
  rw [KeyIndex.claimAll_concat, lookup_claim, keyOf_claimAll,
    lookup_claimAll_nil] at hlookup
  refine Option.map_injective hinjective (hlookup.symm.trans ?_)
  rw [Option.map_or]
  congr 1
  split <;> rfl

/-- A row has a key when that is the one under which it is entered, and no
row in front has claimed it. -/
theorem claimant?_eq_some_iff (hrow : rows[i]? = some row) :
    claimant? rows key = some i
      ↔ claimant? (rows.take i) key = none
          ∧ key = entryKey (rows.take i) row := by
  have hlt : i < rows.length := (List.getElem?_eq_some_iff.1 hrow).1
  have hlength : (rows.take i).length = i :=
    List.length_take_of_le hlt.le
  have hfront : claimant? rows key = some i
      ↔ claimant? (rows.take i ++ [row]) key = some i := by
    have hsplit : rows.take (i + 1) = rows.take i ++ [row] := by
      rw [List.take_add_one, hrow]
      rfl
    rw [← hsplit, claimant?_take]
    exact (and_iff_left (Nat.lt_succ_self i)).symm
  rw [hfront, claimant?_concat, hlength]
  cases hbefore : claimant? (rows.take i) key with
  | none => simp
  | some j =>
      have hj := claimant?_lt hbefore
      rw [hlength] at hj
      simp [hj.ne]

/-- A row's own key is claimed, by the row or by one in front of it. -/
theorem isSome_claimant?_nodeKey (hmem : row ∈ rows)
    (hown : Text.lower row.nodeKey ≠ "") :
    (claimant? rows (Text.lower row.nodeKey)).isSome = true := by
  obtain ⟨i, hrow⟩ := List.mem_iff_getElem?.1 hmem
  cases hclaim : claimant? (rows.take i) (Text.lower row.nodeKey) with
  | some j => rw [(claimant?_take.1 hclaim).1]; rfl
  | none =>
      have hentry : Text.lower row.nodeKey = entryKey (rows.take i) row :=
        (if_pos ⟨hown, hclaim⟩).symm
      rw [(claimant?_eq_some_iff hrow).2 ⟨hclaim, hentry⟩]
      rfl

-- ============================================================= shadowed

/-- Behind these rows a row is left without a key: it has to do with the
one of its number, because it has none of its own or that is claimed, and
that one is the own key of another row. -/
def Shadowed (before : List Row) (row : Row) : Prop :=
  (Text.lower row.nodeKey = ""
      ∨ (claimant? before (Text.lower row.nodeKey)).isSome = true)
    ∧ ∃ other ∈ before, Text.lower other.nodeKey = numberKey row

/-- The key of a number is claimed in front of the row with the number
just when it is the own key of a row there. -/
theorem claimant?_numberKey_eq_none_iff
    (hnumbers : ∀ other ∈ before, other.rowNumber ≠ row.rowNumber) :
    claimant? before (numberKey row) = none
      ↔ ∀ other ∈ before, Text.lower other.nodeKey ≠ numberKey row := by
  constructor
  · intro hnone other hmem hown
    have hsome := isSome_claimant?_nodeKey hmem
      (by rw [hown]; exact numberKey_ne_empty row)
    rw [hown, hnone] at hsome
    cases hsome
  · intro hfree
    cases hclaim : claimant? before (numberKey row) with
    | none => rfl
    | some j =>
        have hother := List.getElem?_eq_getElem (claimant?_lt hclaim)
        have hmem := List.mem_of_getElem? hother
        have hentry := ((claimant?_eq_some_iff hother).1 hclaim).2
        unfold entryKey at hentry
        split at hentry
        · exact absurd hentry.symm (hfree _ hmem)
        · exact absurd (numberKey_inj hentry.symm) (hnumbers _ hmem)

/-- The key under which a row is entered is free unless the row is
shadowed. -/
theorem claimant?_entryKey_eq_none_iff
    (hnumbers : ∀ other ∈ before, other.rowNumber ≠ row.rowNumber) :
    claimant? before (entryKey before row) = none
      ↔ ¬ Shadowed before row := by
  unfold entryKey Shadowed
  split
  · next hown =>
    refine iff_of_true hown.2 fun hshadowed => ?_
    rcases hshadowed.1 with hempty | hclaimed
    · exact hown.1 hempty
    · rw [hown.2] at hclaimed
      cases hclaimed
  · next hown =>
    have hleft : Text.lower row.nodeKey = ""
        ∨ (claimant? before (Text.lower row.nodeKey)).isSome = true := by
      by_cases hempty : Text.lower row.nodeKey = ""
      · exact Or.inl hempty
      · exact Or.inr (Option.isSome_iff_ne_none.2 fun hnone =>
          hown ⟨hempty, hnone⟩)
    rw [claimant?_numberKey_eq_none_iff hnumbers]
    simp [hleft]

/-- A key under which a row is entered is one that a target can name,
unless it has a colon. -/
theorem exists_target_iff :
    (∃ target, isCrossTarget target = false
        ∧ Text.lower target = entryKey before row)
      ↔ isCrossTarget (entryKey before row) = false := by
  constructor
  · rintro ⟨target, hinside, hentry⟩
    rw [← hentry, isCrossTarget_lower]
    exact hinside
  · unfold entryKey
    split
    · intro hinside
      rw [isCrossTarget_lower] at hinside
      exact ⟨row.nodeKey, hinside, rfl⟩
    · exact fun hinside => ⟨numberKey row, hinside, lower_numberKey row⟩

-- ============================================================ the index

section Draft

variable {counterpart : Int} {draft : Draft} {target : String}

theorem lookup_eq_some_iff
    (h : draftFrom heading (.initial counterpart) [] (rootId + 1) rows
      = .ok draft) :
    draft.index.lookup key = some (numberOf i)
      ↔ claimant? rows key = some i := by
  rw [lookup_of_draftFrom h, Option.map_eq_some_iff]
  constructor
  · rintro ⟨j, hj, hij⟩
    rwa [← numberOf_injective hij]
  · exact fun hi => ⟨i, hi, rfl⟩

theorem targetId?_eq_some_iff
    (h : draftFrom heading (.initial counterpart) [] (rootId + 1) rows
      = .ok draft) :
    targetId? draft.index target = some (numberOf i)
      ↔ isCrossTarget target = false
          ∧ claimant? rows (Text.lower target) = some i := by
  unfold targetId?
  rw [← lookup_eq_some_iff h]
  cases isCrossTarget target <;> simp

end Draft

-- ======================================================= one target more

/-- The row with a number is given one more target. -/
def withTarget (number : Int) (target : String) (row : Row) : Row :=
  if row.rowNumber = number then
    { row with linkTargets := target :: row.linkTargets }
  else row

section WithTarget

variable {number : Int} {target : String}

@[simp] theorem withTarget_nodeKey (row : Row) :
    (withTarget number target row).nodeKey = row.nodeKey := by
  unfold withTarget
  split <;> rfl

@[simp] theorem withTarget_rowNumber (row : Row) :
    (withTarget number target row).rowNumber = row.rowNumber := by
  unfold withTarget
  split <;> rfl

theorem isReserved_withTarget (row : Row) :
    isReserved (withTarget number target row) = isReserved row := by
  unfold withTarget
  split <;> rfl

theorem IsReadable.withTarget (h : IsReadable row) :
    IsReadable (withTarget number target row) := by
  unfold Compile.withTarget
  split
  · exact ⟨h.speaker, h.poses⟩
  · exact h

theorem isMeaningful_withTarget
    (h : row.rowNumber = number → row.isMeaningful = true) :
    (withTarget number target row).isMeaningful = row.isMeaningful := by
  unfold withTarget
  split
  · next hnumber =>
    have hmeaning := h hnumber
    rw [hmeaning]
    unfold Row.isMeaningful at hmeaning ⊢
    simp only [List.all_cons]
    cases Text.isBlank target with
    | true => exact hmeaning
    | false => simp
  · rfl

theorem claimant?_map_withTarget (rows : List Row) :
    claimant? (rows.map (withTarget number target)) = claimant? rows := by
  have hclaims : ∀ taken,
      claimsFrom taken (rows.map (withTarget number target))
        = claimsFrom taken rows := by
    induction rows with
    | nil => exact fun _ => rfl
    | cons row rows ih =>
        intro taken
        have hclaim : claimed? taken (withTarget number target row)
            = claimed? taken row := by
          unfold claimed? numberKey
          rw [withTarget_nodeKey, withTarget_rowNumber]
        rw [List.map_cons, claimsFrom_cons, claimsFrom_cons, hclaim, ih]
  funext key
  unfold claimant?
  rw [hclaims]

/-- A target that a row claims is no lost one, so that one target more
leaves the number of every row printed or not. -/
theorem isNumbered_map_withTarget {rows : List Row} (i : Nat) (row : Row)
    (hclaim : (claimant? rows (Text.lower target)).isSome = true) :
    isNumbered (rows.map (withTarget number target)) i
        (withTarget number target row)
      = isNumbered rows i row := by
  have hcell : Speaker.isUnparsable (withTarget number target row)
      = Speaker.isUnparsable row := by
    unfold withTarget
    split <;> rfl
  have hlost : hasLostTarget (rows.map (withTarget number target))
        (withTarget number target row)
      = hasLostTarget rows row := by
    unfold hasLostTarget
    rw [claimant?_map_withTarget]
    unfold withTarget
    split
    · rw [List.any_cons, Option.isNone_eq_false_iff.2 hclaim,
        Bool.and_false, Bool.false_or]
    · rfl
  unfold isNumbered needsNumber
  rw [hcell, hlost, ← List.map_take, claimant?_map_withTarget,
    withTarget_nodeKey]

theorem IsAcceptable.withTarget {rows : List Row} (h : IsAcceptable rows)
    (hclaim : (claimant? rows (Text.lower target)).isSome = true) :
    IsAcceptable (rows.map (withTarget number target)) := by
  constructor
  · intro row hrow
    obtain ⟨old, hold, rfl⟩ := List.mem_map.1 hrow
    exact (h.readable old hold).withTarget
  · intro i row hrow hnumbered
    rw [List.getElem?_map] at hrow
    obtain ⟨old, hold, rfl⟩ := Option.map_eq_some_iff.1 hrow
    rw [isNumbered_map_withTarget i old hclaim] at hnumbered
    rw [withTarget_rowNumber]
    exact h.printable i old hold hnumbered

/-- With row numbers that differ, one target more changes no row but the
one that is meant, so the meaningful rows stay at their places. -/
theorem meaningful_map_withTarget {other : Row}
    (hnumbers : (rows.map (·.rowNumber)).Nodup)
    (hother : other ∈ meaningful rows) :
    meaningful (rows.map (withTarget other.rowNumber target))
      = (meaningful rows).map (withTarget other.rowNumber target) := by
  obtain ⟨hmem, hmeaning⟩ := List.mem_filter.1 hother
  unfold meaningful
  rw [List.filter_map]
  refine congrArg _ (List.filter_congr fun row hrow => ?_)
  refine isMeaningful_withTarget fun hnumber => ?_
  rw [List.inj_on_of_nodup_map hnumbers hrow hmem hnumber]
  exact hmeaning

/-- A target that is looked up for a row gives an edge to it. -/
theorem mem_addresses_withTarget {compiled : Compiled} {other : Row}
    {k : Nat} (h : compile rows heading = .ok compiled)
    (hnumbers : (rows.map (·.rowNumber)).Nodup)
    (hrow : (meaningful rows)[i]? = some row)
    (hstays : isReserved row = false)
    (hother : (meaningful rows)[k]? = some other)
    (hothers : isReserved other = false)
    (hinside : isCrossTarget target = false)
    (hclaim : claimant? (meaningful rows) (Text.lower target) = some i) :
    ∃ linked origin,
      compile (rows.map (withTarget other.rowNumber target)) heading
          = .ok linked
        ∧ linked.graph.node? (numberOf k) = some origin
        ∧ addressOf heading.documentId i ∈ origin.addresses := by
  obtain ⟨-, -, -, hissues, -, -⟩ := compile_ok h
  have hmeaningful :
      meaningful (rows.map (withTarget other.rowNumber target))
        = (meaningful rows).map (withTarget other.rowNumber target) :=
    meaningful_map_withTarget hnumbers (List.mem_of_getElem? hother)
  have hacceptable : IsAcceptable (meaningful
      (rows.map (withTarget other.rowNumber target))) := by
    rw [hmeaningful]
    refine ((exists_compile_iff hissues).1 ⟨compiled, h⟩).withTarget ?_
    rw [hclaim]
    rfl
  obtain ⟨linked, hlinked⟩ := (exists_compile_iff hissues).2 hacceptable
  have hplace : ∀ (j : Nat) old, (meaningful rows)[j]? = some old →
      (meaningful (rows.map (withTarget other.rowNumber target)))[j]?
        = some (withTarget other.rowNumber target old) := by
    intro j old hold
    rw [hmeaningful, List.getElem?_map, hold]
    rfl
  obtain ⟨origin, horigin, -, -, -, houtgoing⟩ :=
    outgoing_of_compile hlinked (hplace k other hother)
      ((isReserved_withTarget other).trans hothers)
  refine ⟨linked, origin, hlinked, horigin,
    (mem_addresses_iff houtgoing).2 ⟨?_, ?_⟩⟩
  · have hchanged : withTarget other.rowNumber target other
        = { other with linkTargets := target :: other.linkTargets } :=
      if_pos rfl
    unfold goals
    rw [hchanged, if_neg (List.cons_ne_nil _ _)]
    refine List.mem_append_left _ (List.mem_filterMap.2 ⟨target, ?_, ?_⟩)
    · exact List.mem_filter.2 ⟨List.mem_cons_self, by rw [hinside]; rfl⟩
    · rw [hmeaningful, claimant?_map_withTarget]
      exact hclaim
  · unfold reservedAt
    rw [hplace i row hrow]
    exact (isReserved_withTarget row).trans hstays

end WithTarget

-- ========================================================= the documents

/-- Whether a row can be linked to. Let the row numbers of a document that
compiles differ. A meaningful row is in the index after the loop unless
it is shadowed by the rows in front of it; it can be named by a target
when besides the key under which it is entered has no colon; and a target
that names it gives an edge to it, whichever row is given the target,
when neither of the two is reserved. -/
theorem linkable_of_compile {compiled : Compiled}
    (h : compile rows heading = .ok compiled)
    (hnumbers : (rows.map (·.rowNumber)).Nodup)
    (hrow : (meaningful rows)[i]? = some row) :
    let before := (meaningful rows).take i
    ∃ counterpart draft,
      draftFrom heading (.initial counterpart) [] (rootId + 1)
          (meaningful rows) = .ok draft
        ∧ compiled = finish heading counterpart draft
        ∧ ((∃ key, draft.index.lookup key = some (numberOf i))
            ↔ ¬ Shadowed before row)
        ∧ ((∃ target, targetId? draft.index target = some (numberOf i))
            ↔ ¬ Shadowed before row
                ∧ isCrossTarget (entryKey before row) = false)
        ∧ ∀ target, targetId? draft.index target = some (numberOf i) →
            isReserved row = false →
            ∀ k other, (meaningful rows)[k]? = some other →
              isReserved other = false →
              ∃ linked origin,
                compile (rows.map (withTarget other.rowNumber target))
                    heading = .ok linked
                  ∧ linked.graph.node? (numberOf k) = some origin
                  ∧ addressOf heading.documentId i ∈ origin.addresses := by
  intro before
  obtain ⟨counterpart, draft, -, -, hdraft, hcompiled⟩ := compile_ok h
  have hfront : ∀ other ∈ before, other.rowNumber ≠ row.rowNumber := by
    have hdistinct : ((meaningful rows).map (·.rowNumber)).Nodup :=
      hnumbers.sublist (List.filter_sublist.map _)
    obtain ⟨hlt, rfl⟩ := List.getElem?_eq_some_iff.1 hrow
    rw [← List.take_append_drop i (meaningful rows), List.map_append,
      List.drop_eq_getElem_cons hlt, List.map_cons] at hdistinct
    intro other hother
    exact (List.nodup_append.1 hdistinct).2.2 _
      (List.mem_map_of_mem hother) _ List.mem_cons_self
  have hclaim : ∀ key, claimant? (meaningful rows) key = some i
      ↔ claimant? before key = none ∧ key = entryKey before row :=
    fun key => claimant?_eq_some_iff hrow
  have hfree := claimant?_entryKey_eq_none_iff hfront
  refine ⟨counterpart, draft, hdraft, hcompiled, ?_, ?_, ?_⟩
  · rw [← hfree]
    simp only [lookup_eq_some_iff hdraft, hclaim]
    exact ⟨fun ⟨key, hnone, hkey⟩ => hkey ▸ hnone, fun hnone =>
      ⟨entryKey before row, hnone, rfl⟩⟩
  · rw [← hfree, ← exists_target_iff]
    simp only [targetId?_eq_some_iff hdraft, hclaim]
    constructor
    · rintro ⟨target, hinside, hnone, hkey⟩
      exact ⟨hkey ▸ hnone, target, hinside, hkey⟩
    · rintro ⟨hnone, target, hinside, hkey⟩
      exact ⟨target, hinside, hkey.symm ▸ hnone, hkey⟩
  · intro target htarget hstays k other hother hothers
    obtain ⟨hinside, hnamed⟩ := (targetId?_eq_some_iff hdraft).1 htarget
    exact mem_addresses_withTarget h hnumbers hrow hstays hother hothers
      hinside hnamed

/-- Two rows with one key, and one with the key of the first one's
number. -/
def crowdedStory : List Row :=
  [spokenRow 4 "2" "One." "Door" [], spokenRow 7 "2" "Two." "door" [],
   spokenRow 9 "2" "Three." "__row_4" []]

/-- The second row, whose key is taken, can be linked to from the third
one. -/
theorem linkable_crowdedStory :
    ∃ target linked origin,
      compile (crowdedStory.map (withTarget 9 target)) ⟨1, "Demo"⟩
          = .ok linked
        ∧ linked.graph.node? 3 = some origin
        ∧ (1, 2) ∈ origin.addresses := by
  obtain ⟨compiled, h⟩ := Error.exists_ok
    (show (compile crowdedStory ⟨1, "Demo"⟩).toOption.isSome = true by
      decide +kernel)
  have hrow : (meaningful crowdedStory)[1]?
      = some (spokenRow 7 "2" "Two." "door" []) := by decide +kernel
  have hother : (meaningful crowdedStory)[2]?
      = some (spokenRow 9 "2" "Three." "__row_4" []) := by decide +kernel
  obtain ⟨counterpart, draft, -, -, -, hnamed, hlinked⟩ :=
    linkable_of_compile h (by decide) hrow
  have hlit : ¬ Shadowed ((meaningful crowdedStory).take 1)
      (spokenRow 7 "2" "Two." "door" []) := by
    unfold Shadowed
    decide +kernel
  obtain ⟨target, htarget⟩ := hnamed.2 ⟨hlit, by decide +kernel⟩
  obtain ⟨linked, origin, hcompiled, horigin, hedge⟩ :=
    hlinked target htarget (by decide +kernel) 2 _ hother
      (by decide +kernel)
  exact ⟨target, linked, origin, hcompiled, horigin, hedge⟩

/-- A row with the key of the third one's number, and a third row whose
own key is taken by the first one. -/
def borrowedKeyStory : List Row :=
  [spokenRow 1 "2" "One." "A" [], spokenRow 2 "2" "Two." "__row_3" [],
   spokenRow 3 "2" "Three." "A" [], spokenRow 4 "2" "Four." "" ["__row_3"]]

/-- No target leads to the third row, though the report on its key says
that it is linkable by row. -/
theorem borrowedKey_notLinkable :
    (borrowedKeyStory.map (·.rowNumber)).Nodup
      ∧ (meaningful borrowedKeyStory)[2]?
          = some (spokenRow 3 "2" "Three." "A" [])
      ∧ ∃ compiled counterpart draft origin,
          compile borrowedKeyStory ⟨1, "Demo"⟩ = .ok compiled
            ∧ draftFrom ⟨1, "Demo"⟩ (.initial counterpart) [] (rootId + 1)
                (meaningful borrowedKeyStory) = .ok draft
            ∧ compiled = finish ⟨1, "Demo"⟩ counterpart draft
            ∧ .duplicateNodeKey "Demo" 3 "A" ∈ compiled.reports
            ∧ (∀ key, draft.index.lookup key ≠ some 3)
            ∧ (∀ target, targetId? draft.index target ≠ some 3)
            ∧ compiled.graph.node? 4 = some origin
            ∧ origin.addresses = [(1, 2)] := by
  have hrow : (meaningful borrowedKeyStory)[2]?
      = some (spokenRow 3 "2" "Three." "A" []) := by decide +kernel
  obtain ⟨compiled, h⟩ := Error.exists_ok
    (show (compile borrowedKeyStory ⟨1, "Demo"⟩).toOption.isSome = true by
      decide +kernel)
  obtain ⟨counterpart, draft, -, -, hdraft, hcompiled⟩ := compile_ok h
  have hreports : (compile borrowedKeyStory ⟨1, "Demo"⟩).toOption.map
      (·.reports.contains (.duplicateNodeKey "Demo" 3 "A"))
        = some true := by decide +kernel
  have hedges : ((compile borrowedKeyStory ⟨1, "Demo"⟩).toOption.bind
      fun compiled => compiled.graph.node? 4).map (·.addresses)
        = some [(1, 2)] := by decide +kernel
  rw [h] at hreports hedges
  obtain ⟨origin, horigin, haddresses⟩ := Option.map_eq_some_iff.1 hedges
  have hunclaimed : ∀ key, claimant? (meaningful borrowedKeyStory) key
      ≠ some 2 := by
    intro key hclaim
    obtain ⟨hnone, rfl⟩ := (claimant?_eq_some_iff hrow).1 hclaim
    exact absurd hnone (by decide +kernel)
  refine ⟨by decide, hrow, compiled, counterpart, draft, origin, h, hdraft,
    hcompiled, List.contains_iff_mem.1 (Option.some.inj hreports),
    fun key hkey => ?_, fun target htarget => ?_, horigin, haddresses⟩
  · exact hunclaimed key ((lookup_eq_some_iff hdraft).1 hkey)
  · exact hunclaimed _ ((targetId?_eq_some_iff hdraft).1 htarget).2

end Compile

end Storyline
