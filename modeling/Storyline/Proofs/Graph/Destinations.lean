/-
Where the rows of a document lead, said by the places of the rows
alone: no nodes, no numbers, no lists behind a row. The linking code
walks down the draft and looks at what is left of it; here every rule
is a condition on places of the whole list of rows.

* `named`: a target leads to the row that claims it as its key;
* `fallThrough?`: a row without targets leads to the first row behind
  it that is no option, if that is the very next row or the row is an
  option itself, which then leaves its menu;
* `menu`: a row that is no option leads to the options right behind it.

`destinationIds_eq` is the bridge to the linking code, one lemma for
each rule; `goals_lt` says that no rule leads out of the document.
-/
import Mathlib.Data.List.Sort
import Storyline.Proofs.Graph.Draft

namespace Storyline.Compile

open Script (Row)

-- ======================================================== the rules

/-- Whether there is an option at a place. -/
def optionAt (rows : List Row) (j : Nat) : Bool :=
  rows[j]?.any (·.isOption)

/-- The first row behind a place that is no option. -/
def nextLine? (rows : List Row) (i : Nat) : Option Nat :=
  (List.range rows.length).find? fun j => i < j && !optionAt rows j

/-- Where the row at a place leads when it has no targets. -/
def fallThrough? (rows : List Row) (i : Nat) : Option Nat :=
  (nextLine? rows i).filter fun j => j = i + 1 || optionAt rows i

/-- The options right behind a place. -/
def menu (rows : List Row) (i : Nat) : List Nat :=
  (List.range rows.length).filter fun j =>
    i < j ∧ ∀ m ≤ j, i < m → optionAt rows m = true

/-- The rows that a row names by its targets. -/
def named (rows : List Row) (row : Row) : List Nat :=
  (row.linkTargets.filter fun target => !isCrossTarget target).filterMap
    fun target => claimant? rows (Text.lower target)

/-- The rows that the row at a place leads to, with repeats. -/
def goals (rows : List Row) (i : Nat) (row : Row) : List Nat :=
  (if row.linkTargets = [] then (fallThrough? rows i).toList
    else named rows row)
  ++ (if row.isOption then [] else menu rows i)

-- ============================================ places behind a place

/-- A place behind `i` holds what is left of the rows behind `i`. -/
theorem optionAt_add (rows : List Row) (i t : Nat) :
    optionAt rows (i + 1 + t)
      = (rows.drop (i + 1))[t]?.any (·.isOption) := by
  unfold optionAt
  rw [List.getElem?_drop]

/-- How long a list keeps a property, place by place. -/
theorem lt_length_takeWhile_iff {α : Type _} (p : α → Bool) (l : List α) :
    ∀ t : Nat, t < (l.takeWhile p).length ↔ ∀ s ≤ t, l[s]?.any p = true := by
  induction l with
  | nil =>
      intro t
      constructor
      · intro h
        cases h
      · intro h
        cases h 0 (Nat.zero_le t)
  | cons a l ih =>
      intro t
      by_cases ha : p a = true
      · rw [List.takeWhile_cons_of_pos ha, List.length_cons]
        cases t with
        | zero => simp [ha]
        | succ t =>
            rw [Nat.add_lt_add_iff_right, ih t]
            constructor
            · intro h s hs
              cases s with
              | zero => simpa using ha
              | succ s =>
                  rw [List.getElem?_cons_succ]
                  exact h s (Nat.le_of_succ_le_succ hs)
            · intro h s hs
              have := h (s + 1) (Nat.succ_le_succ hs)
              rwa [List.getElem?_cons_succ] at this
      · rw [List.takeWhile_cons_of_neg ha]
        constructor
        · intro h
          cases h
        · intro h
          exact absurd (by simpa using h 0 (Nat.zero_le t)) ha

/-- The options right behind a place, counted off. -/
theorem menu_eq (rows : List Row) (i : Nat) :
    menu rows i
      = (List.range
          ((rows.drop (i + 1)).takeWhile (·.isOption)).length).map
            (i + 1 + ·) := by
  have hmem : ∀ j, j ∈ menu rows i ↔ j ∈ (List.range
      ((rows.drop (i + 1)).takeWhile (·.isOption)).length).map
        (i + 1 + ·) := by
    intro j
    unfold menu
    rw [List.mem_filter, List.mem_range, List.mem_map,
      decide_eq_true_iff]
    constructor
    · rintro ⟨-, hij, hall⟩
      refine ⟨j - (i + 1), ?_, by omega⟩
      rw [List.mem_range, lt_length_takeWhile_iff]
      intro s hs
      rw [← optionAt_add]
      exact hall _ (by omega) (by omega)
    · rintro ⟨t, ht, rfl⟩
      rw [List.mem_range] at ht
      have hlength : t < (rows.drop (i + 1)).length :=
        Nat.lt_of_lt_of_le ht (List.takeWhile_sublist _).length_le
      rw [List.length_drop] at hlength
      refine ⟨by omega, by omega, fun m hm him => ?_⟩
      have := (lt_length_takeWhile_iff _ _ t).1 ht (m - (i + 1))
        (by omega)
      rw [← optionAt_add] at this
      rwa [show i + 1 + (m - (i + 1)) = m by omega] at this
  refine List.Pairwise.eq_of_mem_iff (r := (· < ·)) ?_ ?_ hmem
  · exact List.pairwise_lt_range.filter _
  · rw [List.pairwise_map]
    exact List.pairwise_lt_range.imp fun h => Nat.add_lt_add_left h _

theorem nextLine?_eq (rows : List Row) (i : Nat) :
    nextLine? rows i
      = ((rows.drop (i + 1)).findIdx? fun row => !row.isOption).map
          (i + 1 + ·) := by
  refine Option.ext fun j => ?_
  unfold nextLine?
  rw [List.find?_range_eq_some, List.mem_range, Option.map_eq_some_iff]
  constructor
  · rintro ⟨hj, hlt, hfirst⟩
    rw [Bool.and_eq_true, decide_eq_true_iff, Bool.not_eq_true'] at hj
    refine ⟨j - (i + 1), ?_, by omega⟩
    rw [List.findIdx?_eq_some_iff_getElem]
    have hbound : j - (i + 1) < (rows.drop (i + 1)).length := by
      rw [List.length_drop]
      omega
    refine ⟨hbound, ?_, fun m hm => ?_⟩
    · have hopt := hj.2
      rw [show j = i + 1 + (j - (i + 1)) by omega, optionAt_add,
        List.getElem?_eq_getElem hbound] at hopt
      simpa using hopt
    · have hopt := hfirst (i + 1 + m) (by omega)
      rw [optionAt_add, List.getElem?_eq_getElem (by omega)] at hopt
      have hpast : i < i + 1 + m := by omega
      simpa [hpast] using hopt
  · rintro ⟨t, ht, rfl⟩
    rw [List.findIdx?_eq_some_iff_getElem] at ht
    obtain ⟨hbound, hopt, hfirst⟩ := ht
    have hlength := hbound
    rw [List.length_drop] at hlength
    refine ⟨?_, by omega, fun m hm => ?_⟩
    · rw [optionAt_add, List.getElem?_eq_getElem hbound]
      have hpast : i < i + 1 + t := by omega
      simpa [hpast] using hopt
    · by_cases him : i < m
      · have hopt := hfirst (m - (i + 1)) (by omega)
        rw [show m = i + 1 + (m - (i + 1)) by omega, optionAt_add,
          List.getElem?_eq_getElem (by omega)]
        have hpast : i < i + 1 + (m - (i + 1)) := by omega
        simpa [hpast] using hopt
      · simp [him]

theorem fallThrough?_eq {rows : List Row} {i : Nat} {row : Row}
    (hrow : rows[i]? = some row) :
    fallThrough? rows i
      = (((rows.drop (i + 1)).findIdx? fun next => !next.isOption).filter
          fun t => t = 0 || row.isOption).map (i + 1 + ·) := by
  have hself : optionAt rows i = row.isOption := by
    unfold optionAt
    rw [hrow]
    rfl
  unfold fallThrough?
  rw [nextLine?_eq, hself]
  cases (rows.drop (i + 1)).findIdx? fun next => !next.isOption with
  | none => rfl
  | some t =>
      have hnext : (i + 1 + t = i + 1) = (t = 0) := by
        rw [eq_iff_iff]
        omega
      simp only [Option.map_some, Option.filter_some, hnext]
      split <;> rfl

theorem goals_lt {rows : List Row} {i j : Nat} {row : Row}
    (hj : j ∈ goals rows i row) : j < rows.length := by
  have hfall : ∀ k ∈ (fallThrough? rows i).toList, k < rows.length := by
    intro k hk
    rw [Option.mem_toList] at hk
    unfold fallThrough? nextLine? at hk
    have hfound := (Option.filter_eq_some_iff.1 hk).1
    exact List.mem_range.1 (List.mem_of_find?_eq_some hfound)
  have hnamed : ∀ k ∈ named rows row, k < rows.length := by
    intro k hk
    obtain ⟨target, -, hclaim⟩ := List.mem_filterMap.1 hk
    exact claimant?_lt hclaim
  have hmenu : ∀ k ∈ menu rows i, k < rows.length := fun k hk =>
    List.mem_range.1 (List.mem_filter.1 hk).1
  unfold goals at hj
  rcases List.mem_append.1 hj with hj | hj
  · split at hj
    · exact hfall j hj
    · exact hnamed j hj
  · split at hj
    · cases hj
    · exact hmenu j hj

-- ================================================ the linking code

variable {heading : Heading} {n : Int} {rows rest : List Row}
  {authored : List Authored}

/-- The options that the draft begins with. -/
theorem menuIds_eq (h : Drafted heading n rest authored) :
    menuIds authored
      = (List.range (rest.takeWhile (·.isOption)).length).map
          fun t : Nat => n + (t : Int) := by
  unfold menuIds
  induction h with
  | nil n => rfl
  | @cons n row rows authored voice script rest ih =>
      by_cases hopt : row.isOption = true
      · rw [List.takeWhile_cons_of_pos hopt, List.takeWhile_cons_of_pos
          (by exact hopt), List.map_cons, ih, List.length_cons,
          List.range_succ_eq_map, List.map_cons, List.map_map]
        congr 1
        · show n = n + (0 : Nat)
          omega
        · refine List.map_congr_left fun t _ => ?_
          show n + 1 + (t : Int) = n + ((t + 1 : Nat) : Int)
          omega
      · rw [List.takeWhile_cons_of_neg hopt, List.takeWhile_cons_of_neg
          (by exact hopt)]
        rfl

/-- The first row of the draft that is no option. -/
theorem find?_line_eq (h : Drafted heading n rest authored) :
    (authored.find? fun a => !a.row.isOption).map (·.node.localId)
      = (rest.findIdx? fun row => !row.isOption).map
          fun t : Nat => n + (t : Int) := by
  induction h with
  | nil n => rfl
  | @cons n row rows authored voice script rest ih =>
      rw [List.findIdx?_cons]
      cases hopt : row.isOption with
      | false =>
          rw [List.find?_cons_of_pos (by simp [hopt])]
          show some n = some (n + (0 : Nat))
          rw [Int.natCast_zero, Int.add_zero]
      | true =>
          rw [List.find?_cons_of_neg (by simp [hopt]), ih, if_neg (by simp),
            Option.map_map]
          congr 1
          funext t
          show n + 1 + (t : Int) = n + ((t + 1 : Nat) : Int)
          omega

/-- Where the linking code leads a row without targets. -/
theorem followingIds_eq (row : Row) (h : Drafted heading n rest authored) :
    followingIds row authored
      = (((rest.findIdx? fun next => !next.isOption).filter
          fun t => t = 0 || row.isOption).map
            fun t : Nat => n + (t : Int)).toList := by
  cases h with
  | nil => rfl
  | @cons n next rows authored voice script rest =>
      show (if (!next.isOption) = true then [n]
        else if row.isOption = true then
          ((authored.find? fun a => !a.row.isOption).map
            (·.node.localId)).toList
        else []) = _
      rw [List.findIdx?_cons]
      cases hnext : next.isOption with
      | false =>
          rw [if_pos Bool.not_false, if_pos Bool.not_false]
          show [n] = [n + (0 : Nat)]
          rw [Int.natCast_zero, Int.add_zero]
      | true =>
          have hno : ¬(!true) = true := by decide
          rw [if_neg hno, if_neg hno, find?_line_eq rest]
          cases (rows.findIdx? fun next => !next.isOption) with
          | none => cases row.isOption <;> rfl
          | some t =>
              cases row.isOption with
              | false => simp
              | true =>
                  show [n + 1 + (t : Int)] = [n + ((t + 1 : Nat) : Int)]
                  congr 1
                  omega

/-- Where the linking code leads a row by its targets. -/
theorem namedIds_eq {index : KeyIndex} (row : Row)
    (hindex : ∀ key, index.lookup key
      = (claimant? rows key).map fun t : Nat => n + (t : Int)) :
    namedIds index row
      = (named rows row).map fun t : Nat => n + (t : Int) := by
  unfold namedIds named
  rw [List.map_filterMap, List.filterMap_filter]
  refine List.filterMap_congr fun target _ => ?_
  unfold targetId?
  cases isCrossTarget target with
  | true => rfl
  | false => exact hindex _

/-- The linking code leads each row where the rules lead it. -/
theorem destinationIds_eq {index : KeyIndex} {i : Nat} {row : Row}
    (h : Drafted heading n rows authored)
    (hindex : ∀ key, index.lookup key
      = (claimant? rows key).map fun t : Nat => n + (t : Int))
    (hrow : rows[i]? = some row) :
    destinationIds index row (authored.drop (i + 1))
      = (goals rows i row).map fun t : Nat => n + (t : Int) := by
  have hbehind := h.drop (i + 1)
  have hshift : ∀ t : Nat,
      n + ((i + 1 : Nat) : Int) + (t : Int) = n + ((i + 1 + t : Nat) : Int) :=
    fun t => by omega
  unfold destinationIds goals
  rw [List.map_append]
  congr 1
  · by_cases htargets : row.linkTargets = []
    · rw [if_pos (by simpa using htargets), if_pos htargets,
        followingIds_eq row hbehind, fallThrough?_eq hrow,
        ← Option.toList_map, Option.map_map]
      simp only [hshift]
      rfl
    · rw [if_neg (by simpa using htargets), if_neg htargets,
        namedIds_eq row hindex]
  · cases row.isOption with
    | true => rfl
    | false =>
        rw [if_neg (by simp), if_neg (by simp), menuIds_eq hbehind,
          menu_eq, List.map_map]
        exact List.map_congr_left fun t _ => hshift t

end Storyline.Compile
