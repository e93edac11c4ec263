/-
The draft of a document: what the loop over the meaningful rows leaves
behind. The loop carries the speaker state, the keys so far, the next
number and the reports at once; most of what is proved about a compiled
document needs only two of its results, and each is cut out here.

* `Drafted`: the nodes stand beside their rows in order, numbered one
  after the other, each of them `nodeOf` its row and without edges.
  What the speaker state did is in the two names that `cons` binds.
* `claimed?`: the key that each row claims, said with the keys alone
  and no numbers. `lookup_claimAll` is the bridge: looking a key up
  finds the number of the one row that claims it.

The key of a row number is printed when a row is entered under it. Which
rows that concerns, and that nothing else can go wrong with a key, is
`keyFor_eq`; what a key is does not depend on it (`keyOf`).

Consumed by the soundness of compiled graphs and by the account of
their edges.
-/
import Mathlib.Data.List.Basic
import Storyline.Dict
import Storyline.Graph.Compile
import Storyline.Proofs.Diagnostic
import Storyline.Proofs.Graph.Linking

namespace Storyline.Compile

open Script (Row)

-- ================================================ the key of a row

/-- The key of a row that has none of its own, whatever its number. -/
def numberKey (row : Row) : String :=
  "__row_" ++ Numeral.text row.rowNumber

/-- Whether a row has to do with the key of its number: it has none of its
own, or that is taken. -/
def KeyIndex.needsNumber (index : KeyIndex) (row : Row) : Bool :=
  row.nodeKey = "" || index.isTaken row

/-- The key that a row claims, whatever its number. -/
def KeyIndex.keyOf (index : KeyIndex) (row : Row) : String :=
  if index.needsNumber row then numberKey row else Text.lower row.nodeKey

/-- Whether the key of a row can be printed: it is its own one, or its
number is not too long. -/
def KeyIndex.hasKey (index : KeyIndex) (row : Row) : Bool :=
  !index.needsNumber row || Numeral.isPrintable row.rowNumber

/-- A row has its key unless that is to be printed and cannot be. -/
theorem keyFor_eq (index : KeyIndex) (row : Row) :
    index.keyFor row
      = if index.hasKey row then .ok (index.keyOf row)
        else .error .unprintableNumber := by
  unfold KeyIndex.keyFor KeyIndex.hasKey KeyIndex.keyOf
  show (if index.needsNumber row then _ else _) = _
  cases index.needsNumber row with
  | false => rfl
  | true =>
      show rowKey row = _
      unfold rowKey
      cases h : Numeral.isPrintable row.rowNumber with
      | true => rw [Numeral.print_of_isPrintable h]; rfl
      | false => rw [Numeral.print_of_not_isPrintable h]; rfl

theorem keyFor_eq_ok_iff {index : KeyIndex} {row : Row} {key : String} :
    index.keyFor row = .ok key
      ↔ index.hasKey row = true ∧ key = index.keyOf row := by
  rw [keyFor_eq]
  cases index.hasKey row <;> simp [eq_comm]

theorem stopsAt_keyFor (index : KeyIndex) (row : Row) :
    StopsAt (printFault? (index.hasKey row)) (index.keyFor row) := by
  rw [keyFor_eq]
  exact stopsAt_printFault? _ _

-- ======================================================== inversion

/-- One turn of the loop: everything that a draft of one row more is made
of, and what has to be printed for it. -/
theorem draftFrom_cons_eq_ok_iff {heading : Heading} {state : Speaker.State}
    {index : KeyIndex} {n : Int} {row : Row} {rows : List Row}
    {draft : Draft} :
    draftFrom heading state index n (row :: rows) = .ok draft
      ↔ ∃ voice after reports script rest,
          Speaker.resolve heading.title state row
              = .ok (voice, after, reports)
            ∧ row.script = .ok script
            ∧ Diagnostic.log (index.reports heading.title row) = .ok ()
            ∧ index.hasKey row = true
            ∧ draftFrom heading after
                (index.claim (index.keyOf row) n) (n + 1) rows = .ok rest
            ∧ draft = ⟨⟨row, nodeOf heading n row voice script⟩
                  :: rest.authored, rest.index,
                reports ++ index.reports heading.title row
                  ++ rest.reports⟩ := by
  constructor
  · intro h
    unfold draftFrom at h
    obtain ⟨⟨voice, after, reports⟩, hvoice, h⟩ := Error.bind_eq_ok.1 h
    obtain ⟨script, hscript, h⟩ := Error.bind_eq_ok.1 h
    obtain ⟨_, hlog, h⟩ := Error.bind_eq_ok.1 h
    obtain ⟨key, hkey, h⟩ := Error.bind_eq_ok.1 h
    obtain ⟨hhas, rfl⟩ := keyFor_eq_ok_iff.1 hkey
    obtain ⟨rest, hrest, h⟩ := Error.bind_eq_ok.1 h
    injection h with h
    exact ⟨voice, after, reports, script, rest, hvoice, hscript, hlog, hhas,
      hrest, h.symm⟩
  · rintro ⟨voice, after, reports, script, rest, hvoice, hscript, hlog, hhas,
      hrest, rfl⟩
    unfold draftFrom
    refine Error.bind_eq_ok.2 ⟨_, hvoice, ?_⟩
    refine Error.bind_eq_ok.2 ⟨_, hscript, ?_⟩
    refine Error.bind_eq_ok.2 ⟨_, hlog, ?_⟩
    refine Error.bind_eq_ok.2 ⟨_, keyFor_eq_ok_iff.2 ⟨hhas, rfl⟩, ?_⟩
    exact Error.bind_eq_ok.2 ⟨_, hrest, rfl⟩

/-- The rows that become nodes. -/
abbrev meaningful (rows : List Row) : List Row :=
  rows.filter (·.isMeaningful)

/-- A document compiles when the draft of its meaningful rows goes through
and the reports on its links can be printed; the rest is `finish`. -/
theorem compile_eq_ok_iff {rows : List Row} {heading : Heading}
    {compiled : Compiled} :
    compile rows heading = .ok compiled
      ↔ ∃ counterpart draft,
          (Speaker.primaryCounterpart rows = .ok counterpart
            ∧ heading.issues = []
            ∧ draftFrom heading (.initial counterpart) [] (rootId + 1)
                (meaningful rows) = .ok draft
            ∧ compiled = finish heading counterpart draft)
          ∧ Diagnostic.log (draft.linkReports heading) = .ok () := by
  constructor
  · intro h
    unfold compile at h
    obtain ⟨counterpart, hcounterpart, h⟩ := Error.bind_eq_ok.1 h
    by_cases hissues : heading.issues = []
    · rw [if_neg (not_not.2 hissues)] at h
      obtain ⟨draft, hdraft, h⟩ := Error.bind_eq_ok.1 h
      obtain ⟨_, hlog, h⟩ := Error.bind_eq_ok.1 h
      injection h with h
      exact ⟨counterpart, draft,
        ⟨hcounterpart, hissues, hdraft, h.symm⟩, hlog⟩
    · rw [if_pos hissues] at h
      cases h
  · rintro ⟨counterpart, draft, ⟨hcounterpart, hissues, hdraft, rfl⟩, hlog⟩
    unfold compile
    refine Error.bind_eq_ok.2 ⟨_, hcounterpart, ?_⟩
    rw [if_neg (not_not.2 hissues)]
    exact Error.bind_eq_ok.2 ⟨_, hdraft, Error.bind_eq_ok.2
      ⟨_, hlog, rfl⟩⟩

/-- A document that compiles, read backwards: the draft of its
meaningful rows went through, and the rest is `finish`. -/
theorem compile_ok {rows : List Row} {heading : Heading}
    {compiled : Compiled} (h : compile rows heading = .ok compiled) :
    ∃ counterpart draft,
      Speaker.primaryCounterpart rows = .ok counterpart
        ∧ heading.issues = []
        ∧ draftFrom heading (.initial counterpart) [] (rootId + 1)
            (meaningful rows) = .ok draft
        ∧ compiled = finish heading counterpart draft := by
  obtain ⟨counterpart, draft, hparts, -⟩ := compile_eq_ok_iff.1 h
  exact ⟨counterpart, draft, hparts⟩

-- =================================================== nodes by rows

/-- Rows beside the nodes made of them, numbered from a number on. -/
inductive Drafted (heading : Heading) :
    Int → List Row → List Authored → Prop where
  | nil (n : Int) : Drafted heading n [] []
  | cons {n : Int} {row : Row} {rows : List Row}
      {authored : List Authored} (voice : Speaker.Voice)
      (script : String) (rest : Drafted heading (n + 1) rows authored) :
      Drafted heading n (row :: rows)
        (⟨row, nodeOf heading n row voice script⟩ :: authored)

/-- The keys after some rows, numbered from a number on, made their
claims. -/
def KeyIndex.claimAll (index : KeyIndex) (n : Int) :
    List Row → KeyIndex
  | [] => index
  | row :: rows =>
    (index.claim (index.keyOf row) n).claimAll (n + 1) rows

/-- A draft that goes through holds the rows beside their nodes and
the keys that they claimed. -/
theorem drafted_of_draftFrom {heading : Heading} {rows : List Row} :
    ∀ {state : Speaker.State} {index : KeyIndex} {n : Int}
      {draft : Draft},
      draftFrom heading state index n rows = .ok draft →
      Drafted heading n rows draft.authored
        ∧ draft.index = index.claimAll n rows := by
  induction rows with
  | nil =>
      intro state index n draft h
      injection h with h
      subst h
      exact ⟨.nil n, rfl⟩
  | cons row rows ih =>
      intro state index n draft h
      obtain ⟨voice, after, reports, script, rest, -, -, -, -, hrest, rfl⟩ :=
        draftFrom_cons_eq_ok_iff.1 h
      obtain ⟨hdrafted, hindex⟩ := ih hrest
      exact ⟨.cons voice script hdrafted, hindex⟩

namespace Drafted

variable {heading : Heading} {n : Int} {rows : List Row}
  {authored : List Authored}

theorem length_eq (h : Drafted heading n rows authored) :
    authored.length = rows.length := by
  induction h with
  | nil n => rfl
  | cons voice script rest ih => rw [List.length_cons, ih]; rfl

/-- What stands at a place: the row there, and its node with the number
of the place. -/
theorem getElem? (h : Drafted heading n rows authored) {i : Nat}
    {row : Row} (hrow : rows[i]? = some row) :
    ∃ voice script,
      authored[i]? = some ⟨row, nodeOf heading (n + i) row voice script⟩ := by
  induction h generalizing i with
  | nil n => cases hrow
  | @cons n first rows authored voice script rest ih =>
      cases i with
      | zero =>
          injection hrow with hrow
          subst hrow
          refine ⟨voice, script, ?_⟩
          rw [List.getElem?_cons_zero, Int.natCast_zero, Int.add_zero]
      | succ i =>
          rw [List.getElem?_cons_succ] at hrow ⊢
          obtain ⟨voice, script, hget⟩ := ih hrow
          have hnumber : n + 1 + (i : Int) = n + ((i + 1 : Nat) : Int) := by
            omega
          exact ⟨voice, script, by rw [hget, hnumber]⟩

theorem drop (h : Drafted heading n rows authored) (i : Nat) :
    Drafted heading (n + i) (rows.drop i) (authored.drop i) := by
  induction h generalizing i with
  | nil n => rw [List.drop_nil, List.drop_nil]; exact .nil _
  | @cons n first rows authored voice script rest ih =>
      cases i with
      | zero =>
          rw [List.drop_zero, List.drop_zero, Int.natCast_zero,
            Int.add_zero]
          exact .cons voice script rest
      | succ i =>
          rw [List.drop_succ_cons, List.drop_succ_cons]
          have hnumber : n + 1 + (i : Int) = n + ((i + 1 : Nat) : Int) := by
            omega
          rw [← hnumber]
          exact ih i

end Drafted

-- ===================================================== keys by rows

/-- The key that a row claims when some keys are taken: its own one in
small letters, or else the one of its number; none when that is taken
as well. -/
def claimed? (taken : List String) (row : Row) : Option String :=
  if Text.lower row.nodeKey ≠ "" ∧ Text.lower row.nodeKey ∉ taken then
    some (Text.lower row.nodeKey)
  else if numberKey row ∉ taken then some (numberKey row)
  else none

/-- The keys that rows claim in their order when some are taken. -/
def claimsFrom (taken : List String) : List Row → List (Option String)
  | [] => []
  | row :: rows =>
    claimed? taken row
      :: claimsFrom ((claimed? taken row).toList ++ taken) rows

theorem claimsFrom_cons (taken : List String) (row : Row)
    (rows : List Row) :
    claimsFrom taken (row :: rows)
      = claimed? taken row
        :: claimsFrom ((claimed? taken row).toList ++ taken) rows := rfl

/-- The place of the row that claims a key. -/
def claimant? (rows : List Row) (key : String) : Option Nat :=
  (claimsFrom [] rows).idxOf? (some key)

theorem length_claimsFrom (rows : List Row) :
    ∀ taken, (claimsFrom taken rows).length = rows.length := by
  induction rows with
  | nil => exact fun _ => rfl
  | cons row rows ih =>
      intro taken
      rw [claimsFrom_cons, List.length_cons, List.length_cons, ih]

theorem claimant?_lt {rows : List Row} {key : String} {i : Nat}
    (h : claimant? rows key = some i) : i < rows.length := by
  unfold claimant? List.idxOf? at h
  obtain ⟨hlt, -⟩ := List.findIdx?_eq_some_iff_getElem.1 h
  rwa [length_claimsFrom] at hlt

/-- Only the empty text is empty in small letters. -/
theorem lower_eq_empty {s : String} : Text.lower s = "" ↔ s = "" := by
  constructor
  · intro h
    have hchars : (Text.lower s).toList = [] := by rw [h]; rfl
    rw [Text.toList_lower] at hchars
    cases hs : s.toList with
    | nil => exact String.toList_eq_nil_iff.1 hs
    | cons c cs =>
        rw [hs] at hchars
        unfold Text.lowerCharsAfter Text.lowerCharAt at hchars
        split at hchars
        · cases hchars
        · split at hchars <;> cases hchars
  · rintro rfl
    rfl

/-- A claim adds its key, unless the key is there, and no other. -/
theorem lookup_claim (index : KeyIndex) (key other : String) (n : Int) :
    (index.claim key n).lookup other
      = (index.lookup other).or (if other = key then some n else none) := by
  unfold KeyIndex.claim
  split
  · next m hm =>
    by_cases h : other = key
    · subst h
      rw [hm]
      rfl
    · rw [if_neg h, Option.or_none]
  · rw [List.lookup_append, Dict.lookup_cons_eq]
    rfl

/-- The keys of an index are the taken ones. -/
def KeyIndex.Holds (index : KeyIndex) (taken : List String) : Prop :=
  ∀ key, (index.lookup key).isSome = true ↔ key ∈ taken

/-- The key under which the loop enters a row is the row's own one when
that is filled in and free, and the one of its number otherwise. -/
theorem keyOf_eq {index : KeyIndex} {taken : List String}
    (hkeys : index.Holds taken) (row : Row) :
    index.keyOf row
      = if Text.lower row.nodeKey ≠ "" ∧ Text.lower row.nodeKey ∉ taken
        then Text.lower row.nodeKey else numberKey row := by
  have htaken := hkeys (Text.lower row.nodeKey)
  unfold KeyIndex.keyOf KeyIndex.needsNumber KeyIndex.isTaken
  by_cases hempty : row.nodeKey = ""
  · rw [if_pos (by simp [hempty]), if_neg]
    rintro ⟨hown, -⟩
    exact hown (lower_eq_empty.2 hempty)
  · have hown : Text.lower row.nodeKey ≠ "" := fun h =>
      hempty (lower_eq_empty.1 h)
    by_cases hmem : Text.lower row.nodeKey ∈ taken
    · rw [if_pos (by simp [hempty, htaken.2 hmem]),
        if_neg fun h => h.2 hmem]
    · have hnone : (index.lookup (Text.lower row.nodeKey)).isSome
          = false := by
        rw [Bool.eq_false_iff]
        exact fun h => hmem (htaken.1 h)
      rw [if_neg (by simp [hempty, hnone]), if_pos ⟨hown, hmem⟩]

/-- One turn of the loop: the key that the row claims, if it claims
one, is entered with the number of its node. -/
theorem lookup_claim_keyOf {index : KeyIndex} {taken : List String}
    (hkeys : index.Holds taken) (row : Row) (n : Int) (key : String) :
    (index.claim (index.keyOf row) n).lookup key
      = (index.lookup key).or
          (if claimed? taken row = some key then some n else none) := by
  have hsame : ∀ own : String,
      (if key = own then some n else none)
        = if some own = some key then some n else none := fun own =>
    if_congr (by rw [Option.some.injEq]; exact eq_comm) rfl rfl
  rw [lookup_claim, keyOf_eq hkeys]
  unfold claimed?
  by_cases hown : Text.lower row.nodeKey ≠ ""
      ∧ Text.lower row.nodeKey ∉ taken
  · rw [if_pos hown, if_pos hown, hsame]
  · rw [if_neg hown, if_neg hown]
    by_cases hrow : numberKey row ∉ taken
    · rw [if_pos hrow, hsame]
    · -- the key is taken, so entering it again changes nothing
      rw [if_neg hrow, if_neg (fun h => nomatch h : ¬none = some key),
        Option.or_none]
      by_cases hkey : key = numberKey row
      · subst hkey
        have hsome := (hkeys _).2 (not_not.1 hrow)
        obtain ⟨m, hm⟩ := Option.isSome_iff_exists.1 hsome
        rw [hm]
        rfl
      · rw [if_neg hkey, Option.or_none]

/-- The taken keys after a turn are those before and the claimed one. -/
theorem holds_claim {index : KeyIndex} {taken : List String}
    (hkeys : index.Holds taken) (row : Row) (n : Int) :
    (index.claim (index.keyOf row) n).Holds
      ((claimed? taken row).toList ++ taken) := by
  intro key
  rw [lookup_claim_keyOf hkeys, List.mem_append, Option.mem_toList,
    ← hkeys key]
  by_cases h : claimed? taken row = some key
  · rw [if_pos h]
    simp [h]
  · rw [if_neg h, Option.or_none]
    simp [h]

/-- Looking a key up after the loop: what was there before it, or else
the number of the row that claims the key. -/
theorem lookup_claimAll {rows : List Row} (key : String) :
    ∀ {index : KeyIndex} {taken : List String} (n : Int),
      index.Holds taken →
      (index.claimAll n rows).lookup key
        = (index.lookup key).or
            (((claimsFrom taken rows).idxOf? (some key)).map
              fun i : Nat => n + (i : Int)) := by
  induction rows with
  | nil =>
      intro index taken n _
      exact (Option.or_none).symm
  | cons row rows ih =>
      intro index taken n hkeys
      show ((index.claim (index.keyOf row) n).claimAll (n + 1) rows).lookup
        key = _
      rw [ih (n + 1) (holds_claim hkeys row n),
        lookup_claim_keyOf hkeys, Option.or_assoc]
      congr 1
      rw [claimsFrom_cons, List.idxOf?_cons]
      by_cases h : claimed? taken row = some key
      · rw [if_pos h, if_pos (by simpa using h)]
        simp
      · rw [if_neg h, if_neg (by simpa using h), Option.none_or,
          Option.map_map]
        congr 1
        funext i
        show n + 1 + (i : Int) = n + ((i + 1 : Nat) : Int)
        omega

/-- From no keys at all: a key leads to the row that claims it. -/
theorem lookup_claimAll_nil (rows : List Row) (n : Int) (key : String) :
    (KeyIndex.claimAll [] n rows).lookup key
      = (claimant? rows key).map fun i : Nat => n + (i : Int) := by
  have hkeys : KeyIndex.Holds [] [] := fun key => by simp
  rw [lookup_claimAll key n hkeys]
  rfl

end Storyline.Compile
