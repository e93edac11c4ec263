/-
Runs of letters whose other case lies at one distance: the capitals from
A to Z are 32 below their small letters, the accented Latin letters
alternate. A case table is a list of such runs.
-/

namespace Storyline.Text

/-- The letters `first`, `first + step`, … `last`, and how far away their other
case is. -/
structure CaseRun where
  first : Nat
  last : Nat
  step : Nat
  shift : Int

/-- Whether the run names the code point. -/
def CaseRun.holds (run : CaseRun) (n : Nat) : Bool :=
  run.first ≤ n && n ≤ run.last && (n - run.first) % run.step == 0

/-- The first run that names a code point, in a table in ascending order: the
search ends with the runs that begin behind the code point. -/
def CaseRun.find? (n : Nat) : List CaseRun → Option CaseRun
  | [] => none
  | run :: rest =>
    if n < run.first then none
    else if run.holds n then some run
    else find? n rest

/-- The code points of the scripts of East Asia, which know no case. -/
def isEastAsian (n : Nat) : Bool := 0x2E00 ≤ n && n < 0xA640

/-- Whether a run reaches into the scripts of East Asia. -/
def CaseRun.isEastAsian (run : CaseRun) : Bool :=
  run.first < 0xA640 && 0x2E00 ≤ run.last

theorem CaseRun.holds_eq_false {run : CaseRun} {n : Nat}
    (h : run.isEastAsian = false)
    (hn : Text.isEastAsian n) : run.holds n = false := by
  grind [holds, isEastAsian, Text.isEastAsian]

/-- A table that has no run in the scripts of East Asia names none of their
characters. -/
theorem CaseRun.find?_eq_none {runs : List CaseRun} {n : Nat}
    (h : ∀ run ∈ runs, run.isEastAsian = false) (hn : Text.isEastAsian n) :
    find? n runs = none := by
  induction runs with
  | nil => rfl
  | cons run rest ih =>
    simp [find?, holds_eq_false (h run (by simp)) hn,
      ih fun r hr => h r (by simp [hr])]

/-- The character that the first run with it names, or the character itself. -/
def CaseRun.apply (runs : List CaseRun) (c : Char) : Char :=
  if Text.isEastAsian c.toNat then c
  else
    match find? c.toNat runs with
    | some run => Char.ofNat (c.toNat + run.shift).toNat
    | none => c

/-- Passing over the scripts of East Asia changes nothing for a table without
them. -/
theorem CaseRun.apply_eq {runs : List CaseRun}
    (h : ∀ run ∈ runs, run.isEastAsian = false)
    (c : Char) :
    apply runs c =
      match find? c.toNat runs with
      | some run => Char.ofNat (c.toNat + run.shift).toNat
      | none => c := by
  unfold apply
  split
  · next hc => rw [find?_eq_none h hc]
  · rfl

end Storyline.Text
