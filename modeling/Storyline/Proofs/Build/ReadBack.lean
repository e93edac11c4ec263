/-
What a build makes can be written and read back as it was, the database
and the catalog, if what the build carries over can be read at all: a
variable that is nested too deeply is carried over all the same, and the
database with it cannot be read any more.

Main statements: `readBack_of_run`, for every build; and
`deepVariable_not_readBack`.
-/
import Storyline.Proofs.Build.Legible
import Storyline.Proofs.Catalog.RoundTrip

namespace Storyline

open Json (Fits IsShort countLimit lt_countLimit)

/-- The number in a pose was read from a cell, or it is zero. -/
theorem Catalog.isShort_of_standingEntry {row : StandingRow}
    {entry : StandingEntry} (h : standingEntry row = .ok entry) :
    IsShort entry.actorId := by
  unfold standingEntry at h
  split at h
  · next z hz =>
    cases h
    exact Numeral.isShort_of_readChars hz
  · cases h
    show IsShort 0
    exact isShort_of_lt_ten (by decide)
  · cases h

theorem Catalog.isShort_of_standingEntries {rows : List StandingRow}
    {entries : List StandingEntry} (h : standingEntries rows = .ok entries) :
    ∀ entry ∈ entries, IsShort entry.actorId := by
  intro entry hentry
  obtain ⟨row, -, hrow⟩ := exists_of_mem_mapM h hentry
  exact isShort_of_standingEntry hrow

/-- The catalog of a build can be read. -/
theorem Catalog.lawful_of_ofSheets {sheets : Catalog.Sheets}
    {catalog : Catalog} (h : ofSheets sheets = .ok catalog) :
    catalog.Lawful := by
  obtain ⟨entries, hentries, h⟩ := Error.bind_eq_ok.1 h
  cases h
  exact isShort_of_standingEntries hentries

namespace Build

variable {tree : FileTree} {format : Sheet.Format} {sources : Sources}
  {previous : Option Database} {result : Result}

/-- What a build makes is read back as it was.

The sheets have no more bytes, and there are no more stories, than a
number with 4300 digits can count; and the variables and items that the
build carries over are such as a database can have, with finite doubles
and short numbers, and nested no deeper than a database can be read. -/
theorem readBack_of_run (htree : Countable tree)
    (hstories : sources.stories.length < countLimit)
    (hprevious : ∀ database ∈ previous, database.Portable)
    (h : run tree format sources previous = .ok result) :
    Json.document Database.ofJson result.database.toJson.indented
        = .valid result.database
      ∧ Json.document Catalog.ofJson result.catalog.toJson.indented
          = .valid result.catalog := by
  refine ⟨Database.document_toJson
    (lawful_of_run htree hstories hprevious h), ?_⟩
  obtain ⟨_, _, catalog, -, -, hcatalog, -, rfl⟩ := run_eq_ok_iff.1 h
  exact Catalog.document_toJson (Catalog.lawful_of_ofSheets hcatalog)

theorem countable_echoTree : Countable echoTree :=
  countable_of_small (by decide +kernel)

/-- A database with a variable and an item that builds carry over, and an
item that they drop. -/
def keptDatabase : Database :=
  { actors := []
    documents := []
    vars :=
      [[("Gold", .array [.double (.finite false (2 ^ 52) (-53)), .null])]]
    items := [⟨"Key", [("Category", "Misc")]⟩, ⟨"Sky", [("Category", "BG")]⟩] }

theorem portable_keptDatabase : keptDatabase.Portable := by
  have hhalf : Json.IsNormal (.finite false (2 ^ 52) (-53)) :=
    ⟨false, 2 ^ 52, -53, rfl, by decide, by decide, by decide,
      Or.inl (Nat.le_refl _)⟩
  refine ⟨?_, ?_, ?_⟩
  · simp only [keptDatabase, List.forall_mem_singleton]
    exact ⟨List.nodup_singleton _, by
      simp only [List.forall_mem_singleton]
      rfl⟩
  · simp only [keptDatabase, List.forall_mem_singleton]
    refine .array ?_
    simp only [List.forall_mem_cons]
    exact ⟨.double hhalf, .null, nofun⟩
  · simp only [keptDatabase, List.forall_mem_cons]
    exact ⟨List.nodup_singleton _, List.nodup_singleton _, nofun⟩

/-- The variable, one half in it, and the item are in the database that
is read back. -/
theorem readBack_echo :
    ∃ result,
      run echoTree ⟨",", "ascii"⟩ echoSources (some keptDatabase) = .ok result
        ∧ result.database.vars = keptDatabase.vars
        ∧ Json.document Database.ofJson result.database.toJson.indented
            = .valid result.database := by
  obtain ⟨first, hfirst⟩ := exists_run_echo
  obtain ⟨result, hrun, -⟩ := exists_run_after hfirst (some keptDatabase)
  refine ⟨result, hrun, (carried_of_run hrun).1,
    (readBack_of_run countable_echoTree (lt_countLimit (by decide)) ?_
      hrun).1⟩
  rintro _ ⟨⟩
  exact portable_keptDatabase

-- ================================================ nested too deeply

/-- Nothing, in as many arrays. -/
def nested : Nat → Json
  | 0 => .null
  | n + 1 => .array [nested n]

theorem onlyFinite_nested (n : Nat) : (nested n).OnlyFinite := by
  have hnone : (nested n).doubles = [] := by
    induction n with
    | zero => rfl
    | succ n ih =>
        rw [nested, Json.doubles, Json.doublesOfItems_eq,
          List.flatMap_singleton, ih]
  unfold Json.OnlyFinite
  rw [hnone]
  exact List.forall_mem_nil _

/-- The arrays need as much room as there are of them. -/
theorem le_of_fits_nested {good : Double → Prop} {n room : Nat}
    (h : Fits good room (nested n)) : n ≤ room := by
  induction n generalizing room with
  | zero => exact Nat.zero_le room
  | succ n ih =>
      cases h with
      | array hitems => exact Nat.succ_le_succ (ih (hitems _ (by simp)))

/-- A database with a variable that is nested one level too deeply. -/
def deepDatabase : Database :=
  { Database.empty with vars := [[("Deep", nested 198)]] }

/-- A build that carries such a variable over gives a database that is
not read back, though there is no double in its variables at all. -/
theorem deepVariable_not_readBack :
    ∃ result,
      run echoTree ⟨",", "ascii"⟩ echoSources (some deepDatabase) = .ok result
        ∧ (∀ var ∈ result.database.vars, ∀ entry ∈ var, entry.2.OnlyFinite)
        ∧ Json.document Database.ofJson result.database.toJson.indented
            ≠ .valid result.database := by
  obtain ⟨first, hfirst⟩ := exists_run_echo
  obtain ⟨result, hrun, -⟩ := exists_run_after hfirst (some deepDatabase)
  have hvars : result.database.vars = [[("Deep", nested 198)]] :=
    (carried_of_run hrun).1
  refine ⟨result, hrun, ?_, fun hvalid => ?_⟩
  · rw [hvars]
    simp only [List.forall_mem_singleton]
    exact onlyFinite_nested 198
  · obtain ⟨-, hfits, -⟩ := Database.carried_of_document hvalid
    rw [hvars] at hfits
    simp only [List.forall_mem_singleton] at hfits
    have hroom : 198 ≤ 197 := le_of_fits_nested hfits
    omega

end Build

end Storyline
