/-
The roster of a game, from the actor sheet to the database. A sheet may
name an actor several times and in any order, with an id spelled in many
ways; the roster has each actor once, by increasing numbers, under the
name that was given last.

# What is compared

The actors of the database, and the records of the sheet behind its
header that name an actor (`Sheet.NamesActor`): long enough for both
columns, with the number of the actor in the id column.

# What carries it

* putting a name leaves the numbers increasing (`increasing_put`) and the
  names of other actors alone (`lookup_put`), so the roster knows an actor
  by the last row (`lookup_ofRows`);
* these rows are the records that name an actor, in order
  (`rows_of_loadActors`), so the last row comes of the last record.

Main statement: `Roster.actors_of_sheet`.
-/
import Storyline.Proofs.Build.Faults
import Storyline.Proofs.Sheet.Required

namespace Storyline

/-- The last element of its kind in a list. -/
def IsLast {α : Type} (p : α → Prop) (a : α) (l : List α) : Prop :=
  ∃ before after, l = before ++ a :: after ∧ p a ∧ ∀ b ∈ after, ¬ p b

/-- Where there is an element of a kind, there is a last one. -/
theorem exists_isLast_iff {α : Type} {p : α → Prop} {l : List α} :
    (∃ a, IsLast p a l) ↔ ∃ a ∈ l, p a := by
  constructor
  · intro h
    obtain ⟨a, before, after, hsplit, ha, -⟩ := h
    rw [hsplit]
    exact ⟨a, List.mem_append_right before List.mem_cons_self, ha⟩
  · intro h
    induction l with
    | nil =>
        obtain ⟨a, hmem, -⟩ := h
        cases hmem
    | cons first rest ih =>
        by_cases hrest : ∃ a ∈ rest, p a
        · obtain ⟨a, before, after, hsplit, hlast⟩ := ih hrest
          rw [hsplit]
          exact ⟨a, first :: before, after, rfl, hlast⟩
        · obtain ⟨a, hmem, ha⟩ := h
          rcases List.mem_cons.1 hmem with hfirst | hlater
          · rw [hfirst] at ha
            exact ⟨first, [], rest, rfl, ha, fun b hb hp =>
              hrest ⟨b, hb, hp⟩⟩
          · exact absurd ⟨a, hlater, ha⟩ hrest

-- ============================================================== names

namespace Roster

variable {names : Names} {rows : List (Int × String)} {id : Int}
  {name : String}

/-- The numbers of a roster increase. -/
def Names.Increasing (names : Names) : Prop :=
  names.Pairwise fun a b => a.1 < b.1

theorem mem_of_mem_put {entry : Int × String}
    (h : entry ∈ names.put id name) :
    entry = (id, name) ∨ entry ∈ names := by
  fun_induction Names.put names id name with
  | case1 => exact Or.inl (List.mem_singleton.1 h)
  | case2 => exact List.mem_cons.1 h
  | case3 => exact (List.mem_cons.1 h).imp_right (List.mem_cons_of_mem _)
  | case4 first old rest _ _ ih =>
      rcases List.mem_cons.1 h with hfirst | hrest
      · rw [hfirst]
        exact Or.inr List.mem_cons_self
      · exact (ih hrest).imp_right (List.mem_cons_of_mem _)

theorem increasing_put (h : names.Increasing) (id : Int) (name : String) :
    (names.put id name).Increasing := by
  unfold Names.Increasing at h ⊢
  fun_induction Names.put names id name with
  | case1 => exact List.pairwise_singleton _ _
  | case2 first old rest hlt =>
      refine List.pairwise_cons.2 ⟨fun entry hentry => ?_, h⟩
      rcases List.mem_cons.1 hentry with hfirst | hrest
      · rw [hfirst]
        exact hlt
      · exact Int.lt_trans hlt ((List.pairwise_cons.1 h).1 entry hrest)
  | case3 old rest _ =>
      exact List.pairwise_cons.2 (List.pairwise_cons.1 h)
  | case4 first old rest hge hne ih =>
      obtain ⟨hfirst, hrest⟩ := List.pairwise_cons.1 h
      refine List.pairwise_cons.2 ⟨fun entry hentry => ?_, ih hrest⟩
      rcases mem_of_mem_put hentry with hnew | hold
      · rw [hnew]
        show first < id
        omega
      · exact hfirst entry hold

/-- An actor is known by the name that was put, all others by the one they
had. -/
theorem lookup_put (names : Names) (id : Int) (name : String)
    (other : Int) :
    (names.put id name).lookup other
      = if other = id then some name else names.lookup other := by
  fun_induction Names.put names id name with
  | case1 => exact Dict.lookup_cons_eq id other name []
  | case2 first old rest hlt => rw [Dict.lookup_cons_eq]
  | case3 old rest _ =>
      rw [Dict.lookup_cons_eq, Dict.lookup_cons_eq]
      split
      · rfl
      · rfl
  | case4 first old rest hge hne ih =>
      rw [Dict.lookup_cons_eq, ih, Dict.lookup_cons_eq]
      by_cases hother : other = first
      · rw [if_pos hother, if_pos hother, if_neg]
        rw [hother]
        exact Ne.symm hne
      · rw [if_neg hother, if_neg hother]

theorem ofRows_concat (rows : List (Int × String)) (row : Int × String) :
    Names.ofRows (rows ++ [row]) = (Names.ofRows rows).put row.1 row.2 := by
  unfold Names.ofRows
  rw [List.foldl_append]
  rfl

theorem increasing_ofRows (rows : List (Int × String)) :
    (Names.ofRows rows).Increasing := by
  induction rows using List.reverseRecOn with
  | nil => exact List.Pairwise.nil
  | append_singleton rows row ih =>
      rw [ofRows_concat]
      exact increasing_put ih row.1 row.2

/-- Of several rows for one actor the last counts. -/
theorem lookup_ofRows (rows : List (Int × String)) (id : Int) :
    (Names.ofRows rows).lookup id = rows.reverse.lookup id := by
  induction rows using List.reverseRecOn with
  | nil => rfl
  | append_singleton rows row ih =>
      rw [ofRows_concat, lookup_put, ih, List.reverse_append]
      exact (Dict.lookup_cons_eq row.1 id row.2 rows.reverse).symm

theorem lookup_of_mem (h : names.Increasing) (hmem : (id, name) ∈ names) :
    names.lookup id = some name := by
  induction names with
  | nil => cases hmem
  | cons entry rest ih =>
      obtain ⟨hfirst, hrest⟩ := List.pairwise_cons.1 h
      obtain ⟨number, old⟩ := entry
      rw [Dict.lookup_cons_eq]
      rcases List.mem_cons.1 hmem with hentry | hlater
      · cases hentry
        rw [if_pos rfl]
      · have hlt : number < id := hfirst (id, name) hlater
        rw [if_neg (Ne.symm (Int.ne_of_lt hlt)), ih hrest hlater]

/-- The names of a roster are the last rows for their actors. -/
theorem mem_ofRows_iff :
    (id, name) ∈ Names.ofRows rows
      ↔ IsLast (·.1 = id) (id, name) rows := by
  have hlookup : (id, name) ∈ Names.ofRows rows
      ↔ rows.reverse.lookup id = some name := by
    rw [← lookup_ofRows]
    constructor
    · exact lookup_of_mem (increasing_ofRows rows)
    · intro h
      obtain ⟨before, after, hsplit, -⟩ := List.lookup_eq_some_iff.1 h
      rw [hsplit]
      exact List.mem_append_right before List.mem_cons_self
  rw [hlookup, List.lookup_eq_some_iff]
  unfold IsLast
  constructor
  · intro h
    obtain ⟨before, after, hsplit, hbefore⟩ := h
    refine ⟨after.reverse, before.reverse, ?_, rfl, fun row hrow => ?_⟩
    · have hrows := congrArg List.reverse hsplit
      simpa using hrows
    · have hne := bne_iff_ne.1 (hbefore row (List.mem_reverse.1 hrow))
      exact Ne.symm hne
  · intro h
    obtain ⟨before, after, hsplit, -, hafter⟩ := h
    refine ⟨after.reverse, before.reverse, ?_, fun row hrow => ?_⟩
    · rw [hsplit]
      simp
    · have hne := hafter row (List.mem_reverse.1 hrow)
      exact bne_iff_ne.2 (Ne.symm hne)

/-- An actor of the roster has a row. -/
theorem mem_of_mem_ofRows {actor : ActorRecord} (h : actor ∈ ofRows rows) :
    ∃ name, (actor.id, name) ∈ rows := by
  obtain ⟨entry, hentry, hactor⟩ := List.mem_map.1 h
  obtain ⟨row, hrow, hid⟩ :=
    exists_isLast_iff.1 ⟨entry, mem_ofRows_iff.1 hentry⟩
  have hmem : (entry.1, row.2) ∈ rows := by
    rw [← hid]
    exact hrow
  subst hactor
  exact ⟨row.2, hmem⟩

/-- An actor with a row is in the roster. -/
theorem exists_mem_ofRows (h : (id, name) ∈ rows) :
    ∃ actor ∈ ofRows rows, actor.id = id := by
  have hrow : ∃ row ∈ rows, row.1 = id := ⟨(id, name), h, rfl⟩
  obtain ⟨last, before, after, hsplit, hid, hafter⟩ :=
    exists_isLast_iff.2 hrow
  subst hid
  have hlast : IsLast (·.1 = last.1) last rows :=
    ⟨before, after, hsplit, rfl, hafter⟩
  exact ⟨⟨last.1, last.2, last.1 = Actor.player⟩,
    List.mem_map.2 ⟨last, mem_ofRows_iff.2 hlast, rfl⟩, rfl⟩

end Roster

-- ============================================================ records

namespace Sheet

variable {tree : FileTree} {format : Format} {path : Path}
  {records : List (List String)} {idPlace namePlace : Nat}

/-- A record that names an actor: it is long enough for both columns, and
its id cell says the number of the actor. -/
def NamesActor (idPlace namePlace : Nat) (id : Int)
    (record : List String) : Prop :=
  idPlace < record.length ∧ namePlace < record.length
    ∧ Numeral.read (Header.fieldAt record (some idPlace)) = .integer id

/-- The actor in the two required fields of a record. -/
def actorIn? : List String → Option (Int × String)
  | [id, name] => (Numeral.read id).value?.map fun z => (z, Text.trim name)
  | _ => none

theorem actorsOfRows_ok {rows : List (List String)}
    {actors : List (Int × String)} (h : actorsOfRows rows = .ok actors) :
    actors = rows.filterMap actorIn? := by
  fun_induction actorsOfRows rows generalizing actors with
  | case1 =>
      cases h
      rfl
  | case2 => cases h
  | case3 id name rows hread ih =>
      have hnone : actorIn? [id, name] = none := by
        show (Numeral.read id).value?.map _ = none
        rw [hread]
        rfl
      rw [List.filterMap_cons_none hnone]
      exact ih h
  | case4 id name rows z hread ih =>
      obtain ⟨rest, hrest, h⟩ := Error.bind_eq_ok.1 h
      cases h
      have hsome : actorIn? [id, name] = some (z, Text.trim name) := by
        show (Numeral.read id).value?.map _ = _
        rw [hread]
        rfl
      rw [List.filterMap_cons_some hsome, ih hrest]
  | case5 row rows hother ih =>
      have hnone : actorIn? row = none := by
        unfold actorIn?
        split
        · next id name => exact absurd rfl (hother id name)
        · rfl
      rw [List.filterMap_cons_none hnone]
      exact ih h

/-- The actor that a record names, with the name. -/
def actorOf? (idPlace namePlace : Nat) (record : List String) :
    Option (Int × String) :=
  if idPlace < record.length ∧ namePlace < record.length then
    (Numeral.read (Header.fieldAt record (some idPlace))).value?.map fun z =>
      (z, Text.trim (Header.fieldAt record (some namePlace)))
  else none

theorem actorOf?_eq_some_iff {record : List String} {id : Int}
    {name : String} :
    actorOf? idPlace namePlace record = some (id, name)
      ↔ NamesActor idPlace namePlace id record
          ∧ name = Text.trim (Header.fieldAt record (some namePlace)) := by
  unfold actorOf? NamesActor
  by_cases hlong : idPlace < record.length ∧ namePlace < record.length
  · rw [if_pos hlong]
    cases Numeral.read (Header.fieldAt record (some idPlace)) with
    | integer z => simp [Numeral.Reading.value?, hlong, eq_comm]
    | tooLong digits => simp [Numeral.Reading.value?]
    | notInteger => simp [Numeral.Reading.value?]
  · rw [if_neg hlong, ← and_assoc]
    simp [hlong]

/-- The rows of an actor sheet are the actors that its records name, in
order. -/
theorem rows_of_loadActors {rows : List (Int × String)}
    (h : loadActors tree format path = .ok rows) :
    ∃ first records idPlace namePlace,
      readRecords tree format path = .ok (first :: records)
        ∧ (Header.ofRecord first).position? "id" = some idPlace
        ∧ (Header.ofRecord first).position? "displayName" = some namePlace
        ∧ rows = records.filterMap (actorOf? idPlace namePlace) := by
  obtain ⟨table, htable, h⟩ := Error.bind_eq_ok.1 h
  obtain ⟨first, idPlace, namePlace, hrecords, hid, hname, hpositions⟩ :=
    Table.exists_of_read_pair htable
  refine ⟨first, table.rows, idPlace, namePlace, hrecords, hid, hname, ?_⟩
  rw [actorsOfRows_ok h]
  unfold Table.requiredRows
  rw [List.filterMap_filterMap]
  refine List.filterMap_congr fun record _ => ?_
  rw [Table.required?_eq, hpositions]
  unfold actorOf?
  simp only [List.forall_mem_cons, List.not_mem_nil, false_imp_iff,
    implies_true, and_true]
  split
  · rfl
  · rfl

/-- An actor that records name last is named by the last of them. -/
theorem isLast_of_filterMap {id : Int} {name : String}
    (h : IsLast (·.1 = id) (id, name)
      (records.filterMap (actorOf? idPlace namePlace))) :
    ∃ record, IsLast (NamesActor idPlace namePlace id) record records
      ∧ name = Text.trim (Header.fieldAt record (some namePlace)) := by
  obtain ⟨before, after, hsplit, -, hafter⟩ := h
  obtain ⟨front, behind, hrecords, -, hbehind⟩ :=
    List.filterMap_eq_append_iff.1 hsplit
  obtain ⟨skipped, record, later, hsame, -, hrecord, hlater⟩ :=
    List.filterMap_eq_cons_iff.1 hbehind
  obtain ⟨hnames, hname⟩ := actorOf?_eq_some_iff.1 hrecord
  refine ⟨record, ⟨front ++ skipped, later, ?_, hnames, ?_⟩, hname⟩
  · rw [hrecords, hsame, List.append_assoc]
  · intro other hother hagain
    -- a later record would have left a later row
    refine hafter (id, Text.trim (Header.fieldAt other (some namePlace))) ?_
      rfl
    rw [← hlater]
    exact List.mem_filterMap.2
      ⟨other, hother, actorOf?_eq_some_iff.2 ⟨hagain, rfl⟩⟩

end Sheet

-- ========================================================== the roster

namespace Roster

open Sheet (NamesActor)

/-- The roster of an actor sheet. Its numbers increase; an actor is in it
just when a record behind the header names the actor; the name is the
trimmed name cell of the last record that does; and the player is the
actor with number one. A build puts this roster into its database. -/
theorem actors_of_sheet {tree : FileTree} {format : Sheet.Format}
    {path : Path} {rows : List (Int × String)}
    (h : Sheet.loadActors tree format path = .ok rows) :
    ∃ first records idPlace namePlace,
      Sheet.readRecords tree format path = .ok (first :: records)
        ∧ (Header.ofRecord first).position? "id" = some idPlace
        ∧ (Header.ofRecord first).position? "displayName" = some namePlace
        ∧ (ofRows rows).Pairwise (fun a b => a.id < b.id)
        ∧ (∀ id, (∃ actor ∈ ofRows rows, actor.id = id)
            ↔ ∃ record ∈ records, NamesActor idPlace namePlace id record)
        ∧ (∀ actor ∈ ofRows rows,
            (∃ record,
              IsLast (NamesActor idPlace namePlace actor.id) record records
                ∧ actor.name
                    = Text.trim (Header.fieldAt record (some namePlace)))
              ∧ (actor.isPlayer = true ↔ actor.id = 1))
        ∧ ∀ sources previous result, sources.actorSheet = path →
            Build.run tree format sources previous = .ok result →
              result.database.actors = ofRows rows := by
  obtain ⟨first, records, idPlace, namePlace, hrecords, hid, hname, hrows⟩ :=
    Sheet.rows_of_loadActors h
  refine ⟨first, records, idPlace, namePlace, hrecords, hid, hname, ?_,
    fun id => ?_, fun actor hactor => ?_, ?_⟩
  · exact List.pairwise_map.2 (increasing_ofRows rows)
  · rw [hrows]
    constructor
    · intro hactor
      obtain ⟨actor, hmem, hid⟩ := hactor
      obtain ⟨name, hrow⟩ := mem_of_mem_ofRows hmem
      obtain ⟨record, hrecord, hrow⟩ := List.mem_filterMap.1 hrow
      rw [← hid]
      exact ⟨record, hrecord, (Sheet.actorOf?_eq_some_iff.1 hrow).1⟩
    · intro hrecord
      obtain ⟨record, hmem, hnames⟩ := hrecord
      have hrow := Sheet.actorOf?_eq_some_iff.2 ⟨hnames, rfl⟩
      exact exists_mem_ofRows (List.mem_filterMap.2 ⟨record, hmem, hrow⟩)
  · obtain ⟨⟨id, name⟩, hentry, hsame⟩ := List.mem_map.1 hactor
    subst hsame
    rw [hrows] at hentry
    exact ⟨Sheet.isLast_of_filterMap (mem_ofRows_iff.1 hentry),
      decide_eq_true_iff⟩
  · intro sources previous result hpath hrun
    obtain ⟨loaded, compiled, catalog, hloaded, -, -, -, hresult⟩ :=
      Build.run_eq_ok_iff.1 hrun
    obtain ⟨-, hactors, -⟩ := Build.load_eq_ok_iff.1 hloaded
    rw [hpath, h] at hactors
    cases hactors
    rw [hresult]
    rfl

/-- Records under the columns `displayName`, `note` and `id`: actor one
is named twice, one record is too short, and one id is no number. -/
def renamedRecords : List (List String) :=
  [["Ann", "", "+01"], ["Bo", "x"], ["Cy", "", "2x"], ["Dee", "", "2"],
    [" Eve", "", " 1 "]]

/-- The last of them names actor one. -/
theorem actors_of_renamedRecords :
    Sheet.loadActors
        (Build.sheetTree (["displayName", "note", "id"] :: renamedRecords))
        ⟨",", "ascii"⟩ (.ofString "sheet")
        = .ok [(1, "Ann"), (2, "Dee"), (1, "Eve")]
      ∧ (∃ record, IsLast (NamesActor 2 0 1) record renamedRecords
          ∧ "Eve" = Text.trim (Header.fieldAt record (some 0)))
      ∧ ¬∃ record ∈ renamedRecords, NamesActor 2 0 3 record := by
  have hread : Sheet.readRecords
      (Build.sheetTree (["displayName", "note", "id"] :: renamedRecords))
      ⟨",", "ascii"⟩ (.ofString "sheet")
        = .ok (["displayName", "note", "id"] :: renamedRecords) :=
    (Sheet.readRecords_eq Build.reads_ascii rfl).trans (by decide +kernel)
  have hload : Sheet.loadActors
      (Build.sheetTree (["displayName", "note", "id"] :: renamedRecords))
      ⟨",", "ascii"⟩ (.ofString "sheet")
        = .ok [(1, "Ann"), (2, "Dee"), (1, "Eve")] := by
    decide +kernel
  obtain ⟨first, records, idPlace, namePlace, hrecords, hid, hname, -,
    hmem, hactors, -⟩ := actors_of_sheet hload
  rw [hread] at hrecords
  cases hrecords
  have hidPlace : some idPlace = some 2 := hid.symm.trans (by decide +kernel)
  have hnamePlace : some namePlace = some 0 :=
    hname.symm.trans (by decide +kernel)
  cases hidPlace
  cases hnamePlace
  refine ⟨hload, (hactors ⟨1, "Eve", true⟩ (by decide +kernel)).1, ?_⟩
  rw [← hmem 3]
  decide +kernel

end Roster

end Storyline
