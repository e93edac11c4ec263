/-
Reading back what a model writes, one combinator after another: an
object with the declared names, its members, lists, and dictionaries with
distinct names. A record reads back when its fields do.
-/
import Storyline.Json.Checked
import Storyline.Proofs.Dict
import Storyline.Proofs.Json.Fitting

namespace Storyline.Json

variable {α : Type} {members : Members} {value : Json}
  {read : Json → Checked α} {a : α}

-- =========================================================== objects

/-- An object with just the declared names is read from its members. -/
theorem strictObject_of_names {declared : List String}
    (read : Members → Checked α) (hdistinct : declared.Nodup)
    (hnames : members.map (·.1) = declared) (h : read members = .valid a) :
    strictObject declared read (.object members) = .valid a := by
  have hsettled : Dict.settle members = members :=
    Dict.settle_of_distinct (by unfold Dict.Distinct; rwa [hnames])
  have hothers : (members.filter fun m => !declared.contains m.1) = [] := by
    rw [List.filter_eq_nil_iff]
    intro member hmember
    have : member.1 ∈ declared := hnames ▸ List.mem_map_of_mem hmember
    simpa using this
  simp only [strictObject, hsettled, h, noOthers, hothers, Checked.also_valid]

theorem required_of_lookup (name : String)
    (h : members.lookup name = some value) (hread : read value = .valid a) :
    required members name read = .valid a := by
  simp only [required, h, hread, Checked.under_valid]

theorem optional_of_lookup {default : α} (name : String)
    (h : members.lookup name = some value) (hread : read value = .valid a) :
    optional members name read default = .valid a := by
  simp only [optional, h, hread, Checked.under_valid]

-- ============================================================= lists

theorem itemsFrom_map {write : α → Json} {as : List α}
    (h : ∀ a ∈ as, read (write a) = .valid a) (index : Nat) :
    itemsFrom read index (as.map write) = .valid as := by
  induction as generalizing index with
  | nil => rfl
  | cons a as ih =>
      rw [List.forall_mem_cons] at h
      simp only [List.map_cons, itemsFrom, h.1, ih h.2, Checked.under_valid,
        Checked.map, Checked.ap_valid]

theorem readList_map {write : α → Json} {as : List α}
    (h : ∀ a ∈ as, read (write a) = .valid a) :
    readList read (.array (as.map write)) = .valid as :=
  itemsFrom_map h 0

theorem entries_map {write : α → Json} {pairs : List (String × α)}
    (h : ∀ pair ∈ pairs, read (write pair.2) = .valid pair.2) :
    entries read (pairs.map fun pair => (pair.1, write pair.2))
      = .valid pairs := by
  induction pairs with
  | nil => rfl
  | cons pair pairs ih =>
      rw [List.forall_mem_cons] at h
      simp only [List.map_cons, entries, h.1, ih h.2, Checked.under_valid,
        Checked.map, Checked.ap_valid]

theorem readDict_map {write : α → Json} {pairs : List (String × α)}
    (hdistinct : Dict.Distinct pairs)
    (h : ∀ pair ∈ pairs, read (write pair.2) = .valid pair.2) :
    readDict read (.object (pairs.map fun pair => (pair.1, write pair.2)))
      = .valid pairs := by
  simp only [readDict, entries_map h, Checked.map,
    Dict.settle_of_distinct hdistinct]

/-- A dictionary of texts reads back. -/
theorem readDict_strings {pairs : List (String × String)}
    (h : Dict.Distinct pairs) :
    readDict readString
        (.object (pairs.map fun pair => (pair.1, .string pair.2)))
      = .valid pairs :=
  readDict_map h fun _ _ => rfl

-- ====================================================== what was read

theorem ap_eq_valid {β : Type} {f : Checked (α → β)} {x : Checked α} {b : β} :
    f.ap x = .valid b ↔ ∃ g a, f = .valid g ∧ x = .valid a ∧ g a = b := by
  cases f <;> cases x <;> simp [Checked.ap]

theorem map_eq_valid {β : Type} {f : α → β} {x : Checked α} {b : β} :
    x.map f = .valid b ↔ ∃ a, x = .valid a ∧ f a = b := by
  cases x <;> simp [Checked.map]

theorem under_eq_valid {x : Checked α} {step : Step} :
    x.under step = .valid a ↔ x = .valid a := by
  cases x <;> simp [Checked.under]

/-- What was read as an object is one, and its members were read. -/
theorem exists_members {declared : List String} {read : Members → Checked α}
    {json : Json} (h : strictObject declared read json = .valid a) :
    ∃ members, json = .object members
      ∧ read (Dict.settle members) = .valid a := by
  unfold strictObject at h
  split at h
  · next members =>
    obtain ⟨g, _, hconst, -, rfl⟩ := ap_eq_valid.1 h
    obtain ⟨a, hread, rfl⟩ := map_eq_valid.1 hconst
    exact ⟨members, rfl, hread⟩
  · cases h

/-- What may be left out was read from a member or is the default. -/
theorem eq_or_exists_of_optional {name : String} {default : α}
    (h : optional members name read default = .valid a) :
    a = default ∨ ∃ member ∈ members, read member.2 = .valid a := by
  unfold optional at h
  split at h
  · cases h
    exact Or.inl rfl
  · next value hvalue =>
    obtain ⟨before, after, hsplit, -⟩ := List.lookup_eq_some_iff.1 hvalue
    refine Or.inr ⟨(name, value), ?_, under_eq_valid.1 h⟩
    rw [hsplit]
    exact List.mem_append_right before List.mem_cons_self

theorem exists_of_mem_itemsFrom {index : Nat} {items : List Json} {as : List α}
    (h : itemsFrom read index items = .valid as) :
    ∀ a ∈ as, ∃ item ∈ items, read item = .valid a := by
  induction items generalizing index as with
  | nil =>
      cases h
      exact fun _ ha => absurd ha List.not_mem_nil
  | cons item items ih =>
      obtain ⟨_, rest, hcons, hrest, rfl⟩ := ap_eq_valid.1 h
      obtain ⟨first, hfirst, rfl⟩ := map_eq_valid.1 hcons
      refine List.forall_mem_cons.2
        ⟨⟨item, List.mem_cons_self, under_eq_valid.1 hfirst⟩, fun a ha => ?_⟩
      obtain ⟨item, hitem, hread⟩ := ih hrest a ha
      exact ⟨item, List.mem_cons_of_mem _ hitem, hread⟩

/-- What was read as a list is an array, and its items were read. -/
theorem exists_items {json : Json} {as : List α}
    (h : readList read json = .valid as) :
    ∃ items, json = .array items
      ∧ ∀ a ∈ as, ∃ item ∈ items, read item = .valid a := by
  unfold readList at h
  split at h
  · next items => exact ⟨items, rfl, exists_of_mem_itemsFrom h⟩
  · cases h

theorem exists_of_mem_entries {pairs : List (String × α)}
    (h : entries read members = .valid pairs) :
    ∀ pair ∈ pairs, ∃ member ∈ members, read member.2 = .valid pair.2 := by
  induction members generalizing pairs with
  | nil =>
      cases h
      exact fun _ hpair => absurd hpair List.not_mem_nil
  | cons member members ih =>
      obtain ⟨_, rest, hcons, hrest, rfl⟩ := ap_eq_valid.1 h
      obtain ⟨first, hfirst, rfl⟩ := map_eq_valid.1 hcons
      refine List.forall_mem_cons.2
        ⟨⟨member, List.mem_cons_self, under_eq_valid.1 hfirst⟩,
          fun pair hpair => ?_⟩
      obtain ⟨member, hmember, hread⟩ := ih hrest pair hpair
      exact ⟨member, List.mem_cons_of_mem _ hmember, hread⟩

/-- What was read as a dictionary is an object, its values were read, and
its names are distinct. -/
theorem exists_entries {json : Json} {pairs : List (String × α)}
    (h : readDict read json = .valid pairs) :
    ∃ members, json = .object members ∧ Dict.Distinct pairs
      ∧ ∀ pair ∈ pairs, ∃ member ∈ members, read member.2 = .valid pair.2 := by
  unfold readDict at h
  split at h
  · next members =>
    obtain ⟨all, hall, rfl⟩ := map_eq_valid.1 h
    refine ⟨members, rfl, Dict.distinct_settle all, fun pair hpair => ?_⟩
    exact exists_of_mem_entries hall pair (Dict.mem_of_mem_settle hpair)
  · cases h

end Storyline.Json
