/-
Dictionaries that keep their order have every name once. Putting an entry
keeps that, so what is settled is settled for good: a dictionary whose
names are distinct already stays as it is.

Consumed by the documents that are written and read again.
-/
import Mathlib.Data.List.Nodup
import Storyline.Dict

namespace Storyline.Dict

variable {α β : Type} {entries : List (String × α)} {name : String}
  {value : α}

/-- The names of the entries are distinct. -/
def Distinct (entries : List (String × α)) : Prop :=
  (entries.map (·.1)).Nodup

-- ================================================================ put

theorem put_of_not_mem (h : name ∉ entries.map (·.1)) :
    put entries name value = entries ++ [(name, value)] := by
  induction entries with
  | nil => rfl
  | cons entry rest ih =>
      obtain ⟨first, old⟩ := entry
      simp only [List.map_cons, List.mem_cons, not_or] at h
      simp only [put, if_neg (Ne.symm h.1), ih h.2, List.cons_append]

theorem names_put_of_mem (h : name ∈ entries.map (·.1)) :
    (put entries name value).map (·.1) = entries.map (·.1) := by
  induction entries with
  | nil => exact absurd h List.not_mem_nil
  | cons entry rest ih =>
      obtain ⟨first, old⟩ := entry
      unfold put
      split
      · rfl
      · next hne =>
        have hrest : name ∈ rest.map (·.1) :=
          (List.mem_cons.1 h).resolve_left fun h => hne h.symm
        rw [List.map_cons, List.map_cons, ih hrest]

theorem distinct_put (h : Distinct entries) (name : String) (value : α) :
    Distinct (put entries name value) := by
  unfold Distinct
  by_cases hmem : name ∈ entries.map (·.1)
  · rw [names_put_of_mem hmem]
    exact h
  · rw [put_of_not_mem hmem, List.map_append]
    exact List.Nodup.append h (List.nodup_singleton name)
      (List.disjoint_singleton.2 hmem)

theorem mem_of_mem_put {entry : String × α}
    (h : entry ∈ put entries name value) :
    entry = (name, value) ∨ entry ∈ entries := by
  induction entries with
  | nil => exact Or.inl (List.mem_singleton.1 h)
  | cons first rest ih =>
      unfold put at h
      split at h
      · next hname =>
        rcases List.mem_cons.1 h with rfl | h
        · exact Or.inl (by rw [hname])
        · exact Or.inr (List.mem_cons_of_mem _ h)
      · rcases List.mem_cons.1 h with rfl | h
        · exact Or.inr List.mem_cons_self
        · exact (ih h).imp_right (List.mem_cons_of_mem _)

-- ============================================================= settle

theorem distinct_settle (entries : List (String × α)) :
    Distinct (settle entries) := by
  have hfold : ∀ entries before : List (String × α), Distinct before →
      Distinct (entries.foldl (fun s (n, v) => put s n v) before) := by
    intro entries
    induction entries with
    | nil => exact fun _ h => h
    | cons entry rest ih =>
        exact fun before h => ih _ (distinct_put h entry.1 entry.2)
  exact hfold entries [] List.nodup_nil

theorem mem_of_mem_settle {entry : String × α} (h : entry ∈ settle entries) :
    entry ∈ entries := by
  have hfold : ∀ entries before : List (String × α),
      entry ∈ entries.foldl (fun s (n, v) => put s n v) before →
      entry ∈ before ∨ entry ∈ entries := by
    intro entries
    induction entries with
    | nil => exact fun _ => Or.inl
    | cons first rest ih =>
        intro before h
        rcases ih _ h with h | h
        · rcases mem_of_mem_put h with rfl | h
          · exact Or.inr List.mem_cons_self
          · exact Or.inl h
        · exact Or.inr (List.mem_cons_of_mem _ h)
  exact (hfold entries [] h).resolve_left List.not_mem_nil

/-- Distinct names are settled. -/
theorem settle_of_distinct (h : Distinct entries) :
    settle entries = entries := by
  have hfold : ∀ entries before : List (String × α),
      Distinct (before ++ entries) →
      entries.foldl (fun s (n, v) => put s n v) before
        = before ++ entries := by
    intro entries
    induction entries with
    | nil => exact fun before _ => (List.append_nil before).symm
    | cons entry rest ih =>
        intro before h
        obtain ⟨name, value⟩ := entry
        have hnew : name ∉ before.map (·.1) := by
          unfold Distinct at h
          rw [List.map_append, List.map_cons] at h
          exact fun hmem =>
            (List.nodup_append'.1 h).2.2 hmem List.mem_cons_self
        rw [List.foldl_cons]
        show rest.foldl _ (put before name value) = _
        rw [put_of_not_mem hnew, ih]
        · simp
        · simpa using h
  exact hfold entries [] h

/-- Changing all values commutes with settling. -/
theorem settle_map (f : α → β) (entries : List (String × α)) :
    settle (entries.map fun entry => (entry.1, f entry.2))
      = (settle entries).map fun entry => (entry.1, f entry.2) := by
  have hput : ∀ (before : List (String × α)) (name : String) (value : α),
      put (before.map fun entry => (entry.1, f entry.2)) name (f value)
        = (put before name value).map fun entry => (entry.1, f entry.2) := by
    intro before name value
    induction before with
    | nil => rfl
    | cons first rest ih =>
        rw [List.map_cons, put, put]
        split
        · rfl
        · rw [ih, List.map_cons]
  have hfold : ∀ entries before : List (String × α),
      (entries.map fun entry => (entry.1, f entry.2)).foldl
          (fun settled entry => put settled entry.1 entry.2)
          (before.map fun entry => (entry.1, f entry.2))
        = (entries.foldl (fun settled entry => put settled entry.1 entry.2)
            before).map fun entry => (entry.1, f entry.2) := by
    intro entries
    induction entries with
    | nil => exact fun _ => rfl
    | cons first rest ih =>
        intro before
        rw [List.map_cons, List.foldl_cons, List.foldl_cons, ← ih, hput]
  exact hfold entries []

end Storyline.Dict
