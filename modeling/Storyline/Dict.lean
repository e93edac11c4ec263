/-
Dictionaries that keep their order: lists of names with values in which a
name that is put again keeps its place. Look-up is `List.lookup`, so the
first entry for a name is the one that counts.
-/

namespace Storyline.Dict

/-- Puts a value under a name: one that is there already is replaced in its
place, a new name goes to the end. -/
def put (entries : List (String × α)) (name : String) (value : α) :
    List (String × α) :=
  match entries with
  | [] => [(name, value)]
  | (first, old) :: rest =>
    if first = name then (first, value) :: rest
    else (first, old) :: put rest name value

/-- The entries as they count when they are put in their order: of several for
one name the last value, in the place of the first. -/
def settle (entries : List (String × α)) : List (String × α) :=
  entries.foldl (fun settled (name, value) => put settled name value) []

@[simp] theorem put_nil (name : String) (value : α) :
    put [] name value = [(name, value)] := rfl

/-- A look-up by key, spelled out for one entry. -/
theorem lookup_cons_eq {κ : Type} [DecidableEq κ] (first other : κ) (value : α)
    (rest : List (κ × α)) :
    ((first, value) :: rest).lookup other
      = if other = first then some value else rest.lookup other := by
  by_cases h : other = first
  · simp [h]
  · rw [List.lookup_cons, beq_eq_false_iff_ne.2 h, if_neg h]

/-- After a `put` the name has the new value and the others keep theirs. -/
theorem lookup_put (entries : List (String × α)) (name other : String)
    (value : α) :
    (put entries name value).lookup other
      = if other = name then some value else entries.lookup other := by
  induction entries with
  | nil => simp [put, lookup_cons_eq]
  | cons entry rest ih =>
    obtain ⟨first, old⟩ := entry
    by_cases h : first = name
    · subst h
      simp only [put, lookup_cons_eq, ↓reduceIte]
      split <;> rfl
    · simp only [put, h, lookup_cons_eq, ih, ↓reduceIte]
      split
      · next same => rw [if_neg (by simpa [same] using h)]
      · rfl

end Storyline.Dict
