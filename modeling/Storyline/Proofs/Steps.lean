/-
Steps that may go wrong, and steps for the elements of a list, one after
the other. A pass over a list goes through when every step does, and then
there is one value for each element; so what holds of the value of each
step holds of the whole pass, and the passes of the program need no
induction of their own. A step that does not go through stops at its fault
(`StopsAt`); of several steps the first fault counts (`StopsAt.bind`,
`StopsAt.forM`, `StopsAt.mapM`).
-/
import Mathlib.Data.List.Forall2
import Storyline.Error

namespace Storyline

variable {α β γ : Type}

-- =============================================== steps that may be absent

/-- A pass that looks at one element after the other goes through when
each of them has its answer. -/
theorem mapM_eq_some_iff {f : α → Option β} {l : List α} {bs : List β} :
    l.mapM f = some bs ↔ List.Forall₂ (f · = some ·) l bs := by
  induction l generalizing bs with
  | nil =>
      rw [List.mapM_nil, List.forall₂_nil_left_iff]
      exact ⟨fun h => (Option.some.inj h).symm, fun h => by rw [h]; rfl⟩
  | cons a l ih =>
      rw [List.mapM_cons, List.forall₂_cons_left_iff]
      simp only [Option.bind_eq_bind, Option.bind_eq_some_iff, ih]
      constructor
      · rintro ⟨b, hb, bs, hbs, h⟩
        exact ⟨b, bs, hb, hbs, (Option.some.inj h).symm⟩
      · rintro ⟨b, bs, hb, hbs, rfl⟩
        exact ⟨b, hb, bs, hbs, rfl⟩

-- ================================================ steps that may go wrong

/-- A step for each element goes through when every single one does. -/
theorem forM_eq_ok_iff {f : α → Except Error Unit} {l : List α} :
    l.forM f = .ok () ↔ ∀ a ∈ l, f a = .ok () := by
  induction l with
  | nil => simp [pure, Except.pure]
  | cons a rest ih =>
      show (f a >>= fun _ => rest.forM f) = .ok () ↔ _
      rw [Error.bind_eq_ok, List.forall_mem_cons, ← ih]
      constructor
      · rintro ⟨⟨⟩, ha, hrest⟩
        exact ⟨ha, hrest⟩
      · rintro ⟨ha, hrest⟩
        exact ⟨(), ha, hrest⟩

/-- Steps that leave values go through when every single one does, and
leave one value each. -/
theorem mapM_eq_ok_iff {f : α → Except Error β} {l : List α} {out : List β} :
    l.mapM f = .ok out ↔ List.Forall₂ (fun a b => f a = .ok b) l out := by
  induction l generalizing out with
  | nil =>
      rw [List.mapM_nil, List.forall₂_nil_left_iff]
      constructor
      · intro h
        cases h
        rfl
      · rintro rfl
        rfl
  | cons a rest ih =>
      rw [List.mapM_cons, Error.bind_eq_ok, List.forall₂_cons_left_iff]
      constructor
      · rintro ⟨b, hb, h⟩
        obtain ⟨others, hothers, h⟩ := Error.bind_eq_ok.1 h
        cases h
        exact ⟨b, others, hb, ih.1 hothers, rfl⟩
      · rintro ⟨b, others, hb, hothers, rfl⟩
        exact ⟨b, hb, Error.bind_eq_ok.2 ⟨others, ih.2 hothers, rfl⟩⟩

theorem forM_congr {f g : α → Except Error Unit} {l : List α}
    (h : ∀ a ∈ l, f a = g a) : l.forM f = l.forM g := by
  induction l with
  | nil => rfl
  | cons a rest ih =>
      rw [List.forall_mem_cons] at h
      show (f a >>= fun _ => rest.forM f) = g a >>= fun _ => rest.forM g
      rw [h.1, ih h.2]

theorem mapM_congr {f g : α → Except Error β} {l : List α}
    (h : ∀ a ∈ l, f a = g a) : l.mapM f = l.mapM g := by
  induction l with
  | nil => rfl
  | cons a rest ih =>
      rw [List.forall_mem_cons] at h
      rw [List.mapM_cons, List.mapM_cons, h.1, ih h.2]

/-- What every step carries over from its element to its value, the whole
pass carries over. -/
theorem map_eq_of_mapM {f : α → Except Error β} {l : List α} {out : List β}
    (h : l.mapM f = .ok out) {before : α → γ} {after : β → γ}
    (hstep : ∀ a b, f a = .ok b → after b = before a) :
    out.map after = l.map before := by
  have hsteps := mapM_eq_ok_iff.1 h
  clear h
  induction hsteps with
  | nil => rfl
  | cons hfirst _ ih =>
      rw [List.map_cons, List.map_cons, hstep _ _ hfirst, ih]

/-- The values of steps that are told by their elements. -/
theorem eq_map_of_mapM {f : α → Except Error β} {l : List α} {out : List β}
    (h : l.mapM f = .ok out) {value : α → β}
    (hstep : ∀ a b, f a = .ok b → b = value a) : out = l.map value := by
  have hmap : out.map id = l.map value := map_eq_of_mapM h hstep
  rwa [List.map_id] at hmap

/-- Every value is that of a step. -/
theorem exists_of_mem_mapM {f : α → Except Error β} {l : List α}
    {out : List β} (h : l.mapM f = .ok out) {b : β} (hb : b ∈ out) :
    ∃ a ∈ l, f a = .ok b := by
  have hsteps := mapM_eq_ok_iff.1 h
  clear h
  induction hsteps with
  | nil => cases hb
  | @cons a first l out hfirst _ ih =>
      rcases List.mem_cons.1 hb with rfl | hb
      · exact ⟨a, List.mem_cons_self, hfirst⟩
      · obtain ⟨a, ha, hstep⟩ := ih hb
        exact ⟨a, List.mem_cons_of_mem _ ha, hstep⟩

-- ========================================================== faulty steps

/-- A step that stops at its fault, and goes through when it has none. -/
def StopsAt (fault : Option Error) (step : Except Error α) : Prop :=
  match fault with
  | some e => step = .error e
  | none => ∃ a, step = .ok a

/-- The error that a step stops at. -/
def errorOf? : Except Error α → Option Error
  | .error e => some e
  | .ok _ => none

theorem errorOf?_eq_none_iff {step : Except Error α} :
    errorOf? step = none ↔ ∃ a, step = .ok a := by
  cases step <;> simp [errorOf?]

namespace StopsAt

variable {fault later : Option Error}

theorem errorOf? (step : Except Error α) :
    StopsAt (errorOf? step) step := by
  cases step with
  | error e => rfl
  | ok a => exact ⟨a, rfl⟩

/-- Of two steps the fault of the first one counts, if it has any. -/
theorem bind {step : Except Error α} {next : α → Except Error β}
    (h : StopsAt fault step)
    (hnext : ∀ a, step = .ok a → StopsAt later (next a)) :
    StopsAt (fault.or later) (step >>= next) := by
  cases fault with
  | some e =>
      have hstep : step = .error e := h
      rw [hstep]
      rfl
  | none =>
      obtain ⟨a, ha⟩ := h
      have hrest := hnext a ha
      rw [ha]
      exact hrest

/-- What is made of the value of a step adds no fault. -/
theorem bind_ok {step : Except Error α} {next : α → Except Error β}
    (h : StopsAt fault step)
    (hnext : ∀ a, step = .ok a → ∃ b, next a = .ok b) :
    StopsAt fault (step >>= next) := by
  rw [← Option.or_none (o := fault)]
  exact h.bind hnext

/-- A step that goes through has no fault. -/
theorem eq_none {step : Except Error α} {a : α} (h : StopsAt fault step)
    (hstep : step = .ok a) : fault = none := by
  cases fault with
  | none => rfl
  | some e =>
      have hfault : step = .error e := h
      rw [hstep] at hfault
      cases hfault

theorem findSome?_cons (fault : α → Option Error) (a : α) (l : List α) :
    (a :: l).findSome? fault = (fault a).or (l.findSome? fault) := by
  rw [List.findSome?_cons]
  cases fault a <;> rfl

/-- Of steps for the elements of a list the first fault counts. -/
theorem mapM {fault : α → Option Error} {step : α → Except Error β}
    {l : List α} (h : ∀ a ∈ l, StopsAt (fault a) (step a)) :
    StopsAt (l.findSome? fault) (l.mapM step) := by
  induction l with
  | nil => exact ⟨[], rfl⟩
  | cons a rest ih =>
      rw [List.forall_mem_cons] at h
      rw [findSome?_cons, List.mapM_cons]
      exact h.1.bind fun b _ => (ih h.2).bind_ok fun bs _ => ⟨b :: bs, rfl⟩

theorem forM {fault : α → Option Error} {step : α → Except Error Unit}
    {l : List α} (h : ∀ a ∈ l, StopsAt (fault a) (step a)) :
    StopsAt (l.findSome? fault) (l.forM step) := by
  induction l with
  | nil => exact ⟨(), rfl⟩
  | cons a rest ih =>
      rw [List.forall_mem_cons] at h
      rw [findSome?_cons]
      exact h.1.bind fun _ _ => ih h.2

end StopsAt

end Storyline
