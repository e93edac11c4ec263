/-
Small letters, as far as keys and cells need them. A character is its own
small form wherever it stands (`IsSmall`) when no table names it; such a
text stays as it is, and such a character is not lost from any other. No
letter has the colon as its small form, because all small forms of the
table stand behind it, so a text has a colon in small letters just when
it has one.
-/
import Storyline.Text.Lower

namespace Storyline.Text

theorem CaseRun.of_find? {runs : List CaseRun} {n : Nat} {run : CaseRun}
    (h : CaseRun.find? n runs = some run) :
    run ∈ runs ∧ run.holds n = true := by
  induction runs with
  | nil => cases h
  | cons first rest ih =>
      unfold CaseRun.find? at h
      split at h
      · cases h
      · split at h
        · next hholds =>
          cases h
          exact ⟨List.mem_cons_self, hholds⟩
        · obtain ⟨hmem, hholds⟩ := ih h
          exact ⟨List.mem_cons_of_mem _ hmem, hholds⟩

/-- The small forms of all letters stand behind the colon. -/
theorem colon_lt_of_mem_lowerRuns :
    ∀ run ∈ lowerRuns, (58 : Int) < run.first + run.shift := by
  decide +kernel

theorem eq_of_ofNat_eq_colon {n : Nat} (h : Char.ofNat n = ':') :
    n = 58 := by
  have hnumber : (Char.ofNat n).toNat = 58 := congrArg Char.toNat h
  unfold Char.ofNat at hnumber
  by_cases hvalid : n.isValidChar
  · rw [dif_pos hvalid] at hnumber
    exact hnumber
  · rw [dif_neg hvalid] at hnumber
    cases hnumber

/-- Characters in front of the first capital letter have no other small
form. -/
theorem apply_lowerRuns_of_lt {c : Char} (h : c.toNat < 65) :
    CaseRun.apply lowerRuns c = c := by
  have hnone : CaseRun.find? c.toNat lowerRuns = none := if_pos h
  rw [CaseRun.apply_eq isEastAsian_of_mem_lowerRuns, hnone]

theorem apply_lowerRuns_eq_colon_iff {c : Char} :
    CaseRun.apply lowerRuns c = ':' ↔ c = ':' := by
  constructor
  · intro h
    rw [CaseRun.apply_eq isEastAsian_of_mem_lowerRuns] at h
    cases hfound : CaseRun.find? c.toNat lowerRuns with
    | none => rwa [hfound] at h
    | some run =>
        rw [hfound] at h
        obtain ⟨hmem, hholds⟩ := CaseRun.of_find? hfound
        have hbehind := colon_lt_of_mem_lowerRuns run hmem
        unfold CaseRun.holds at hholds
        simp only [Bool.and_eq_true, decide_eq_true_eq] at hholds
        have hcolon := eq_of_ofNat_eq_colon h
        omega
  · rintro rfl
    exact apply_lowerRuns_of_lt (by decide)

/-- A colon is its own small form, and that of no other character. -/
theorem colon_mem_lowerCharAt (before : List Char) (c : Char)
    (after : List Char) : ':' ∈ lowerCharAt before c after ↔ c = ':' := by
  unfold lowerCharAt
  split
  · next hsigma =>
    subst hsigma
    split <;> decide
  · split
    · next hdotted =>
      subst hdotted
      decide
    · rw [List.mem_singleton, eq_comm, apply_lowerRuns_eq_colon_iff]

theorem colon_mem_lowerCharsAfter (before cs : List Char) :
    ':' ∈ lowerCharsAfter before cs ↔ ':' ∈ cs := by
  induction cs generalizing before with
  | nil => exact Iff.rfl
  | cons c cs ih =>
      unfold lowerCharsAfter
      rw [List.mem_append, colon_mem_lowerCharAt, ih, List.mem_cons,
        eq_comm]

/-- Characters that are their own small forms wherever they stand. -/
def IsSmall (c : Char) : Prop :=
  ∀ before after, lowerCharAt before c after = [c]

theorem lowerCharsAfter_of_isSmall {cs : List Char}
    (h : ∀ c ∈ cs, IsSmall c) (before : List Char) :
    lowerCharsAfter before cs = cs := by
  induction cs generalizing before with
  | nil => rfl
  | cons c cs ih =>
      unfold lowerCharsAfter
      rw [h c List.mem_cons_self,
        ih fun d hd => h d (List.mem_cons_of_mem _ hd)]
      rfl

theorem mem_lowerCharsAfter {c : Char} {cs : List Char} (hsmall : IsSmall c)
    (h : c ∈ cs) (before : List Char) : c ∈ lowerCharsAfter before cs := by
  induction cs generalizing before with
  | nil => cases h
  | cons d cs ih =>
      unfold lowerCharsAfter
      rcases List.mem_cons.1 h with rfl | h
      · rw [hsmall]
        exact List.mem_append_left _ List.mem_cons_self
      · exact List.mem_append_right _ (ih h _)

theorem isSmall_of_apply {c : Char} (hsigma : c ≠ 'Σ') (hdotted : c ≠ 'İ')
    (happly : CaseRun.apply lowerRuns c = c) : IsSmall c := by
  intro before after
  unfold lowerCharAt
  rw [if_neg hsigma, if_neg hdotted, happly]

theorem isSmall_of_lt {c : Char} (h : c.toNat < 65) : IsSmall c := by
  refine isSmall_of_apply ?_ ?_ (apply_lowerRuns_of_lt h)
  · rintro rfl
    exact absurd h (by decide)
  · rintro rfl
    exact absurd h (by decide)

theorem isSmall_underscore : IsSmall '_' :=
  isSmall_of_apply (by decide) (by decide) (by decide +kernel)

end Storyline.Text
