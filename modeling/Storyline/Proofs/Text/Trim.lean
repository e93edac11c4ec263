/-
Cutting a class of characters off the ends of a text, said by what is
left: a text is its trimmed form with characters of the class around it
(`Padded`), and the trimmed form neither begins nor ends with one
(`IsTrimmed`). The two together have but one solution
(`dropEnds_eq_iff`), and likewise at the end alone (`dropEnd_eq_iff`).
Consumed wherever a cell is trimmed before it is read.
-/
import Mathlib.Data.List.DropRight
import Storyline.Text.Blank

namespace Storyline.Text

variable {p : Char → Bool} {cs body before after : List Char}

-- ============================================================= the end

/-- A text does not end with a character of the class. -/
def EndsOutside (p : Char → Bool) (cs : List Char) : Prop :=
  ∀ c ∈ cs.getLast?, p c = false

theorem dropEnd_of_all (h : ∀ c ∈ cs, p c = true) : dropEnd p cs = [] :=
  List.rdropWhile_eq_nil_iff.2 h

theorem dropEnd_append (hafter : ∀ c ∈ after, p c = true) :
    dropEnd p (cs ++ after) = dropEnd p cs := by
  unfold dropEnd
  rw [List.reverse_append, List.dropWhile_append_of_pos fun c hc =>
    hafter c (List.mem_reverse.1 hc)]

theorem dropEnd_of_endsOutside (h : EndsOutside p cs) :
    dropEnd p cs = cs := by
  refine List.rdropWhile_eq_self_iff.2 fun hne => ?_
  rw [h _ (List.getLast?_eq_some_getLast hne)]
  exact Bool.false_ne_true

theorem endsOutside_dropEnd (p : Char → Bool) (cs : List Char) :
    EndsOutside p (dropEnd p cs) := by
  intro c hc
  obtain ⟨hne, hlast⟩ := List.mem_getLast?_eq_getLast hc
  have hnot := List.rdropWhile_last_not p cs hne
  rw [hlast]
  exact Bool.eq_false_iff.2 hnot

/-- What is cut off the end is of the class. -/
theorem exists_dropEnd_append (p : Char → Bool) (cs : List Char) :
    ∃ after, cs = dropEnd p cs ++ after ∧ ∀ c ∈ after, p c = true :=
  ⟨cs.rtakeWhile p, List.rdropWhile_append_rtakeWhile.symm,
    fun _ => List.mem_rtakeWhile_imp⟩

theorem dropEnd_eq_iff :
    dropEnd p cs = body
      ↔ (∃ after, cs = body ++ after ∧ ∀ c ∈ after, p c = true)
          ∧ EndsOutside p body := by
  constructor
  · intro h
    rw [← h]
    exact ⟨exists_dropEnd_append p cs, endsOutside_dropEnd p cs⟩
  · intro h
    obtain ⟨⟨after, hcs, hafter⟩, hend⟩ := h
    rw [hcs, dropEnd_append hafter, dropEnd_of_endsOutside hend]

-- ============================================================ both ends

/-- A text neither begins nor ends with a character of the class. -/
structure IsTrimmed (p : Char → Bool) (cs : List Char) : Prop where
  head : ∀ c ∈ cs.head?, p c = false
  last : EndsOutside p cs

/-- A text is another one with characters of the class around it. -/
def Padded (p : Char → Bool) (cs body : List Char) : Prop :=
  ∃ before after, cs = before ++ body ++ after
    ∧ (∀ c ∈ before, p c = true) ∧ ∀ c ∈ after, p c = true

theorem Padded.refl (p : Char → Bool) (cs : List Char) : Padded p cs cs :=
  ⟨[], [], (List.append_nil cs).symm, nofun, nofun⟩

theorem Padded.of_all (h : ∀ c ∈ cs, p c = true) : Padded p cs [] :=
  ⟨cs, [], by rw [List.append_nil, List.append_nil], h, nofun⟩

theorem isTrimmed_of_forall (h : ∀ c ∈ cs, p c = false) :
    IsTrimmed p cs where
  head := fun c hc => h c (List.mem_of_mem_head? hc)
  last := fun c hc => h c (List.mem_of_mem_getLast? hc)

theorem dropEnds_of_isTrimmed (h : IsTrimmed p cs) : dropEnds p cs = cs := by
  have hdrop : cs.dropWhile p = cs := by
    cases cs with
    | nil => rfl
    | cons c cs =>
        have hc : p c = false := h.head c rfl
        exact List.dropWhile_cons_of_neg (Bool.eq_false_iff.1 hc)
  unfold dropEnds
  rw [hdrop, dropEnd_of_endsOutside h.last]

/-- Characters of the class around a text make no difference. -/
theorem dropEnds_of_padded (h : Padded p cs body) :
    dropEnds p cs = dropEnds p body := by
  obtain ⟨before, after, hcs, hbefore, hafter⟩ := h
  unfold dropEnds
  rw [hcs, List.append_assoc, List.dropWhile_append_of_pos hbefore,
    List.dropWhile_append]
  cases hkept : body.dropWhile p with
  | nil =>
      have hnone : after.dropWhile p = [] :=
        List.dropWhile_eq_nil_iff.2 hafter
      rw [List.isEmpty_nil, if_pos rfl, hnone]
  | cons c rest =>
      rw [List.isEmpty_cons, if_neg Bool.false_ne_true,
        dropEnd_append hafter]

theorem padded_dropEnds (p : Char → Bool) (cs : List Char) :
    Padded p cs (dropEnds p cs) := by
  obtain ⟨after, hsplit, hafter⟩ :=
    exists_dropEnd_append p (cs.dropWhile p)
  refine ⟨cs.takeWhile p, after, ?_, fun _ => List.mem_takeWhile_imp, hafter⟩
  unfold dropEnds
  rw [List.append_assoc, ← hsplit, List.takeWhile_append_dropWhile]

theorem isTrimmed_dropEnds (p : Char → Bool) (cs : List Char) :
    IsTrimmed p (dropEnds p cs) where
  head := by
    intro c hc
    -- the first character that is left is the first of the others
    obtain ⟨after, hsplit, -⟩ := exists_dropEnd_append p (cs.dropWhile p)
    have hfirst : (cs.dropWhile p).head? = some c := by
      have hkept : (dropEnd p (cs.dropWhile p)).head? = some c := hc
      rw [hsplit, List.head?_append, hkept]
      rfl
    have hnot := List.head?_dropWhile_not p cs
    rw [hfirst] at hnot
    exact hnot
  last := endsOutside_dropEnd p _

/-- The trimmed form of a text is the one that is trimmed and has the class
around it in the text. -/
theorem dropEnds_eq_iff :
    dropEnds p cs = body ↔ Padded p cs body ∧ IsTrimmed p body := by
  constructor
  · intro h
    rw [← h]
    exact ⟨padded_dropEnds p cs, isTrimmed_dropEnds p cs⟩
  · intro h
    rw [dropEnds_of_padded h.1, dropEnds_of_isTrimmed h.2]

/-- Trimmed characters stay as they are when they are trimmed again. -/
theorem dropEnds_dropEnds (p : Char → Bool) (cs : List Char) :
    dropEnds p (dropEnds p cs) = dropEnds p cs :=
  dropEnds_of_isTrimmed (isTrimmed_dropEnds p cs)

-- ============================================================== blanks

/-- A text without blanks is trimmed already. -/
theorem trimChars_of_not_blank (h : ∀ c ∈ cs, isBlankChar c = false) :
    trimChars cs = cs :=
  dropEnds_of_isTrimmed (isTrimmed_of_forall h)

theorem mem_of_mem_trim {s : String} {c : Char}
    (h : c ∈ (trim s).toList) : c ∈ s.toList := by
  rw [toList_trim] at h
  obtain ⟨before, after, hs, -, -⟩ := padded_dropEnds isBlankChar s.toList
  rw [hs]
  exact List.mem_append_left after (List.mem_append_right before h)

theorem trim_trim (s : String) : trim (trim s) = trim s := by
  unfold trim trimChars
  rw [String.toList_ofList, dropEnds_dropEnds]

/-- Nothing is left of a blank text that is trimmed. -/
theorem trimChars_of_isBlank {s : String} (h : isBlank s = true) :
    trimChars s.toList = [] :=
  dropEnds_of_padded (.of_all (List.all_eq_true.1 h))

theorem trim_of_isBlank {s : String} (h : isBlank s = true) :
    trim s = "" := by
  unfold trim
  rw [trimChars_of_isBlank h]

/-- A trimmed text is blank only when nothing is left of it. -/
theorem isBlank_trim_iff (s : String) :
    isBlank (trim s) = true ↔ trim s = "" := by
  constructor
  · intro h
    rw [← trim_of_isBlank h, trim_trim]
  · intro h
    rw [h]
    rfl

end Storyline.Text
