/-
The spoken text of a cell. The two kinds of written line breaks, a
backslash with one letter or with the other, are expanded in two passes
over the whole cell; here it is told as one pass, which looks one
character ahead behind every backslash.

# What is compared

* `dialogueChars`, two passes and a cut at the end;
* `expandBreaks`, the pass that knows both letters.

# What carries it

The first pass leaves a backslash in front of the second letter just where
it stood there before, because all that it puts in is a line feed
(`head?_unescapePair`). So the passes do not make or break each other's
pairs (`unescapePair_unescapePair`). For the same reason no pair is left
at the end, and where there is none nothing is expanded.

Main statement: `dialogue_of_cell`.
-/
import Storyline.Proofs.Text.Trim
import Storyline.Script.Row

namespace Storyline.Script

variable {letter replacement c : Char} {cs : List Char}

-- ========================================================== the passes

/-- Expands the written line breaks of both kinds in one pass. -/
def expandBreaks : List Char → List Char
  | '\\' :: 'n' :: cs => '\n' :: expandBreaks cs
  | '\\' :: 'r' :: cs => '\r' :: expandBreaks cs
  | c :: cs => c :: expandBreaks cs
  | [] => []

theorem expandBreaks_slash (hn : cs.head? ≠ some 'n')
    (hr : cs.head? ≠ some 'r') :
    expandBreaks ('\\' :: cs) = '\\' :: expandBreaks cs := by
  rw [expandBreaks]
  · intro rest _ hcs
    rw [hcs] at hn
    exact hn rfl
  · intro rest _ hcs
    rw [hcs] at hr
    exact hr rfl

theorem expandBreaks_other (h : c ≠ '\\') :
    expandBreaks (c :: cs) = c :: expandBreaks cs := by
  rw [expandBreaks]
  · intro rest hc
    exact absurd hc h
  · intro rest hc
    exact absurd hc h

theorem unescapePair_letter (letter replacement : Char) (cs : List Char) :
    unescapePair letter replacement ('\\' :: letter :: cs)
      = replacement :: unescapePair letter replacement cs := by
  rw [unescapePair, if_pos rfl]

theorem unescapePair_slash (h : cs.head? ≠ some letter) :
    unescapePair letter replacement ('\\' :: cs)
      = '\\' :: unescapePair letter replacement cs := by
  cases cs with
  | nil => rfl
  | cons d cs =>
      have hd : d ≠ letter := fun hd => h (congrArg some hd)
      rw [unescapePair, if_neg hd]

theorem unescapePair_other (h : c ≠ '\\') :
    unescapePair letter replacement (c :: cs)
      = c :: unescapePair letter replacement cs := by
  rw [unescapePair]
  rintro d ds rfl
  exact absurd rfl h

/-- A text is read by what its first characters are: a written line break
of either kind, a backslash that begins none, or another character. -/
theorem written_induction {motive : List Char → Prop} (nil : motive [])
    (lineFeed : ∀ cs, motive cs → motive ('\\' :: 'n' :: cs))
    (carriageReturn : ∀ cs, motive cs → motive ('\\' :: 'r' :: cs))
    (slash : ∀ cs, cs.head? ≠ some 'n' → cs.head? ≠ some 'r' → motive cs →
      motive ('\\' :: cs))
    (other : ∀ c cs, c ≠ '\\' → motive cs → motive (c :: cs))
    (cs : List Char) : motive cs := by
  fun_induction expandBreaks cs with
  | case1 cs ih => exact lineFeed cs ih
  | case2 cs ih => exact carriageReturn cs ih
  | case3 c cs hn hr ih =>
      by_cases hc : c = '\\'
      · subst hc
        refine slash cs (fun hhead => ?_) (fun hhead => ?_) ih
        · obtain ⟨rest, hcs⟩ := List.head?_eq_some_iff.1 hhead
          exact hn rest rfl hcs
        · obtain ⟨rest, hcs⟩ := List.head?_eq_some_iff.1 hhead
          exact hr rest rfl hcs
      · exact other c cs hc ih
  | case4 => exact nil

/-- A pass begins with a character that it did not put in only where the
text began with it. -/
theorem head?_unescapePair (hother : c ≠ replacement)
    (h : (unescapePair letter replacement cs).head? = some c) :
    cs.head? = some c := by
  fun_cases unescapePair letter replacement cs with
  | case1 cs =>
      rw [unescapePair_letter] at h
      exact absurd (Option.some.inj h).symm hother
  | case2 d cs hd =>
      rw [unescapePair, if_neg hd] at h
      exact h
  | case3 d cs hd =>
      rw [unescapePair] at h
      · exact h
      · exact hd
  | case4 => exact h

/-- Two passes, one for each letter, are one pass. -/
theorem unescapePair_unescapePair (cs : List Char) :
    unescapePair 'r' '\r' (unescapePair 'n' '\n' cs) = expandBreaks cs := by
  induction cs using written_induction with
  | nil => rfl
  | lineFeed cs ih =>
      rw [unescapePair_letter, unescapePair_other (by decide), ih,
        expandBreaks]
  | carriageReturn cs ih =>
      have hnext : ('r' :: cs).head? ≠ some 'n' := fun hhead =>
        absurd (Option.some.inj hhead) (by decide)
      rw [unescapePair_slash hnext, unescapePair_other (c := 'r') (by decide),
        unescapePair_letter, ih, expandBreaks]
  | slash cs hn hr ih =>
      have hkept : (unescapePair 'n' '\n' cs).head? ≠ some 'r' :=
        fun hhead => hr (head?_unescapePair (by decide) hhead)
      rw [unescapePair_slash hn, unescapePair_slash hkept, ih,
        expandBreaks_slash hn hr]
  | other c cs hc ih =>
      rw [unescapePair_other hc, unescapePair_other hc, ih,
        expandBreaks_other hc]

theorem dialogueChars_eq (cs : List Char) :
    dialogueChars cs = Text.dropEnd Text.isBlankChar (expandBreaks cs) := by
  unfold dialogueChars
  rw [unescapePair_unescapePair]

-- ======================================================= what is left

theorem pair_infix_cons_iff {d : Char} :
    ['\\', letter] <:+: d :: cs
      ↔ (d = '\\' ∧ cs.head? = some letter) ∨ ['\\', letter] <:+: cs := by
  have hfront : [letter] <+: cs ↔ cs.head? = some letter := by
    rw [List.head?_eq_some_iff]
    exact ⟨fun ⟨rest, hcs⟩ => ⟨rest, hcs.symm⟩,
      fun ⟨rest, hcs⟩ => ⟨rest, hcs.symm⟩⟩
  rw [List.infix_cons_iff, List.cons_prefix_cons, hfront, eq_comm]

/-- The pass begins with a letter only where the text began with it. -/
theorem head?_expandBreaks (hn : c ≠ '\n') (hr : c ≠ '\r')
    (h : (expandBreaks cs).head? = some c) : cs.head? = some c := by
  rw [← unescapePair_unescapePair] at h
  exact head?_unescapePair hn (head?_unescapePair hr h)

/-- No written line break is left. -/
theorem not_infix_expandBreaks (hletter : letter = 'n' ∨ letter = 'r')
    (cs : List Char) : ¬ ['\\', letter] <:+: expandBreaks cs := by
  have hput : letter ≠ '\n' ∧ letter ≠ '\r' := by
    rcases hletter with rfl | rfl
    · decide
    · decide
  induction cs using written_induction with
  | nil =>
      intro hpair
      cases List.infix_nil.1 hpair
  | lineFeed cs ih =>
      rw [expandBreaks, pair_infix_cons_iff]
      rintro (⟨hslash, -⟩ | hpair)
      · cases hslash
      · exact ih hpair
  | carriageReturn cs ih =>
      rw [expandBreaks, pair_infix_cons_iff]
      rintro (⟨hslash, -⟩ | hpair)
      · cases hslash
      · exact ih hpair
  | slash cs hn hr ih =>
      rw [expandBreaks_slash hn hr, pair_infix_cons_iff]
      rintro (⟨-, hhead⟩ | hpair)
      · have hbefore := head?_expandBreaks hput.1 hput.2 hhead
        rcases hletter with rfl | rfl
        · exact hn hbefore
        · exact hr hbefore
      · exact ih hpair
  | other c cs hc ih =>
      rw [expandBreaks_other hc, pair_infix_cons_iff]
      rintro (⟨hslash, -⟩ | hpair)
      · exact hc hslash
      · exact ih hpair

/-- Where no line break is written, none is expanded. -/
theorem expandBreaks_of_not_infix (hn : ¬ ['\\', 'n'] <:+: cs)
    (hr : ¬ ['\\', 'r'] <:+: cs) : expandBreaks cs = cs := by
  induction cs using written_induction with
  | nil => rfl
  | lineFeed cs ih => exact absurd ⟨[], cs, rfl⟩ hn
  | carriageReturn cs ih => exact absurd ⟨[], cs, rfl⟩ hr
  | slash cs hn' hr' ih =>
      rw [pair_infix_cons_iff, not_or] at hn hr
      rw [expandBreaks_slash hn' hr', ih hn.2 hr.2]
  | other c cs hc ih =>
      rw [pair_infix_cons_iff, not_or] at hn hr
      rw [expandBreaks_other hc, ih hn.2 hr.2]

theorem dialogueOf_of_isBlank {cell : String}
    (h : Text.isBlank cell = true) : dialogueOf cell = "" := by
  have hblank := List.all_eq_true.1 h
  have hplain : ∀ letter, ¬ ['\\', letter] <:+: cell.toList := by
    intro letter hpair
    have hslash : '\\' ∈ cell.toList := hpair.subset List.mem_cons_self
    exact absurd (hblank _ hslash) (by decide)
  unfold dialogueOf
  rw [dialogueChars_eq, expandBreaks_of_not_infix (hplain 'n') (hplain 'r'),
    Text.dropEnd_of_all hblank]

/-- The spoken text of a cell is what one pass over the cell makes of it,
less the blanks at its end: behind the spoken text there are only blanks,
and it does not end with one. It has no written line break of either kind,
and so it is its own spoken text. -/
theorem dialogue_of_cell (cell : String) :
    dialogueOf cell = Text.trimEnd (String.ofList (expandBreaks cell.toList))
      ∧ (∃ blanks,
          expandBreaks cell.toList = (dialogueOf cell).toList ++ blanks
            ∧ ∀ c ∈ blanks, Text.isBlankChar c = true)
      ∧ Text.EndsOutside Text.isBlankChar (dialogueOf cell).toList
      ∧ ¬ ['\\', 'n'] <:+: (dialogueOf cell).toList
      ∧ ¬ ['\\', 'r'] <:+: (dialogueOf cell).toList
      ∧ dialogueOf (dialogueOf cell) = dialogueOf cell := by
  have hpass : dialogueOf cell
      = Text.trimEnd (String.ofList (expandBreaks cell.toList)) := by
    unfold dialogueOf Text.trimEnd
    rw [String.toList_ofList, dialogueChars_eq]
  have hchars : (dialogueOf cell).toList
      = Text.dropEnd Text.isBlankChar (expandBreaks cell.toList) := by
    rw [hpass, Text.toList_trimEnd, String.toList_ofList]
  obtain ⟨⟨blanks, hsplit, hblanks⟩, hend⟩ :=
    Text.dropEnd_eq_iff.1 hchars.symm
  have hpart : (dialogueOf cell).toList <:+: expandBreaks cell.toList := by
    rw [hsplit]
    exact (List.prefix_append _ blanks).isInfix
  have hn : ¬ ['\\', 'n'] <:+: (dialogueOf cell).toList := fun hpair =>
    not_infix_expandBreaks (.inl rfl) cell.toList (hpair.trans hpart)
  have hr : ¬ ['\\', 'r'] <:+: (dialogueOf cell).toList := fun hpair =>
    not_infix_expandBreaks (.inr rfl) cell.toList (hpair.trans hpart)
  have hagain : dialogueChars (dialogueOf cell).toList
      = (dialogueOf cell).toList := by
    rw [dialogueChars_eq, expandBreaks_of_not_infix hn hr,
      Text.dropEnd_of_endsOutside hend]
  refine ⟨hpass, ⟨blanks, hsplit, hblanks⟩, hend, hn, hr, ?_⟩
  calc dialogueOf (dialogueOf cell)
      = String.ofList (dialogueChars (dialogueOf cell).toList) := rfl
    _ = dialogueOf cell := by rw [hagain, String.ofList_toList]

/-- A backslash in front of a written break, one in front of another
letter, one in front of a line feed, and breaks at the end. -/
example : dialogueOf "a\\\\n\\tb\\\n\\r \\n" = "a\\\n\\tb\\" := by
  rfl

end Storyline.Script
