/-
Numbers in cells. The reader of cells trims a cell, takes a sign off and
looks every other character up in the table of digits; the length is a
matter of its own, judged only when all of them are digits. Here the cells
that it takes are said by their grammar, and their value by positions in
base ten.

# What is compared

* `read`, and the three ways in which it can come out;
* `Spelling`: blanks, a sign or none, one or more decimal digits of any
  scripts, and blanks.

# What carries it

No digit and no sign is blank (`isBlankChar_of_digitValue?`), so trimming
a spelled number leaves just its word, and no digit is a sign, so the word
is cut between the two (`readChars_of_spelling`). What is read as digits is
spelled (`spelling_or_notInteger`), and the outcomes exclude each other,
so each of them is told by the grammar.

Main statement: `reading_of_spelling`.
-/
import Mathlib.Data.Nat.Digits.Defs
import Storyline.Error
import Storyline.Proofs.Text.Encoding
import Storyline.Proofs.Text.Trim

namespace Storyline.Numeral

open Text (isBlankChar digitValue? Padded)

variable {cs sign body : List Char} {negative : Bool} {ds : List Nat}

-- ============================================================== digits

theorem digits_lt (n : Nat) : ∀ d ∈ digits n, d < 10 := by
  fun_induction digits n with
  | case1 n hsmall =>
      intro d hd
      rw [List.mem_singleton] at hd
      omega
  | case2 n hlarge ih =>
      intro d hd
      rcases List.mem_append.1 hd with hd | hd
      · exact ih d hd
      · rw [List.mem_singleton] at hd
        omega

theorem digits_ne_nil (n : Nat) : digits n ≠ [] := by
  unfold digits
  split <;> simp

/-- The first digit of a positive number is not zero. -/
theorem head?_digits_ne {n : Nat} (h : 0 < n) : (digits n).head? ≠ some 0 := by
  fun_induction digits n with
  | case1 n hsmall =>
      simp
      omega
  | case2 n hlarge ih =>
      have hne := digits_ne_nil (n / 10)
      rw [List.head?_append_of_ne_nil _ hne]
      exact ih (by omega)

theorem natChars_ne_nil (n : Nat) : natChars n ≠ [] := by
  unfold natChars
  simpa using digits_ne_nil n

theorem length_natChars (n : Nat) : (natChars n).length = (digits n).length :=
  List.length_map ..

theorem length_digits_le (n : Nat) :
    ∀ {k : Nat}, 0 < k → n < 10 ^ k → (digits n).length ≤ k := by
  fun_induction digits n with
  | case1 n hsmall =>
      intro k hk _
      exact hk
  | case2 n hlarge ih =>
      intro k hk hn
      obtain ⟨k, rfl⟩ := Nat.exists_eq_succ_of_ne_zero (Nat.ne_of_gt hk)
      rw [List.length_append, List.length_singleton]
      rcases Nat.eq_zero_or_pos k with rfl | hk
      · rw [Nat.pow_one] at hn
        exact absurd hn hlarge
      · have hdiv : n / 10 < 10 ^ k := by
          rw [Nat.pow_succ] at hn
          omega
        have := ih hk hdiv
        omega

theorem ofDigits_lt {ds : List Nat} (h : ∀ d ∈ ds, d < 10) :
    ofDigits ds < 10 ^ ds.length := by
  induction ds using List.reverseRecOn with
  | nil => decide
  | append_singleton ds d ih =>
      have hds := ih fun d hd => h d (List.mem_append_left _ hd)
      have hd := h d (by simp)
      rw [ofDigits_append_single, List.length_append, List.length_singleton,
        Nat.pow_succ]
      omega

theorem natAbs_signed (negative : Bool) (n : Nat) :
    (signed negative n).natAbs = n := by
  unfold signed
  split <;> simp

theorem signed_natAbs (z : Int) : signed (z < 0) z.natAbs = z := by
  unfold signed
  simp only [decide_eq_true_eq]
  split <;> omega

/-- The last of the digits has the least weight. -/
theorem ofDigits_eq (ds : List Nat) :
    ofDigits ds = Nat.ofDigits 10 ds.reverse := by
  induction ds using List.reverseRecOn with
  | nil => rfl
  | append_singleton ds d ih =>
      rw [ofDigits_append_single, List.reverse_append, List.reverse_singleton,
        List.singleton_append, Nat.ofDigits_cons, ih]
      omega

theorem ofDigits_zeros (zeros : Nat) (ds : List Nat) :
    ofDigits (List.replicate zeros 0 ++ ds) = ofDigits ds := by
  rw [ofDigits_eq, ofDigits_eq, List.reverse_append, List.reverse_replicate,
    Nat.ofDigits_append_replicate_zero]

-- ========================================================= the grammar

/-- What may stand in front of the digits, and whether it is a minus. -/
inductive Sign : List Char → Bool → Prop where
  | absent : Sign [] false
  | plus : Sign ['+'] false
  | minus : Sign ['-'] true

/-- Decimal digits, and what each of them counts. -/
def Counts (body : List Char) (ds : List Nat) : Prop :=
  List.Forall₂ (digitValue? · = some ·) body ds

/-- A text that spells a number, with its sign and its digits: blanks, one
sign or none, one or more decimal digits of any scripts, and blanks. -/
def Spelling (cs : List Char) (negative : Bool) (ds : List Nat) : Prop :=
  ∃ sign body, Padded isBlankChar cs (sign ++ body)
    ∧ Sign sign negative ∧ Counts body ds ∧ ds ≠ []

/-- The digits of all scripts stand apart from the blanks. -/
theorem zeroDigits_apart :
    ∀ start ∈ Text.zeroDigits, ∀ range ∈ Text.blankRanges,
      range.2 < start ∨ start + 10 ≤ range.1 := by
  decide

theorem isBlankChar_of_digitValue? {c : Char} {d : Nat}
    (h : digitValue? c = some d) : isBlankChar c = false := by
  obtain ⟨start, hfound, -⟩ := Option.map_eq_some_iff.1 h
  have hstart := List.mem_of_find?_eq_some hfound
  have hbounds := List.find?_some hfound
  simp only [Bool.and_eq_true, decide_eq_true_eq] at hbounds
  refine List.any_eq_false.2 fun range hrange => ?_
  have hapart := zeroDigits_apart start hstart range hrange
  simp only [Bool.and_eq_true, decide_eq_true_eq]
  omega

namespace Counts

theorem not_blank (h : Counts body ds) :
    ∀ c ∈ body, isBlankChar c = false := by
  induction h with
  | nil => exact nofun
  | cons hfirst _ ih =>
      exact List.forall_mem_cons.2 ⟨isBlankChar_of_digitValue? hfirst, ih⟩

theorem lt (h : Counts body ds) : ∀ d ∈ ds, d < 10 := by
  induction h with
  | nil => exact nofun
  | cons hfirst _ ih =>
      exact List.forall_mem_cons.2 ⟨Text.digitValue?_lt hfirst, ih⟩

end Counts

theorem counts_replicate {c : Char} {d : Nat} (h : digitValue? c = some d)
    (n : Nat) : Counts (List.replicate n c) (List.replicate n d) := by
  induction n with
  | zero => exact .nil
  | succ n ih => exact .cons h ih

theorem counts_natChars (n : Nat) : Counts (natChars n) (digits n) := by
  have hdigit : ∀ d < 10, digitValue? (Char.ofNat (48 + d)) = some d := by
    decide
  refine List.forall₂_map_left_iff.2 (List.forall₂_same.2 fun d hd => ?_)
  exact hdigit d (digits_lt n d hd)

theorem Sign.not_blank (h : Sign sign negative) :
    ∀ c ∈ sign, isBlankChar c = false := by
  cases h with
  | absent => exact nofun
  | plus => exact List.forall_mem_singleton.2 (by decide)
  | minus => exact List.forall_mem_singleton.2 (by decide)

/-- The word of a spelled number begins and ends where its blanks do. -/
theorem trimChars_of_padded (h : Padded isBlankChar cs (sign ++ body))
    (hsign : Sign sign negative) (hbody : Counts body ds) :
    Text.trimChars cs = sign ++ body := by
  have hword : ∀ c ∈ sign ++ body, isBlankChar c = false := by
    intro c hc
    rcases List.mem_append.1 hc with hc | hc
    · exact hsign.not_blank c hc
    · exact hbody.not_blank c hc
  exact Text.dropEnds_eq_iff.2 ⟨h, Text.isTrimmed_of_forall hword⟩

theorem splitSign_append (hsign : Sign sign negative)
    (hbody : Counts body ds) :
    splitSign (sign ++ body) = (negative, body) := by
  cases hsign with
  | plus => rfl
  | minus => rfl
  | absent =>
      cases hbody with
      | nil => rfl
      | cons hfirst _ =>
          -- without a sign the first digit must not be taken for one
          unfold splitSign
          split
          · next hchars =>
            rw [(List.cons.inj hchars).1] at hfirst
            cases hfirst
          · next hchars =>
            rw [(List.cons.inj hchars).1] at hfirst
            cases hfirst
          · rfl

theorem exists_sign (cs : List Char) :
    ∃ sign, Sign sign (splitSign cs).1 ∧ cs = sign ++ (splitSign cs).2 := by
  unfold splitSign
  split
  · exact ⟨['-'], .minus, rfl⟩
  · exact ⟨['+'], .plus, rfl⟩
  · exact ⟨[], .absent, rfl⟩

-- ========================================================== the reader

/-- A spelled number is read, unless it has too many digits. -/
theorem readChars_of_spelling (h : Spelling cs negative ds) :
    readChars cs = if digitLimit < ds.length then .tooLong ds.length
      else .integer (signed negative (ofDigits ds)) := by
  obtain ⟨sign, body, hpadded, hsign, hbody, hne⟩ := h
  have hread : body.mapM digitValue? = some ds :=
    mapM_eq_some_iff.2 hbody
  unfold readChars
  rw [trimChars_of_padded hpadded hsign hbody, splitSign_append hsign hbody]
  cases ds with
  | nil => exact absurd rfl hne
  | cons d ds => simp only [hread]

/-- What is no spelled number is no number. -/
theorem spelling_or_notInteger (cs : List Char) :
    (∃ negative ds, Spelling cs negative ds)
      ∨ readChars cs = .notInteger := by
  obtain ⟨sign, hsign, hword⟩ := exists_sign (Text.trimChars cs)
  cases hread : (splitSign (Text.trimChars cs)).2.mapM digitValue? with
  | none =>
      refine Or.inr ?_
      unfold readChars
      simp only [hread]
  | some ds =>
      cases ds with
      | nil =>
          refine Or.inr ?_
          unfold readChars
          simp only [hread]
      | cons d ds =>
          refine Or.inl ⟨_, _, sign, _, ?_, hsign,
            mapM_eq_some_iff.1 hread, List.cons_ne_nil d ds⟩
          rw [← hword]
          exact Text.padded_dropEnds isBlankChar cs

theorem readChars_eq_integer_iff {z : Int} :
    readChars cs = .integer z
      ↔ ∃ negative ds, Spelling cs negative ds ∧ ds.length ≤ digitLimit
          ∧ z = signed negative (ofDigits ds) := by
  constructor
  · intro h
    rcases spelling_or_notInteger cs with ⟨negative, ds, hspelling⟩ | hnone
    · rw [readChars_of_spelling hspelling] at h
      split at h
      · cases h
      · next hshort =>
        cases h
        exact ⟨negative, ds, hspelling, Nat.not_lt.1 hshort, rfl⟩
    · rw [hnone] at h
      cases h
  · intro h
    obtain ⟨negative, ds, hspelling, hshort, hz⟩ := h
    rw [readChars_of_spelling hspelling, if_neg (Nat.not_lt.2 hshort), hz]

/-- A number that is read has no more digits than the limit allows. -/
theorem length_natChars_of_readChars {z : Int}
    (h : readChars cs = .integer z) :
    (natChars z.natAbs).length ≤ digitLimit := by
  obtain ⟨negative, ds, ⟨_, _, -, -, hcounts, -⟩, hlength, rfl⟩ :=
    readChars_eq_integer_iff.1 h
  rw [length_natChars, natAbs_signed]
  exact length_digits_le _ (by decide) (Nat.lt_of_lt_of_le
    (ofDigits_lt hcounts.lt) (Nat.pow_le_pow_right (by decide) hlength))

theorem readChars_eq_tooLong_iff {n : Nat} :
    readChars cs = .tooLong n
      ↔ ∃ negative ds, Spelling cs negative ds ∧ digitLimit < ds.length
          ∧ n = ds.length := by
  constructor
  · intro h
    rcases spelling_or_notInteger cs with ⟨negative, ds, hspelling⟩ | hnone
    · rw [readChars_of_spelling hspelling] at h
      split at h
      · next hlong =>
        cases h
        exact ⟨negative, ds, hspelling, hlong, rfl⟩
      · cases h
    · rw [hnone] at h
      cases h
  · intro h
    obtain ⟨negative, ds, hspelling, hlong, hn⟩ := h
    rw [readChars_of_spelling hspelling, if_pos hlong, hn]

theorem readChars_eq_notInteger_iff :
    readChars cs = .notInteger ↔ ¬ ∃ negative ds, Spelling cs negative ds := by
  constructor
  · intro h hspelled
    obtain ⟨negative, ds, hspelling⟩ := hspelled
    rw [readChars_of_spelling hspelling] at h
    split at h
    · cases h
    · cases h
  · exact (spelling_or_notInteger cs).resolve_left

-- ============================================================== faults

/-- The error of a number with too many digits. -/
def Reading.fault? : Reading → Option Error
  | .tooLong digits => some (.longNumeral digits)
  | .integer _ | .notInteger => none

theorem Reading.fault?_eq_some_iff {reading : Reading} {e : Error} :
    reading.fault? = some e
      ↔ ∃ digits, reading = .tooLong digits ∧ e = .longNumeral digits := by
  cases reading <;> simp [fault?, eq_comm]

theorem Reading.fault?_eq_none_iff {reading : Reading} :
    reading.fault? = none ↔ ∀ digits, reading ≠ .tooLong digits := by
  cases reading <;> simp [fault?]

/-- The only error of a number is that it has too many digits. -/
theorem fault?_readChars_eq_some_iff {e : Error} :
    (readChars cs).fault? = some e
      ↔ ∃ negative ds, Spelling cs negative ds ∧ digitLimit < ds.length
          ∧ e = .longNumeral ds.length := by
  rw [Reading.fault?_eq_some_iff]
  simp only [readChars_eq_tooLong_iff]
  constructor
  · intro h
    obtain ⟨n, ⟨negative, ds, hspelling, hlong, hn⟩, he⟩ := h
    exact ⟨negative, ds, hspelling, hlong, hn ▸ he⟩
  · intro h
    obtain ⟨negative, ds, hspelling, hlong, he⟩ := h
    exact ⟨ds.length, ⟨negative, ds, hspelling, hlong, rfl⟩, he⟩

theorem longNumeral_of_fault? {e : Error}
    (h : (readChars cs).fault? = some e) :
    ∃ digits, digitLimit < digits ∧ e = .longNumeral digits := by
  obtain ⟨_, ds, -, hlong, he⟩ := fault?_readChars_eq_some_iff.1 h
  exact ⟨ds.length, hlong, he⟩

/-- Ones in a row. -/
theorem spelling_ones {n : Nat} (h : 0 < n) :
    Spelling (List.replicate n '1') false (List.replicate n 1) := by
  have hones : List.replicate n 1 ≠ [] := by
    rw [Ne, List.replicate_eq_nil_iff]
    omega
  exact ⟨[], _, .refl _ _, .absent, counts_replicate (by decide) n, hones⟩

theorem readChars_ones {n : Nat} (h : digitLimit < n) :
    readChars (List.replicate n '1') = .tooLong n :=
  readChars_eq_tooLong_iff.2 ⟨_, _, spelling_ones (Nat.zero_lt_of_lt h),
    by rwa [List.length_replicate], List.length_replicate.symm⟩

-- ===================================================== written numbers

/-- A blank cell says no number. -/
theorem read_of_isBlank {cell : String} (h : Text.isBlank cell = true) :
    read cell = .notInteger := by
  unfold read readChars
  rw [Text.trimChars_of_isBlank h]
  rfl

theorem exists_sign_intChars (z : Int) :
    ∃ sign, Sign sign (z < 0) ∧ intChars z = sign ++ natChars z.natAbs := by
  cases z with
  | ofNat n => exact ⟨[], .absent, rfl⟩
  | negSucc n =>
      have hbelow : decide (Int.negSucc n < 0) = true :=
        decide_eq_true (Int.negSucc_lt_zero n)
      rw [hbelow]
      exact ⟨['-'], .minus, rfl⟩

/-- A written number has no blanks. -/
theorem not_mem_text {z : Int} {c : Char} (h : isBlankChar c = true) :
    c ∉ (text z).toList := by
  intro hmem
  obtain ⟨sign, hsign, hchars⟩ := exists_sign_intChars z
  rw [text, String.toList_ofList, hchars] at hmem
  have hplain : isBlankChar c = false :=
    (List.mem_append.1 hmem).elim (hsign.not_blank c)
      ((counts_natChars z.natAbs).not_blank c)
  rw [h] at hplain
  cases hplain

/-- A number is read back from its digits with its sign in front, zeros
between the two and blanks around. -/
theorem readChars_of_written {z : Int} {zeros : Nat}
    (hsign : Sign sign (z < 0))
    (hpadded : Padded isBlankChar cs
      (sign ++ (List.replicate zeros '0' ++ natChars z.natAbs)))
    (hshort : zeros + (natChars z.natAbs).length ≤ digitLimit) :
    readChars cs = .integer z := by
  have hcounts : Counts (List.replicate zeros '0' ++ natChars z.natAbs)
      (List.replicate zeros 0 ++ digits z.natAbs) :=
    List.rel_append (counts_replicate (by decide) zeros)
      (counts_natChars z.natAbs)
  refine readChars_eq_integer_iff.2 ⟨_, _, ⟨sign, _, hpadded, hsign, hcounts,
    List.append_ne_nil_of_right_ne_nil _ (digits_ne_nil z.natAbs)⟩, ?_, ?_⟩
  · rw [length_natChars] at hshort
    rwa [List.length_append, List.length_replicate]
  · rw [ofDigits_zeros, ofDigits_digits, signed_natAbs]

/-- The numbers that cells say. A cell says a number just when it spells
one with at most 4300 digits, and then it says the value of the digits in
base ten with the sign; a number with more digits is the only error; and a
cell that spells no number says none. Hence a number is read back from its
text, with any blanks around, also with zeros behind the sign and with a
plus in front, as long as the digits are not too many, and a blank cell
says none. -/
theorem reading_of_spelling :
    (∀ cell z, read cell = .integer z
        ↔ ∃ negative ds, Spelling cell.toList negative ds ∧ ds.length ≤ 4300
            ∧ z = signed negative (Nat.ofDigits 10 ds.reverse))
      ∧ (∀ cell e, (read cell).fault? = some e
          ↔ ∃ negative ds, Spelling cell.toList negative ds
              ∧ 4300 < ds.length ∧ e = .longNumeral ds.length)
      ∧ (∀ cell, read cell = .notInteger
          ↔ ¬ ∃ negative ds, Spelling cell.toList negative ds)
      ∧ (∀ cell z, Padded isBlankChar cell.toList (text z).toList →
          (natChars z.natAbs).length ≤ 4300 → read cell = .integer z)
      ∧ (∀ cell z sign zeros, Sign sign (z < 0) →
          Padded isBlankChar cell.toList
            (sign ++ (List.replicate zeros '0' ++ natChars z.natAbs)) →
          zeros + (natChars z.natAbs).length ≤ 4300 →
            read cell = .integer z)
      ∧ ∀ cell, Text.isBlank cell = true → read cell = .notInteger := by
  refine ⟨fun cell z => ?_, fun cell e => fault?_readChars_eq_some_iff,
    fun cell => readChars_eq_notInteger_iff, fun cell z hpadded hshort => ?_,
    fun cell z sign zeros hsign hpadded hshort =>
      readChars_of_written hsign hpadded hshort,
    fun cell => read_of_isBlank⟩
  · simp only [← ofDigits_eq]
    exact readChars_eq_integer_iff
  · obtain ⟨sign, hsign, hchars⟩ := exists_sign_intChars z
    have htext : (text z).toList
        = sign ++ (List.replicate 0 '0' ++ natChars z.natAbs) := by
      unfold text
      rw [String.toList_ofList, hchars]
      rfl
    rw [htext] at hpadded
    refine readChars_of_written hsign hpadded ?_
    rwa [Nat.zero_add]

/-- Blanks around a number, zeros behind a plus, digits of two scripts,
too many digits and no digits. -/
theorem reading_paddedCells :
    read "\t-42\u3000" = .integer (-42)
      ∧ read " +007\n" = .integer 7
      ∧ read "-٤2" = .integer (-42)
      ∧ (read (String.ofList (List.replicate 4301 '1'))).fault?
          = some (.longNumeral 4301)
      ∧ read " \n" = .notInteger := by
  obtain ⟨hinteger, hfault, -, htext, hwritten, hblank⟩ :=
    reading_of_spelling
  refine ⟨?_, ?_, ?_, ?_, hblank " \n" (by decide)⟩
  · exact htext _ (-42)
      ⟨['\t'], ['\u3000'], by decide +kernel,
        List.forall_mem_singleton.2 (by decide),
        List.forall_mem_singleton.2 (by decide)⟩
      (by decide +kernel)
  · exact hwritten _ 7 ['+'] 2 .plus
      ⟨[' '], ['\n'], by decide +kernel,
        List.forall_mem_singleton.2 (by decide),
        List.forall_mem_singleton.2 (by decide)⟩
      (by decide +kernel)
  · have hcounts : Counts ['٤', '2'] [4, 2] :=
      .cons (by decide) (.cons (by decide) .nil)
    exact (hinteger _ _).2 ⟨true, [4, 2], ⟨['-'], ['٤', '2'], .refl _ _,
      .minus, hcounts, by decide⟩, by decide, by decide⟩
  · have hlength : (List.replicate 4301 1).length = 4301 :=
      List.length_replicate
    refine (hfault _ _).2 ⟨false, List.replicate 4301 1, ?_, ?_, ?_⟩
    · rw [String.toList_ofList]
      exact spelling_ones (by decide)
    · rw [hlength]
      decide
    · rw [hlength]

end Storyline.Numeral
