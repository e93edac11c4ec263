/-
A sheet has no more rows than its file has bytes: every encoding writes a
character with one byte at least, line breaks only become fewer, and every
record but the first has a line break in front of it.

Main statement: `Script.bounds_of_loadRows`.
-/
import Storyline.Proofs.Sheet.OnePass
import Storyline.Proofs.Text.Encoding
import Storyline.Script.Row

namespace Storyline

-- ============================================================ decoding

namespace Text

theorem length_le_flatMap {α β : Type} {f : α → List β}
    (hf : ∀ a, 0 < (f a).length) (l : List α) :
    l.length ≤ (l.flatMap f).length := by
  induction l with
  | nil => exact Nat.zero_le _
  | cons a l ih =>
      have hfirst := hf a
      rw [List.flatMap_cons, List.length_append, List.length_cons]
      omega

theorem ByteOrder.length_bytes_pos (order : ByteOrder) (unit : Nat) :
    0 < (order.bytes unit).length := by
  cases order <;> exact Nat.zero_lt_two

theorem length_le_utf16Bytes (order : ByteOrder) (cs : List Char) :
    cs.length ≤ (utf16Bytes order cs).length :=
  calc cs.length
      ≤ (cs.flatMap utf16Units).length :=
        length_le_flatMap length_utf16Units_pos cs
    _ ≤ (utf16Bytes order cs).length :=
        length_le_flatMap order.length_bytes_pos _

/-- No encoding writes more characters than bytes. -/
theorem length_of_writes {encoding : Encoding} {bytes : List UInt8}
    {cs : List Char} (h : encoding.Writes cs bytes) :
    cs.length ≤ bytes.length := by
  cases encoding with
  | utf8 =>
      rw [show bytes = cs.flatMap utf8Char from h]
      exact length_le_flatMap length_utf8Char_pos cs
  | utf8Marked =>
      have hchars := length_le_flatMap length_utf8Char_pos cs
      rcases h with rfl | ⟨rfl, -⟩ | ⟨-, rfl⟩
      · rw [List.length_append]
        omega
      · exact hchars
      · exact Nat.zero_le _
  | ascii | latin1 => rw [h.2, List.length_map]
  | windows1252 => exact Nat.le_of_eq (List.Forall₂.length_eq h).symm
  | utf16 =>
      rcases h with ⟨-, rfl⟩ | ⟨order, rfl⟩
      · exact Nat.zero_le _
      · have hchars := length_le_utf16Bytes order cs
        rw [List.length_append]
        omega
  | utf16Little | utf16Big =>
      rw [show bytes = utf16Bytes _ cs from h]
      exact length_le_utf16Bytes _ cs

/-- No encoding makes more characters than there are bytes. -/
theorem length_of_decode {encoding : Encoding} {bytes : List UInt8}
    {cs : List Char} (h : encoding.decode bytes = .text cs) :
    cs.length ≤ bytes.length :=
  length_of_writes ((decode_eq_text_iff encoding).1 h)

theorem length_unifyBreaksFrom (done cs : List Char) :
    (unifyBreaksFrom done cs).length ≤ done.length + cs.length := by
  fun_induction unifyBreaksFrom done cs with
  | case1 => simp
  | case2 done cs ih | case3 done cs _ ih | case4 done c cs _ _ ih =>
      simp only [List.length_cons] at ih ⊢
      omega

end Text

-- ============================================================= records

namespace Sheet

theorem length_linesFrom (line cs : List Char) :
    (linesFrom line cs).length ≤ cs.length + 1 := by
  fun_induction linesFrom line cs with
  | case1 => exact Nat.le_refl _
  | case2 line cs ih | case3 line cs _ ih | case4 line cs ih
  | case5 line c cs _ _ _ ih =>
      simp only [List.length_cons]
      omega

theorem length_lines (cs : List Char) : (lines cs).length ≤ cs.length + 1 := by
  have := length_linesFrom [] cs
  unfold lines dropFinalEmpty
  split
  · rw [List.length_dropLast]
    omega
  · exact this

/-- Lines become no more records than there are lines; the record that is
being read has a line already. -/
theorem length_groupFrom (inQuotes : Bool) (record lines : List (List Char)) :
    (groupFrom inQuotes record lines).length
      ≤ lines.length + if record = [] then 0 else 1 := by
  fun_induction groupFrom inQuotes record lines with
  | case1 record inQuotes hempty => exact Nat.zero_le _
  | case2 record inQuotes hempty =>
      rw [if_neg (by simpa using hempty)]
      exact Nat.le_refl _
  | case3 record inQuotes line rest htoggles ih =>
      rw [if_neg (List.cons_ne_nil _ _)] at ih
      rw [List.length_cons]
      omega
  | case4 record inQuotes line rest htoggles ih =>
      rw [if_pos rfl] at ih
      simp only [List.length_cons]
      omega

theorem length_recordsWith (separator : Char) (cs : List Char) :
    (recordsWith separator cs).length ≤ cs.length + 1 := by
  unfold recordsWith
  rw [List.length_map]
  exact Nat.le_trans (length_groupFrom false [] (lines cs)) (length_lines cs)

/-- A file has at most one record more than bytes. -/
theorem length_of_readRecords {tree : FileTree} {format : Format} {path : Path}
    {out : List (List String)} (h : readRecords tree format path = .ok out) :
    ∃ bytes, tree.read path = .ok bytes ∧ out.length ≤ bytes.length + 1 := by
  obtain ⟨text, htext, hrecords⟩ := Error.bind_eq_ok.1 h
  unfold readText at htext
  split at htext
  · cases htext
  · split at htext
    · cases htext
    · cases htext
    · cases htext
    · next bytes hbytes =>
      refine ⟨bytes, hbytes, ?_⟩
      unfold decodeText at htext
      split at htext
      · cases htext
      · split at htext
        · next cs hcs =>
          cases htext
          unfold records at hrecords
          split at hrecords
          · cases hrecords
          · next separator _ =>
            cases hrecords
            have hunified := Text.length_unifyBreaksFrom [] cs
            have hdecoded := Text.length_of_decode hcs
            have hrecords := length_recordsWith separator
              (String.ofList (Text.unifyBreaks cs)).toList
            rw [String.toList_ofList] at hrecords
            rw [List.length_map]
            unfold Text.unifyBreaks at hrecords ⊢
            rw [String.toList_ofList]
            simp only [List.length_nil] at hunified
            omega
        · cases htext
        · cases htext

end Sheet

-- ================================================================ rows

namespace Script

theorem rowsFrom_bounds {places : Places} {records : List (List String)}
    {n : Int} :
    (rowsFrom places n records).length ≤ records.length
      ∧ ∀ row ∈ rowsFrom places n records,
          n ≤ row.rowNumber ∧ row.rowNumber < n + records.length := by
  induction records generalizing n with
  | nil => exact ⟨Nat.le_refl _, nofun⟩
  | cons record records ih =>
      obtain ⟨hlength, hnumbers⟩ := @ih (n + 1)
      have hrest : ∀ row ∈ rowsFrom places (n + 1) records,
          n ≤ row.rowNumber
            ∧ row.rowNumber < n + (record :: records).length := by
        intro row hrow
        have := hnumbers row hrow
        rw [List.length_cons]
        omega
      rw [rowsFrom]
      split
      · exact ⟨Nat.le_succ_of_le hlength, hrest⟩
      · refine ⟨Nat.succ_le_succ hlength, List.forall_mem_cons.2 ⟨?_, hrest⟩⟩
        show n ≤ n ∧ n < n + (record :: records).length
        rw [List.length_cons]
        omega

/-- The rows of a sheet are not more than the bytes of its file, and
neither are their numbers. -/
theorem bounds_of_loadRows {tree : FileTree} {format : Sheet.Format}
    {required : List String} {path : Path} {rows : List Row}
    (h : loadRows tree format required path = .ok rows) :
    ∃ bytes, tree.read path = .ok bytes ∧ rows.length ≤ bytes.length
      ∧ ∀ row ∈ rows, 1 ≤ row.rowNumber ∧ row.rowNumber ≤ bytes.length := by
  obtain ⟨table, htable, h⟩ := Error.bind_eq_ok.1 h
  cases h
  obtain ⟨out, hout, htable⟩ := Error.bind_eq_ok.1 htable
  obtain ⟨bytes, hbytes, hlength⟩ := Sheet.length_of_readRecords hout
  refine ⟨bytes, hbytes, ?_⟩
  unfold Table.ofRecords at htable
  split at htable
  · split at htable <;> cases htable
  · next first records =>
    obtain ⟨positions, -, htable⟩ := Error.bind_eq_ok.1 htable
    cases htable
    rw [List.length_cons] at hlength
    obtain ⟨hrows, hnumbers⟩ := @rowsFrom_bounds
      (Places.ofHeader (Header.ofRecord first)) records 1
    refine ⟨Nat.le_trans hrows (by omega), fun row hrow => ?_⟩
    have := hnumbers row hrow
    omega

end Script

end Storyline
