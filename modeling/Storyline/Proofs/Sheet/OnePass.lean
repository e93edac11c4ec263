/-
One pass over a sheet. `Sheet.records` groups lines into records first,
by counting quotes, and cuts each record into fields afterwards; here is
a reader that does both at once (`scan`), and the two agree on every
text.

# What is compared

* `readFrom`: the field reader of one record as a cursor that moves
  (`fieldsFrom_eq`), so that it can stop between two characters;
* `scanFrom`: the same cursor on a whole sheet, where a line break
  outside quotes ends the record.

# What carries it

The two count quotes differently: grouping skips every doubled quote,
the field reader only those inside quotes. Both counts have the parity
of the quotes themselves (`togglesQuote_cons`, `readFrom_inQuotes`), so
grouping always ends a record where the field reader is outside quotes
(`group_eq_groupReading`). A cursor looks one character ahead after a
quote, but never past a line break, so a sheet can be cut there
(`readFrom_append`, `scanFrom_append`).

Main statement: `records_eq_scan`.
-/
import Mathlib.Data.List.Basic
import Storyline.Sheet.Record
import Storyline.Text.Encoding

namespace Storyline.Sheet

-- =========================================================== the cursor

/-- Where a reader stands in a record: inside quotes or not, with the
field being read and the fields before it, all held last first. -/
structure Cursor where
  inQuotes : Bool
  field : List Char
  fields : List (List Char)
deriving DecidableEq, Repr

namespace Cursor

/-- Before a record. -/
def start : Cursor := ⟨false, [], []⟩

/-- Behind one more character of the field. -/
def push (cursor : Cursor) (ch : Char) : Cursor :=
  { cursor with field := ch :: cursor.field }

/-- Behind a quote that opens or closes quoting. -/
def toggle (cursor : Cursor) : Cursor :=
  { cursor with inQuotes := !cursor.inQuotes }

/-- Behind a separator. -/
def next (cursor : Cursor) : Cursor :=
  { cursor with field := [], fields := cursor.field.reverse :: cursor.fields }

/-- The fields up to here. -/
def record (cursor : Cursor) : List (List Char) :=
  (cursor.field.reverse :: cursor.fields).reverse

end Cursor

/-- The field reader behind the characters of a record. -/
def readFrom (separator : Char) (cursor : Cursor) : List Char → Cursor
  | [] => cursor
  | '"' :: '"' :: cs =>
    if cursor.inQuotes then readFrom separator (cursor.push '"') cs
    else readFrom separator cursor.toggle ('"' :: cs)
  | '"' :: cs => readFrom separator cursor.toggle cs
  | ch :: cs =>
    if cursor.inQuotes then readFrom separator (cursor.push ch) cs
    else if ch = separator then readFrom separator cursor.next cs
    else readFrom separator (cursor.push ch) cs

/-- The records in the rest of a sheet. Outside quotes a quote opens
quoting, a line break ends the record and the separator ends the field;
inside quotes a doubled quote is one quote, and a single one closes
quoting. What is open at the end is closed there. -/
def scanFrom (separator : Char) (cursor : Cursor) :
    List Char → List (List (List Char))
  | [] => [cursor.record]
  | '"' :: '"' :: cs =>
    if cursor.inQuotes then scanFrom separator (cursor.push '"') cs
    else scanFrom separator cursor.toggle ('"' :: cs)
  | '"' :: cs => scanFrom separator cursor.toggle cs
  | ch :: cs =>
    if cursor.inQuotes then scanFrom separator (cursor.push ch) cs
    else if ch = '\n' then cursor.record :: scanFrom separator .start cs
    else if ch = separator then scanFrom separator cursor.next cs
    else scanFrom separator (cursor.push ch) cs

variable {separator ch : Char} {cursor : Cursor} {cs : List Char}

-- ==================================================== one step at a time

theorem readFrom_doubled (h : cursor.inQuotes = true) :
    readFrom separator cursor ('"' :: '"' :: cs)
      = readFrom separator (cursor.push '"') cs := by
  rw [readFrom, if_pos h]

/-- A quote that is not a doubled one inside quotes opens or closes. -/
theorem readFrom_quote (h : cursor.inQuotes = true → cs.head? ≠ some '"') :
    readFrom separator cursor ('"' :: cs)
      = readFrom separator cursor.toggle cs := by
  cases cs with
  | nil => rfl
  | cons other cs =>
      by_cases hother : other = '"'
      · subst hother
        rw [readFrom, if_neg fun hin => h hin rfl]
      · rw [readFrom]
        intro rest hrest
        exact hother (List.cons.inj hrest).1

theorem readFrom_other (h : ch ≠ '"') :
    readFrom separator cursor (ch :: cs)
      = if cursor.inQuotes then readFrom separator (cursor.push ch) cs
        else if ch = separator then readFrom separator cursor.next cs
        else readFrom separator (cursor.push ch) cs := by
  rw [readFrom]
  · intro rest hrest
    exact absurd hrest h
  · exact h

theorem scanFrom_doubled (h : cursor.inQuotes = true) :
    scanFrom separator cursor ('"' :: '"' :: cs)
      = scanFrom separator (cursor.push '"') cs := by
  rw [scanFrom, if_pos h]

theorem scanFrom_quote (h : cursor.inQuotes = true → cs.head? ≠ some '"') :
    scanFrom separator cursor ('"' :: cs)
      = scanFrom separator cursor.toggle cs := by
  cases cs with
  | nil => rfl
  | cons other cs =>
      by_cases hother : other = '"'
      · subst hother
        rw [scanFrom, if_neg fun hin => h hin rfl]
      · rw [scanFrom]
        intro rest hrest
        exact hother (List.cons.inj hrest).1

theorem scanFrom_other (h : ch ≠ '"') :
    scanFrom separator cursor (ch :: cs)
      = if cursor.inQuotes then scanFrom separator (cursor.push ch) cs
        else if ch = '\n' then
          cursor.record :: scanFrom separator .start cs
        else if ch = separator then scanFrom separator cursor.next cs
        else scanFrom separator (cursor.push ch) cs := by
  rw [scanFrom]
  · intro rest hrest
    exact absurd hrest h
  · exact h

/-- What holds before a reader's end holds of all that it reads, if it
holds behind every step: behind a doubled quote inside quotes, behind a
quote that opens or closes, and behind any other character. -/
theorem reading_induction {motive : Cursor → List Char → Prop}
    (finish : ∀ cursor, motive cursor [])
    (doubled : ∀ cursor cs, cursor.inQuotes = true →
      motive (cursor.push '"') cs → motive cursor ('"' :: '"' :: cs))
    (quote : ∀ cursor cs, (cursor.inQuotes = true → cs.head? ≠ some '"') →
      motive cursor.toggle cs → motive cursor ('"' :: cs))
    (other : ∀ cursor ch cs, ch ≠ '"' → (∀ cursor, motive cursor cs) →
      motive cursor (ch :: cs))
    (cursor : Cursor) (cs : List Char) : motive cursor cs := by
  induction hn : cs.length using Nat.strongRecOn generalizing cursor cs with
  | ind n ih =>
      cases cs with
      | nil => exact finish cursor
      | cons ch cs =>
          rw [List.length_cons] at hn
          by_cases hquote : ch = '"'
          · subst hquote
            by_cases hdoubled :
                cursor.inQuotes = true ∧ cs.head? = some '"'
            · obtain ⟨hin, hhead⟩ := hdoubled
              cases cs with
              | nil => cases hhead
              | cons second cs =>
                  cases hhead
                  rw [List.length_cons] at hn
                  exact doubled cursor cs hin
                    (ih cs.length (by omega) _ cs rfl)
            · refine quote cursor cs (fun hin hhead => ?_)
                (ih cs.length (by omega) _ cs rfl)
              exact hdoubled ⟨hin, hhead⟩
          · exact other cursor ch cs hquote fun cursor =>
              ih cs.length (by omega) cursor cs rfl

-- ============================================================ cutting

variable {rest : List Char}

theorem head?_append_ne (h : cs.head? ≠ some '"')
    (hrest : rest.head? ≠ some '"') : (cs ++ rest).head? ≠ some '"' := by
  cases cs with
  | nil => exact hrest
  | cons ch cs => exact h

/-- A reader can be stopped where no quote follows. -/
theorem readFrom_append (hrest : rest.head? ≠ some '"') :
    readFrom separator cursor (cs ++ rest)
      = readFrom separator (readFrom separator cursor cs) rest := by
  induction cursor, cs using reading_induction with
  | finish cursor => rfl
  | doubled cursor cs hin ih =>
      show readFrom separator cursor ('"' :: '"' :: (cs ++ rest)) = _
      rw [readFrom_doubled hin, readFrom_doubled hin, ih]
  | quote cursor cs hcs ih =>
      show readFrom separator cursor ('"' :: (cs ++ rest)) = _
      rw [readFrom_quote fun hin => head?_append_ne (hcs hin) hrest,
        readFrom_quote hcs, ih]
  | other cursor ch cs hch ih =>
      show readFrom separator cursor (ch :: (cs ++ rest)) = _
      rw [readFrom_other hch, readFrom_other hch, ih, ih]
      split
      · rfl
      · split <;> rfl

/-- On characters of one line the two readers move alike. -/
theorem scanFrom_append (hline : '\n' ∉ cs)
    (hrest : rest.head? ≠ some '"') :
    scanFrom separator cursor (cs ++ rest)
      = scanFrom separator (readFrom separator cursor cs) rest := by
  induction cursor, cs using reading_induction with
  | finish cursor => rfl
  | doubled cursor cs hin ih =>
      show scanFrom separator cursor ('"' :: '"' :: (cs ++ rest)) = _
      rw [scanFrom_doubled hin, readFrom_doubled hin, ih]
      exact fun hmem => hline
        (List.mem_cons_of_mem _ (List.mem_cons_of_mem _ hmem))
  | quote cursor cs hcs ih =>
      show scanFrom separator cursor ('"' :: (cs ++ rest)) = _
      rw [scanFrom_quote fun hin => head?_append_ne (hcs hin) hrest,
        readFrom_quote hcs, ih]
      exact fun hmem => hline (List.mem_cons_of_mem _ hmem)
  | other cursor ch cs hch ih =>
      have hcs : '\n' ∉ cs :=
        fun hmem => hline (List.mem_cons_of_mem _ hmem)
      have hbreak : ch ≠ '\n' := by
        rintro rfl
        exact hline List.mem_cons_self
      show scanFrom separator cursor (ch :: (cs ++ rest)) = _
      rw [scanFrom_other hch, readFrom_other hch, if_neg hbreak,
        ih _ hcs, ih _ hcs]
      split
      · rfl
      · split <;> rfl

-- ================================================ the parity of quotes

theorem togglesQuote_other (h : ch ≠ '"') :
    togglesQuote (ch :: cs) = togglesQuote cs := by
  rw [togglesQuote]
  · intro rest hrest
    exact absurd hrest h
  · exact h

/-- Skipping doubled quotes does not change the parity of the quotes. -/
theorem togglesQuote_cons (ch : Char) (cs : List Char) :
    togglesQuote (ch :: cs) = (togglesQuote cs != (ch == '"')) := by
  induction cs generalizing ch with
  | nil =>
      by_cases hch : ch = '"'
      · subst hch
        rfl
      · rw [togglesQuote_other hch, beq_eq_false_iff_ne.2 hch,
          Bool.bne_false]
  | cons second cs ih =>
      by_cases hch : ch = '"'
      · subst hch
        by_cases hsecond : second = '"'
        · -- a doubled quote is skipped, and so would be two single ones
          subst hsecond
          rw [togglesQuote, ih]
          cases togglesQuote cs <;> rfl
        · rw [togglesQuote]
          · cases togglesQuote (second :: cs) <;> rfl
          · intro rest hrest
            exact hsecond (List.cons.inj hrest).1
      · rw [togglesQuote_other hch, beq_eq_false_iff_ne.2 hch,
          Bool.bne_false]

theorem togglesQuote_append (cs others : List Char) :
    togglesQuote (cs ++ others)
      = (togglesQuote cs != togglesQuote others) := by
  induction cs with
  | nil =>
      show togglesQuote others = (false != togglesQuote others)
      rw [Bool.false_bne]
  | cons ch cs ih =>
      rw [List.cons_append, togglesQuote_cons, togglesQuote_cons, ih]
      cases togglesQuote cs <;> cases togglesQuote others <;>
        cases ch == '"' <;> rfl

/-- Whether a reader ends inside quotes is the parity of the quotes. -/
theorem readFrom_inQuotes :
    (readFrom separator cursor cs).inQuotes
      = (cursor.inQuotes != togglesQuote cs) := by
  induction cursor, cs using reading_induction with
  | finish cursor =>
      show cursor.inQuotes = (cursor.inQuotes != false)
      rw [Bool.bne_false]
  | doubled cursor cs hin ih =>
      rw [readFrom_doubled hin, ih, togglesQuote]
      rfl
  | quote cursor cs hcs ih =>
      rw [readFrom_quote hcs, ih, togglesQuote_cons]
      show ((!cursor.inQuotes) != togglesQuote cs)
        = (cursor.inQuotes != (togglesQuote cs != true))
      cases cursor.inQuotes <;> cases togglesQuote cs <;> rfl
  | other cursor ch cs hch ih =>
      have hpush : (cursor.push ch).inQuotes = cursor.inQuotes := rfl
      have hnext : cursor.next.inQuotes = cursor.inQuotes := rfl
      rw [readFrom_other hch, togglesQuote_cons, beq_eq_false_iff_ne.2 hch,
        Bool.bne_false]
      split
      · rw [ih, hpush]
      · split
        · rw [ih, hnext]
        · rw [ih, hpush]

-- ============================================= the field reader's state

theorem fieldsFrom_other {field : List Char} (h : ch ≠ '"') :
    fieldsFrom (some separator) true field (ch :: cs)
      = fieldsFrom (some separator) true (ch :: field) cs := by
  rw [fieldsFrom]
  · intro rest hrest
    exact absurd hrest h
  · exact h

theorem fieldsFrom_closing {field : List Char}
    (h : cs.head? ≠ some '"') :
    fieldsFrom (some separator) true field ('"' :: cs)
      = fieldsFrom (some separator) false field cs := by
  rw [fieldsFrom]
  rintro rest rfl
  exact h rfl

/-- The field reader cuts a record as its cursor does. -/
theorem fieldsFrom_eq (separator : Char) (cursor : Cursor)
    (cs : List Char) :
    cursor.fields.reverse
        ++ fieldsFrom (some separator) cursor.inQuotes cursor.field cs
      = (readFrom separator cursor cs).record := by
  induction cursor, cs using reading_induction with
  | finish cursor =>
      show _ ++ fieldsFrom _ cursor.inQuotes cursor.field []
        = (cursor.field.reverse :: cursor.fields).reverse
      rw [fieldsFrom, List.reverse_cons]
  | doubled cursor cs hin ih =>
      rw [readFrom_doubled hin, ← ih, hin]
      show _ = cursor.fields.reverse
        ++ fieldsFrom _ cursor.inQuotes ('"' :: cursor.field) cs
      rw [fieldsFrom, hin]
  | quote cursor cs hcs ih =>
      rw [readFrom_quote hcs, ← ih]
      show _ = cursor.fields.reverse
        ++ fieldsFrom _ (!cursor.inQuotes) cursor.field cs
      cases hin : cursor.inQuotes with
      | true =>
          rw [fieldsFrom_closing (hcs hin)]
          rfl
      | false =>
          rw [fieldsFrom, if_pos rfl]
          rfl
  | other cursor ch cs hch ih =>
      rw [readFrom_other hch]
      cases hin : cursor.inQuotes with
      | true =>
          rw [fieldsFrom_other hch, if_pos rfl, ← ih]
          show _ = cursor.fields.reverse
            ++ fieldsFrom _ cursor.inQuotes (ch :: cursor.field) cs
          rw [hin]
      | false =>
          rw [fieldsFrom, if_neg hch, if_neg Bool.false_ne_true]
          by_cases hseparator : ch = separator
          · rw [if_pos (by rw [hseparator]), if_pos hseparator, ← ih]
            show _ = (cursor.field.reverse :: cursor.fields).reverse
              ++ fieldsFrom _ cursor.inQuotes [] cs
            rw [hin, List.reverse_cons, List.append_assoc]
            rfl
          · rw [if_neg fun h => hseparator (Option.some.inj h).symm,
              if_neg hseparator, ← ih]
            show _ = cursor.fields.reverse
              ++ fieldsFrom _ cursor.inQuotes (ch :: cursor.field) cs
            rw [hin]

theorem fields_eq (separator : Char) (cs : List Char) :
    fields (some separator) cs = (readFrom separator .start cs).record :=
  fieldsFrom_eq separator .start cs

-- ========================================================== grouping

/-- Groups lines by what the field reader makes of them: a record ends
with the line that leaves its cursor outside quotes. -/
def groupReading (separator : Char) (record : List (List Char)) :
    List (List Char) → List (List Char)
  | [] => if record.isEmpty then [] else [joinLines record.reverse]
  | line :: rest =>
    let joined := joinLines (line :: record).reverse
    if (readFrom separator .start joined).inQuotes then
      groupReading separator (line :: record) rest
    else joined :: groupReading separator [] rest

theorem joinLines_singleton (line : List Char) :
    joinLines [line] = line := by
  simp [joinLines]

theorem joinLines_cons_cons (line second : List Char)
    (rest : List (List Char)) :
    joinLines (line :: second :: rest)
      = line ++ '\n' :: joinLines (second :: rest) := by
  unfold joinLines
  rw [List.intercalate_cons_cons]
  simp

/-- The lines of a record before its last, each with its break. -/
def before (record : List (List Char)) : List Char :=
  record.reverse.flatMap (· ++ ['\n'])

theorem before_cons (line : List Char) (record : List (List Char)) :
    before (line :: record) = before record ++ line ++ ['\n'] := by
  unfold before
  rw [List.reverse_cons, List.flatMap_append]
  simp

theorem joinLines_append_singleton (lines : List (List Char))
    (line : List Char) :
    joinLines (lines ++ [line])
      = lines.flatMap (· ++ ['\n']) ++ line := by
  induction lines with
  | nil => exact joinLines_singleton line
  | cons first lines ih =>
      rw [List.flatMap_cons, List.append_assoc, ← ih]
      cases lines with
      | nil =>
          show joinLines [first, line] = _
          rw [joinLines_cons_cons, List.append_assoc]
          rfl
      | cons second lines =>
          show joinLines (first :: second :: (lines ++ [line])) = _
          rw [joinLines_cons_cons, List.append_assoc]
          rfl

theorem joinLines_reverse_cons (line : List Char)
    (record : List (List Char)) :
    joinLines (line :: record).reverse = before record ++ line := by
  rw [List.reverse_cons, joinLines_append_singleton]
  rfl

/-- Line by line the flag that grouping carries is the parity of what it
has read, so it is what the field reader's cursor says. -/
theorem groupFrom_eq_groupReading (separator : Char)
    (record lines : List (List Char)) :
    groupFrom (togglesQuote (before record)) record lines
      = groupReading separator record lines := by
  induction lines generalizing record with
  | nil => rfl
  | cons line rest ih =>
      have hquotes : (readFrom separator .start
            (joinLines (line :: record).reverse)).inQuotes
          = (togglesQuote (before record) != togglesQuote line) := by
        rw [readFrom_inQuotes, joinLines_reverse_cons, togglesQuote_append]
        exact Bool.false_bne _
      have hbefore : togglesQuote (before (line :: record))
          = (togglesQuote (before record) != togglesQuote line) := by
        rw [before_cons, togglesQuote_append, togglesQuote_append]
        exact Bool.bne_false _
      unfold groupFrom groupReading
      simp only
      rw [hquotes]
      split
      · rename_i hopen
        rw [← ih (line :: record), hbefore, hopen]
      · rw [← ih []]
        rfl

/-- Counting quotes line by line groups as the field reader does. -/
theorem group_eq_groupReading (separator : Char)
    (lines : List (List Char)) :
    group lines = groupReading separator [] lines :=
  groupFrom_eq_groupReading separator [] lines

-- ============================================== records as they are read

theorem readFrom_break (separator : Char) (cursor : Cursor)
    (cs rest : List Char) :
    readFrom separator cursor (cs ++ '\n' :: rest)
      = readFrom separator (readFrom separator cursor (cs ++ ['\n']))
          rest := by
  have hstep : ∀ cursor : Cursor, readFrom separator cursor ('\n' :: rest)
      = readFrom separator (readFrom separator cursor ['\n']) rest := by
    intro cursor
    rw [readFrom_other (by decide), readFrom_other (by decide)]
    split
    · rfl
    · split <;> rfl
  have hbreak : ∀ rest : List Char,
      ('\n' :: rest : List Char).head? ≠ some '"' :=
    fun _ => by simp
  rw [readFrom_append (hbreak rest), readFrom_append (hbreak []), hstep]

/-- The cursor goes on from the lines before. -/
theorem readFrom_before (separator : Char) (record : List (List Char))
    (line : List Char) :
    readFrom separator .start (before record ++ line)
      = readFrom separator (readFrom separator .start (before record))
          line := by
  cases record with
  | nil => rfl
  | cons last record =>
      rw [before_cons, List.append_assoc (before record ++ last)]
      exact readFrom_break separator .start (before record ++ last) line

theorem readFrom_joinLines (separator : Char) (line : List Char)
    (record : List (List Char)) :
    readFrom separator .start (joinLines (line :: record).reverse)
      = readFrom separator (readFrom separator .start (before record))
          line := by
  rw [joinLines_reverse_cons, readFrom_before]

/-- The last line ends the last record, whatever is open. -/
theorem groupReading_single (separator : Char)
    (record : List (List Char)) (line : List Char) :
    groupReading separator record [line]
      = [joinLines (line :: record).reverse] := by
  unfold groupReading
  simp only
  split <;> rfl

theorem scanFrom_line (hline : '\n' ∉ cs) :
    scanFrom separator cursor cs
      = [(readFrom separator cursor cs).record] := by
  have hscan : scanFrom separator cursor (cs ++ [])
      = [(readFrom separator cursor cs).record] :=
    scanFrom_append hline (by simp)
  rwa [List.append_nil] at hscan

/-- Cutting the groups into fields is scanning the lines in one pass,
from where the cursor stands behind the lines of the open record. -/
theorem map_fields_groupReading (record : List (List Char))
    {lines : List (List Char)} (hne : lines ≠ [])
    (hlines : ∀ line ∈ lines, '\n' ∉ line) :
    (groupReading separator record lines).map (fields (some separator))
      = scanFrom separator (readFrom separator .start (before record))
          (joinLines lines) := by
  induction lines generalizing record with
  | nil => exact absurd rfl hne
  | cons line rest ih =>
      have hline : '\n' ∉ line := hlines line List.mem_cons_self
      cases rest with
      | nil =>
          rw [groupReading_single, List.map_singleton, fields_eq,
            readFrom_joinLines, joinLines_singleton, scanFrom_line hline]
      | cons second rest =>
          have hrest := fun record => ih record (List.cons_ne_nil _ _)
            fun line hline => hlines line (List.mem_cons_of_mem _ hline)
          unfold groupReading
          simp only
          rw [joinLines_cons_cons, scanFrom_append hline (by simp),
            readFrom_joinLines, scanFrom_other (by decide)]
          split
          · -- a quote is open, so the break belongs to the field
            rename_i hopen
            rw [hrest (line :: record), before_cons,
              readFrom_append (by simp), readFrom_before,
              readFrom_other (by decide), if_pos hopen]
            rfl
          · -- the break ends the record, and the next starts afresh
            rw [if_pos rfl, List.map_cons, fields_eq, readFrom_joinLines,
              hrest []]
            rfl

-- ==================================================== the whole sheet

/-- A text without the line break at its end. -/
def dropFinalBreak (cs : List Char) : List Char :=
  if cs.getLast? = some '\n' then cs.dropLast else cs

/-- The records of a sheet in one pass; an empty sheet has none. -/
def scan (separator : Char) (cs : List Char) : List (List (List Char)) :=
  if cs = [] then []
  else scanFrom separator .start (dropFinalBreak (Text.unifyBreaks cs))

/-- What was done before stays in front. -/
theorem unifyBreaksFrom_append (done front cs : List Char) :
    Text.unifyBreaksFrom (done ++ front) cs
      = front.reverse ++ Text.unifyBreaksFrom done cs := by
  induction done, cs using Text.unifyBreaksFrom.induct with
  | case1 done =>
      rw [Text.unifyBreaksFrom, Text.unifyBreaksFrom, List.reverse_append]
  | case2 done cs ih =>
      rw [Text.unifyBreaksFrom, Text.unifyBreaksFrom]
      exact ih
  | case3 done cs hlf ih =>
      rw [Text.unifyBreaksFrom, Text.unifyBreaksFrom]
      · exact ih
      · exact hlf
      · exact hlf
  | case4 done ch cs hcrlf hcr ih =>
      rw [Text.unifyBreaksFrom, Text.unifyBreaksFrom]
      · exact ih
      · exact hcrlf
      · exact hcr
      · exact hcrlf
      · exact hcr

/-- A break stays in front, whatever was read before it. -/
theorem unifyBreaksFrom_break (line cs : List Char) :
    Text.unifyBreaksFrom ('\n' :: line) cs
      = line.reverse ++ '\n' :: Text.unifyBreaks cs := by
  have h := unifyBreaksFrom_append [] ('\n' :: line) cs
  rw [List.nil_append, List.reverse_cons, List.append_assoc] at h
  exact h

theorem eq_nil_of_unifyBreaksFrom {done cs : List Char}
    (h : Text.unifyBreaksFrom done cs = []) : done = [] ∧ cs = [] := by
  induction done, cs using Text.unifyBreaksFrom.induct with
  | case1 done =>
      rw [Text.unifyBreaksFrom, List.reverse_eq_nil_iff] at h
      exact ⟨h, rfl⟩
  | case2 done cs ih =>
      rw [Text.unifyBreaksFrom] at h
      cases (ih h).1
  | case3 done cs hlf ih =>
      rw [Text.unifyBreaksFrom] at h
      · cases (ih h).1
      · exact hlf
  | case4 done ch cs hcrlf hcr ih =>
      rw [Text.unifyBreaksFrom] at h
      · cases (ih h).1
      · exact hcrlf
      · exact hcr

theorem linesFrom_ne_nil (line cs : List Char) :
    linesFrom line cs ≠ [] := by
  fun_induction linesFrom line cs with
  | case5 line ch cs hcrlf hcr hlf ih => exact ih
  | case1 | case2 | case3 | case4 => exact List.cons_ne_nil _ _

theorem not_mem_of_mem_linesFrom {line cs : List Char}
    (hline : '\n' ∉ line) : ∀ l ∈ linesFrom line cs, '\n' ∉ l := by
  have hreverse : ∀ line : List Char, '\n' ∉ line → '\n' ∉ line.reverse :=
    fun line hline hmem => hline (List.mem_reverse.1 hmem)
  have hnil : ('\n' : Char) ∉ ([] : List Char) := List.not_mem_nil
  fun_induction linesFrom line cs with
  | case1 line =>
      intro l hl
      rw [List.mem_singleton.1 hl]
      exact hreverse line hline
  | case2 line cs ih | case3 line cs hlf ih | case4 line cs ih =>
      intro l hl
      rcases List.mem_cons.1 hl with rfl | hl
      · exact hreverse line hline
      · exact ih hnil l hl
  | case5 line ch cs hcrlf hcr hlf ih =>
      refine ih fun hmem => ?_
      rcases List.mem_cons.1 hmem with hch | hmem
      · exact hlf hch.symm
      · exact hline hmem

/-- The lines of a text, put together, are the text with one kind of
line break. -/
theorem joinLines_linesFrom (line cs : List Char) :
    joinLines (linesFrom line cs) = Text.unifyBreaksFrom line cs := by
  have hbreak : ∀ (line : List Char) (cs : List Char),
      joinLines (linesFrom [] cs) = Text.unifyBreaks cs →
        joinLines (line.reverse :: linesFrom [] cs)
          = Text.unifyBreaksFrom ('\n' :: line) cs := by
    intro line cs ih
    rw [unifyBreaksFrom_break, ← ih]
    cases hlines : linesFrom [] cs with
    | nil => exact absurd hlines (linesFrom_ne_nil [] cs)
    | cons first rest => rw [joinLines_cons_cons]
  induction line, cs using linesFrom.induct with
  | case1 line =>
      rw [linesFrom, Text.unifyBreaksFrom, joinLines_singleton]
  | case2 line cs ih =>
      rw [linesFrom, Text.unifyBreaksFrom]
      exact hbreak line cs ih
  | case3 line cs hlf ih =>
      rw [linesFrom, Text.unifyBreaksFrom]
      · exact hbreak line cs ih
      · exact hlf
      · exact hlf
  | case4 line cs ih =>
      have hne : ¬ '\n' = '\r' := by decide
      rw [linesFrom, Text.unifyBreaksFrom]
      · exact hbreak line cs ih
      · exact fun _ h => absurd h hne
      · exact hne
  | case5 line ch cs hcrlf hcr hlf ih =>
      rw [linesFrom, Text.unifyBreaksFrom]
      · exact ih
      · exact hcrlf
      · exact hcr
      · exact hcrlf
      · exact hcr
      · exact hlf

/-- Without an empty line at the end there is no break at the end. -/
theorem joinLines_dropFinalEmpty {lines : List (List Char)}
    (hjoined : joinLines lines ≠ [])
    (hlines : ∀ line ∈ lines, '\n' ∉ line) :
    dropFinalEmpty lines ≠ []
      ∧ joinLines (dropFinalEmpty lines)
          = dropFinalBreak (joinLines lines) := by
  rcases List.eq_nil_or_concat' lines with rfl | ⟨init, last, rfl⟩
  · exact absurd rfl hjoined
  · unfold dropFinalEmpty dropFinalBreak
    rw [List.getLast?_concat, joinLines_append_singleton]
    rw [joinLines_append_singleton] at hjoined
    rcases List.eq_nil_or_concat' last with rfl | ⟨front, ch, rfl⟩
    · -- the empty line at the end stands for the break before it
      rcases List.eq_nil_or_concat' init with rfl | ⟨others, line, rfl⟩
      · exact absurd rfl hjoined
      · have hbreak : (others ++ [line]).flatMap (· ++ ['\n'])
            = joinLines (others ++ [line]) ++ ['\n'] := by
          rw [joinLines_append_singleton, List.flatMap_append]
          simp
        rw [if_pos rfl, List.dropLast_concat, List.append_nil, hbreak,
          List.getLast?_concat, if_pos rfl, List.dropLast_concat]
        exact ⟨by simp, rfl⟩
    · have hch : ch ≠ '\n' := by
        rintro rfl
        exact hlines _ (List.mem_append_right _ List.mem_cons_self)
          (List.mem_append_right _ List.mem_cons_self)
      rw [if_neg (by simp), ← List.append_assoc, List.getLast?_concat,
        if_neg fun h => hch (Option.some.inj h), List.append_assoc,
        joinLines_append_singleton]
      exact ⟨by simp, rfl⟩

/-- The two passes over a sheet come to one. -/
theorem recordsWith_eq_scan (separator : Char) (cs : List Char) :
    recordsWith separator cs = scan separator cs := by
  unfold recordsWith scan
  by_cases hcs : cs = []
  · subst hcs
    rw [if_pos rfl]
    rfl
  · have hfree : ∀ line ∈ linesFrom [] cs, '\n' ∉ line :=
      not_mem_of_mem_linesFrom List.not_mem_nil
    have hjoined : joinLines (linesFrom [] cs) = Text.unifyBreaks cs :=
      joinLines_linesFrom [] cs
    have hne : joinLines (linesFrom [] cs) ≠ [] := by
      rw [hjoined]
      exact fun h => hcs (eq_nil_of_unifyBreaksFrom h).2
    obtain ⟨hlines, hdropped⟩ := joinLines_dropFinalEmpty hne hfree
    have hkept : ∀ line ∈ dropFinalEmpty (linesFrom [] cs),
        '\n' ∉ line := by
      intro line hline
      unfold dropFinalEmpty at hline
      split at hline
      · exact hfree line (List.dropLast_subset _ hline)
      · exact hfree line hline
    rw [if_neg hcs, group_eq_groupReading separator]
    show (groupReading separator []
      (dropFinalEmpty (linesFrom [] cs))).map _ = _
    rw [map_fields_groupReading [] hlines hkept, hdropped, hjoined]
    rfl

/-- Reading a sheet in two passes is reading it in one, for every text
and every separator. Grouping by counted quotes is grouping by the state
in which the field reader leaves each joined record. -/
theorem records_eq_scan (separator : Char) (text : String) :
    records (String.singleton separator) text
        = .ok ((scan separator text.toList).map (·.map String.ofList))
      ∧ (∀ lines, group lines = groupReading separator [] lines)
      ∧ (∀ record, fields (some separator) record
          = (readFrom separator .start record).record) := by
  refine ⟨?_, group_eq_groupReading separator, fields_eq separator⟩
  have hseparator : separator? (String.singleton separator)
      = some separator := by
    unfold separator?
    rw [String.toList_singleton]
  unfold records
  rw [hseparator]
  simp only
  rw [recordsWith_eq_scan]

/-- Runs of quotes, a quote in the middle of a field, a break inside
quotes and a quote that is never closed. -/
example : scan ',' "a\"\"\"b\r\nc\",\"\"\"\"\rd,\"e\n".toList
    = [["a\"b\nc".toList, "\"".toList], ["d".toList, "e".toList]] := by
  decide +kernel

end Storyline.Sheet
