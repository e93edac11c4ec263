/-
Writing sheets, and reading what was written. A record can be spelled in
many ways: any field may stand in quotes, and one that holds nothing
special may stand bare. Every spelling of every list of records reads
back as these records, but that the line breaks inside fields are all of
one kind then.

# What is compared

* `SpellsSheet`: the texts of a list of records, field by field
  (`Spells`), record by record (`SpellsRecord`), with one line break
  (`LineBreak`) behind every record;
* `scan`, the reader in one pass, which is the reader of sheets.

# What carries it

* making line breaks equal turns a spelling of a sheet into a spelling
  of the sheet with equal line breaks (`SpellsSheet.unifyBreaks`); it
  can be done piece by piece, because no spelled field ends in a
  carriage return;
* behind a spelled field the scanner holds just the field and is outside
  quotes (`Spells.scanFrom`), so a break there ends the record.

Main statement: `records_of_spelling`.
-/
import Storyline.Proofs.Sheet.OnePass

namespace Storyline.Sheet

-- ========================================================= the spellings

/-- The line breaks that may stand behind records. -/
inductive LineBreak where
  | lf
  | crlf
  | cr
deriving DecidableEq, Repr

/-- A line break as text. -/
def LineBreak.chars : LineBreak → List Char
  | .lf => ['\n']
  | .crlf => ['\r', '\n']
  | .cr => ['\r']

/-- A text with every quote twice. -/
def doubleQuotes : List Char → List Char
  | [] => []
  | '"' :: cs => '"' :: '"' :: doubleQuotes cs
  | ch :: cs => ch :: doubleQuotes cs

/-- A character that a field without quotes around it may hold. -/
def IsPlain (separator ch : Char) : Prop :=
  ch ≠ separator ∧ ch ≠ '"' ∧ ch ≠ '\r' ∧ ch ≠ '\n'

/-- A field and a text for it. -/
inductive Spells (separator : Char) : List Char → List Char → Prop where
  | bare {field : List Char} (plain : ∀ ch ∈ field, IsPlain separator ch) :
      Spells separator field field
  | quoted (field : List Char) :
      Spells separator field ('"' :: (doubleQuotes field ++ ['"']))

/-- A record and a text for it, which joins the texts of its fields. A
record has at least one field. -/
inductive SpellsRecord (separator : Char) :
    List (List Char) → List Char → Prop where
  | single {field cs : List Char} (first : Spells separator field cs) :
      SpellsRecord separator [field] cs
  | cons {field cs more : List Char} {rest : List (List Char)}
      (first : Spells separator field cs)
      (tail : SpellsRecord separator rest more) :
      SpellsRecord separator (field :: rest) (cs ++ separator :: more)

/-- Records and a text for them, which ends each of them by one and the
same line break. -/
inductive SpellsSheet (separator : Char) (lineBreak : LineBreak) :
    List (List (List Char)) → List Char → Prop where
  | nil : SpellsSheet separator lineBreak [] []
  | cons {record : List (List Char)} {cs more : List Char}
      {records : List (List (List Char))}
      (first : SpellsRecord separator record cs)
      (tail : SpellsSheet separator lineBreak records more) :
      SpellsSheet separator lineBreak (record :: records)
        (cs ++ (lineBreak.chars ++ more))

variable {separator : Char} {lineBreak : LineBreak} {ch : Char}
  {field cs more rest : List Char} {record : List (List Char)}
  {records : List (List (List Char))}

theorem doubleQuotes_quote (cs : List Char) :
    doubleQuotes ('"' :: cs) = '"' :: '"' :: doubleQuotes cs := by
  rw [doubleQuotes]

theorem doubleQuotes_other (h : ch ≠ '"') :
    doubleQuotes (ch :: cs) = ch :: doubleQuotes cs := by
  rw [doubleQuotes]
  exact h

/-- Quotes around every field make a text for a record. -/
theorem exists_spellsRecord (separator : Char) (h : record ≠ []) :
    ∃ cs, SpellsRecord separator record cs := by
  induction record with
  | nil => exact absurd rfl h
  | cons field rest ih =>
      cases rest with
      | nil => exact ⟨_, .single (.quoted field)⟩
      | cons second rest =>
          obtain ⟨more, hmore⟩ := ih (List.cons_ne_nil second rest)
          exact ⟨_, .cons (.quoted field) hmore⟩

/-- Every list of records with fields has a text. -/
theorem exists_spellsSheet (separator : Char) (lineBreak : LineBreak)
    (h : ∀ record ∈ records, record ≠ []) :
    ∃ cs, SpellsSheet separator lineBreak records cs := by
  induction records with
  | nil => exact ⟨[], .nil⟩
  | cons record records ih =>
      obtain ⟨cs, hcs⟩ :=
        exists_spellsRecord separator (h record List.mem_cons_self)
      obtain ⟨more, hmore⟩ :=
        ih fun other hother => h other (List.mem_cons_of_mem _ hother)
      exact ⟨_, .cons hcs hmore⟩

-- ==================================================== equal line breaks

open Text (unifyBreaks)

theorem unifyBreaks_crlf (cs : List Char) :
    unifyBreaks ('\r' :: '\n' :: cs) = '\n' :: unifyBreaks cs := by
  show Text.unifyBreaksFrom [] _ = _
  rw [Text.unifyBreaksFrom]
  exact unifyBreaksFrom_break [] cs

theorem unifyBreaks_cr (h : cs.head? ≠ some '\n') :
    unifyBreaks ('\r' :: cs) = '\n' :: unifyBreaks cs := by
  show Text.unifyBreaksFrom [] _ = _
  rw [Text.unifyBreaksFrom]
  · exact unifyBreaksFrom_break [] cs
  · rintro after rfl
    exact h rfl

theorem unifyBreaks_other (h : ch ≠ '\r') :
    unifyBreaks (ch :: cs) = ch :: unifyBreaks cs := by
  show Text.unifyBreaksFrom [] _ = _
  rw [Text.unifyBreaksFrom]
  · exact unifyBreaksFrom_append [] [ch] cs
  · rintro after rfl
    exact absurd rfl h
  · exact h

/-- What holds at the end of a text holds of a text whose line breaks
are made equal, if it holds in front of every line break and of every
other character. -/
theorem breaks_induction {motive : List Char → Prop} (finish : motive [])
    (crlf : ∀ cs, motive cs → motive ('\r' :: '\n' :: cs))
    (cr : ∀ cs, cs.head? ≠ some '\n' → motive cs → motive ('\r' :: cs))
    (other : ∀ ch cs, ch ≠ '\r' → motive cs → motive (ch :: cs))
    (cs : List Char) : motive cs := by
  induction hn : cs.length using Nat.strongRecOn generalizing cs with
  | ind n ih =>
      cases cs with
      | nil => exact finish
      | cons ch cs =>
          rw [List.length_cons] at hn
          have hrest := ih cs.length (by omega) cs rfl
          by_cases hcr : ch = '\r'
          · subst hcr
            by_cases hlf : cs.head? = some '\n'
            · cases cs with
              | nil => cases hlf
              | cons second cs =>
                  cases hlf
                  rw [List.length_cons] at hn
                  exact crlf cs (ih cs.length (by omega) cs rfl)
            · exact cr cs hlf hrest
          · exact other ch cs hcr hrest

/-- Line breaks can be made equal on both sides of a cut that does not
go through one. -/
theorem unifyBreaks_append (hcut : cs.getLast? ≠ some '\r') :
    unifyBreaks (cs ++ rest) = unifyBreaks cs ++ unifyBreaks rest := by
  induction cs using breaks_induction with
  | finish => rfl
  | crlf cs ih =>
      have hlast : cs.getLast? ≠ some '\r' := by
        intro h
        cases cs with
        | nil => cases h
        | cons ch cs => exact hcut h
      show unifyBreaks ('\r' :: '\n' :: (cs ++ rest)) = _
      rw [unifyBreaks_crlf, unifyBreaks_crlf, ih hlast, List.cons_append]
  | cr cs hcs ih =>
      cases cs with
      | nil => exact absurd rfl hcut
      | cons ch cs =>
          have happend : (ch :: cs ++ rest).head? ≠ some '\n' := hcs
          show unifyBreaks ('\r' :: (ch :: cs ++ rest)) = _
          rw [unifyBreaks_cr happend, unifyBreaks_cr hcs, ih hcut,
            List.cons_append]
  | other ch cs hch ih =>
      have hlast : cs.getLast? ≠ some '\r' := by
        intro h
        cases cs with
        | nil => cases h
        | cons second cs => exact hcut h
      show unifyBreaks (ch :: (cs ++ rest)) = _
      rw [unifyBreaks_other hch, unifyBreaks_other hch, ih hlast,
        List.cons_append]

/-- Each kind of line break becomes the same one. -/
theorem unifyBreaks_lineBreak
    (h : lineBreak = .cr → rest.head? ≠ some '\n') :
    unifyBreaks (lineBreak.chars ++ rest) = '\n' :: unifyBreaks rest := by
  cases lineBreak with
  | lf => exact unifyBreaks_other (by decide)
  | crlf => exact unifyBreaks_crlf rest
  | cr => exact unifyBreaks_cr (h rfl)

/-- Making line breaks equal leaves the quotes doubled. -/
theorem unifyBreaks_doubleQuotes (field rest : List Char) :
    unifyBreaks (doubleQuotes field ++ '"' :: rest)
      = doubleQuotes (unifyBreaks field) ++ '"' :: unifyBreaks rest := by
  have hcr : ('\r' : Char) ≠ '"' := by decide
  have hlf : ('\n' : Char) ≠ '"' := by decide
  have hquote : ('"' : Char) ≠ '\r' := by decide
  induction field using breaks_induction with
  | finish => exact unifyBreaks_other hquote
  | crlf cs ih =>
      rw [doubleQuotes_other hcr, doubleQuotes_other hlf, unifyBreaks_crlf,
        doubleQuotes_other hlf]
      show unifyBreaks ('\r' :: '\n' :: (doubleQuotes cs ++ '"' :: rest)) = _
      rw [unifyBreaks_crlf, ih]
      rfl
  | cr cs hcs ih =>
      -- what follows the carriage return is no line feed, be it a
      -- character of the field or the quote behind it
      have hhead : (doubleQuotes cs ++ '"' :: rest).head? ≠ some '\n' := by
        cases cs with
        | nil => simp [doubleQuotes]
        | cons ch cs =>
            by_cases hch : ch = '"'
            · subst hch
              simp [doubleQuotes_quote]
            · simpa [doubleQuotes_other hch] using hcs
      rw [doubleQuotes_other hcr, unifyBreaks_cr hcs,
        doubleQuotes_other hlf]
      show unifyBreaks ('\r' :: (doubleQuotes cs ++ '"' :: rest)) = _
      rw [unifyBreaks_cr hhead, ih]
      rfl
  | other ch cs hch ih =>
      rw [unifyBreaks_other hch]
      by_cases hq : ch = '"'
      · subst hq
        rw [doubleQuotes_quote, doubleQuotes_quote]
        show unifyBreaks ('"' :: '"' :: (doubleQuotes cs ++ '"' :: rest)) = _
        rw [unifyBreaks_other hquote, unifyBreaks_other hquote, ih]
        rfl
      · rw [doubleQuotes_other hq, doubleQuotes_other hq]
        show unifyBreaks (ch :: (doubleQuotes cs ++ '"' :: rest)) = _
        rw [unifyBreaks_other hch, ih]
        rfl

/-- A text without carriage returns stays as it is. -/
theorem unifyBreaks_of_not_mem (h : '\r' ∉ cs) : unifyBreaks cs = cs := by
  induction cs with
  | nil => rfl
  | cons ch cs ih =>
      rw [List.mem_cons, not_or] at h
      rw [unifyBreaks_other (Ne.symm h.1), ih h.2]

theorem unifyBreaks_of_plain (h : ∀ ch ∈ cs, IsPlain separator ch) :
    unifyBreaks cs = cs :=
  unifyBreaks_of_not_mem fun hmem => (h _ hmem).2.2.1 rfl

/-- A character that can set fields apart. -/
def IsSeparator (separator : Char) : Prop :=
  separator ≠ '"' ∧ separator ≠ '\r' ∧ separator ≠ '\n'

namespace Spells

theorem getLast?_ne (h : Spells separator field cs) :
    cs.getLast? ≠ some '\r' := by
  cases h with
  | bare plain =>
      intro hlast
      exact (plain '\r' (List.mem_of_getLast? hlast)).2.2.1 rfl
  | quoted =>
      rw [← List.cons_append, List.getLast?_concat]
      decide

theorem head?_ne (h : Spells separator field cs) :
    cs.head? ≠ some '\n' := by
  cases h with
  | bare plain =>
      intro hhead
      exact (plain '\n' (List.mem_of_head? hhead)).2.2.2 rfl
  | quoted => simp

theorem unifyBreaks (h : Spells separator field cs) :
    Spells separator (Text.unifyBreaks field) (Text.unifyBreaks cs) := by
  cases h with
  | bare plain =>
      rw [unifyBreaks_of_plain plain]
      exact .bare plain
  | quoted =>
      rw [unifyBreaks_other (by decide), unifyBreaks_doubleQuotes]
      exact .quoted _

end Spells

namespace SpellsRecord

/-- In front of a separator line breaks are made equal apart. -/
theorem unifyBreaks_cons (hsep : IsSeparator separator)
    (first : Spells separator field cs) (rest : List Char) :
    Text.unifyBreaks (cs ++ separator :: rest)
      = Text.unifyBreaks cs ++ separator :: Text.unifyBreaks rest := by
  rw [unifyBreaks_append first.getLast?_ne, unifyBreaks_other hsep.2.1]

/-- Behind a record line breaks are made equal apart. -/
theorem unifyBreaks_append (hsep : IsSeparator separator)
    (h : SpellsRecord separator record cs) (rest : List Char) :
    Text.unifyBreaks (cs ++ rest)
      = Text.unifyBreaks cs ++ Text.unifyBreaks rest := by
  induction h with
  | single first => exact Sheet.unifyBreaks_append first.getLast?_ne
  | cons first tail ih =>
      rw [List.append_assoc, List.cons_append, unifyBreaks_cons hsep first,
        unifyBreaks_cons hsep first, ih, List.append_assoc]
      rfl

theorem unifyBreaks (hsep : IsSeparator separator)
    (h : SpellsRecord separator record cs) :
    SpellsRecord separator (record.map Text.unifyBreaks)
      (Text.unifyBreaks cs) := by
  induction h with
  | single first => exact .single first.unifyBreaks
  | cons first tail ih =>
      rw [unifyBreaks_cons hsep first]
      exact .cons first.unifyBreaks ih

theorem head?_ne (hsep : IsSeparator separator)
    (h : SpellsRecord separator record cs) (rest : List Char)
    (hrest : rest.head? ≠ some '\n') : (cs ++ rest).head? ≠ some '\n' := by
  have hfirst : ∀ {field cs rest : List Char}, Spells separator field cs →
      rest.head? ≠ some '\n' → (cs ++ rest).head? ≠ some '\n' := by
    intro field cs rest first hrest
    cases cs with
    | nil => exact hrest
    | cons ch cs => exact first.head?_ne
  cases h with
  | single first => exact hfirst first hrest
  | cons first tail =>
      rw [List.append_assoc]
      exact hfirst first fun h => hsep.2.2 (Option.some.inj h)

end SpellsRecord

namespace SpellsSheet

/-- A sheet with carriage returns behind its records does not begin with
a line feed, not even where the first record is a single empty field. -/
theorem head?_ne (hsep : IsSeparator separator)
    (h : SpellsSheet separator .cr records cs) :
    cs.head? ≠ some '\n' := by
  cases h with
  | nil => simp
  | cons first tail => exact first.head?_ne hsep _ (by simp [LineBreak.chars])

/-- Making line breaks equal turns a text for records into a text for
the records with equal line breaks. -/
theorem unifyBreaks (hsep : IsSeparator separator)
    (h : SpellsSheet separator lineBreak records cs) :
    SpellsSheet separator .lf (records.map (·.map Text.unifyBreaks))
      (Text.unifyBreaks cs) := by
  induction h with
  | nil => exact .nil
  | cons first tail ih =>
      rw [first.unifyBreaks_append hsep, unifyBreaks_lineBreak]
      · exact .cons (first.unifyBreaks hsep) ih
      · rintro rfl
        exact tail.head?_ne hsep

end SpellsSheet

-- ============================================================== scanning

variable {front : List Char} {fields : List (List Char)}

/-- Inside quotes the scanner reads doubled quotes back, up to the quote
that closes. -/
theorem scanFrom_doubleQuotes (hrest : rest.head? ≠ some '"') :
    scanFrom separator ⟨true, front, fields⟩
        (doubleQuotes field ++ '"' :: rest)
      = scanFrom separator ⟨false, field.reverse ++ front, fields⟩ rest := by
  induction field generalizing front with
  | nil => exact scanFrom_quote fun _ => hrest
  | cons ch field ih =>
      rw [List.reverse_cons, List.append_assoc]
      by_cases hch : ch = '"'
      · subst hch
        rw [doubleQuotes_quote]
        show scanFrom separator _
          ('"' :: '"' :: (doubleQuotes field ++ '"' :: rest)) = _
        rw [scanFrom_doubled rfl]
        exact ih
      · rw [doubleQuotes_other hch]
        show scanFrom separator _
          (ch :: (doubleQuotes field ++ '"' :: rest)) = _
        rw [scanFrom_other hch, if_pos rfl]
        exact ih

/-- Outside quotes the scanner reads plain characters as they are. -/
theorem scanFrom_plain (h : ∀ ch ∈ field, IsPlain separator ch) :
    scanFrom separator ⟨false, front, fields⟩ (field ++ rest)
      = scanFrom separator ⟨false, field.reverse ++ front, fields⟩ rest := by
  induction field generalizing front with
  | nil => rfl
  | cons ch field ih =>
      obtain ⟨hsep, hquote, -, hbreak⟩ := h ch List.mem_cons_self
      rw [List.reverse_cons, List.append_assoc, List.cons_append,
        scanFrom_other hquote, if_neg Bool.false_ne_true, if_neg hbreak,
        if_neg hsep]
      exact ih fun other hother => h other (List.mem_cons_of_mem _ hother)

/-- Behind a text for a field the scanner holds the field. -/
theorem Spells.scanFrom (h : Spells separator field cs)
    (hrest : rest.head? ≠ some '"') :
    Sheet.scanFrom separator ⟨false, [], fields⟩ (cs ++ rest)
      = Sheet.scanFrom separator ⟨false, field.reverse, fields⟩ rest := by
  cases h with
  | bare plain =>
      rw [scanFrom_plain plain, List.append_nil]
  | quoted =>
      rw [List.cons_append, List.append_assoc,
        scanFrom_quote fun hin => absurd hin Bool.false_ne_true]
      show Sheet.scanFrom separator ⟨true, [], fields⟩
        (doubleQuotes field ++ '"' :: rest) = _
      rw [scanFrom_doubleQuotes hrest, List.append_nil]

/-- Behind a text for a record the scanner holds its last field, and the
others before it. -/
theorem SpellsRecord.scanFrom (hsep : IsSeparator separator)
    (h : SpellsRecord separator record cs) (fields : List (List Char))
    (hrest : rest.head? ≠ some '"') :
    ∃ cursor : Cursor, cursor.inQuotes = false
      ∧ cursor.record = fields.reverse ++ record
      ∧ Sheet.scanFrom separator ⟨false, [], fields⟩ (cs ++ rest)
          = Sheet.scanFrom separator cursor rest := by
  induction h generalizing fields with
  | @single field cs first =>
      refine ⟨⟨false, field.reverse, fields⟩, rfl, ?_, first.scanFrom hrest⟩
      simp [Cursor.record]
  | @cons field cs more others first tail ih =>
      obtain ⟨cursor, hin, hrecord, hscan⟩ := ih (field :: fields)
      refine ⟨cursor, hin, ?_, ?_⟩
      · rw [hrecord, List.reverse_cons, List.append_assoc]
        rfl
      · have hhead : (separator :: (more ++ rest)).head? ≠ some '"' :=
          fun h => hsep.1 (Option.some.inj h)
        rw [List.append_assoc, List.cons_append, first.scanFrom hhead,
          scanFrom_other hsep.1, if_neg Bool.false_ne_true,
          if_neg hsep.2.2, if_pos rfl, ← hscan]
        show Sheet.scanFrom separator
          ⟨false, [], field.reverse.reverse :: fields⟩ (more ++ rest) = _
        rw [List.reverse_reverse]

/-- Without the line break at its end a text for records is scanned into
just these. -/
theorem SpellsSheet.scanFrom (hsep : IsSeparator separator)
    (h : SpellsSheet separator .lf records cs) (hne : records ≠ []) :
    ∃ body, cs = body ++ ['\n']
      ∧ Sheet.scanFrom separator .start body = records := by
  induction h with
  | nil => exact absurd rfl hne
  | @cons record cs more records first tail ih =>
      by_cases hrecords : records = []
      · subst hrecords
        cases tail
        have hend : ([] : List Char).head? ≠ some '"' := by simp
        obtain ⟨cursor, -, hrecord, hscan⟩ := first.scanFrom hsep [] hend
        rw [List.append_nil] at hscan
        refine ⟨cs, rfl, ?_⟩
        show Sheet.scanFrom separator ⟨false, [], []⟩ cs = _
        rw [hscan]
        show [cursor.record] = _
        rw [hrecord]
        rfl
      · obtain ⟨body, rfl, hbody⟩ := ih hrecords
        have hbreak : ('\n' :: body).head? ≠ some '"' := by simp
        obtain ⟨cursor, hin, hrecord, hscan⟩ :=
          first.scanFrom hsep [] hbreak
        refine ⟨cs ++ '\n' :: body, by simp [LineBreak.chars], ?_⟩
        show Sheet.scanFrom separator ⟨false, [], []⟩ _ = _
        rw [hscan, scanFrom_other (by decide), hin,
          if_neg Bool.false_ne_true, if_pos rfl, hbody, hrecord]
        rfl

/-- Scanning a text for records gives the records with equal line
breaks. -/
theorem SpellsSheet.scan (hsep : IsSeparator separator)
    (h : SpellsSheet separator lineBreak records cs) :
    Sheet.scan separator cs = records.map (·.map Text.unifyBreaks) := by
  have hunified := h.unifyBreaks hsep
  unfold Sheet.scan
  cases h with
  | nil => rfl
  | @cons record first more records hfirst tail =>
      obtain ⟨body, hbody, hscan⟩ :=
        hunified.scanFrom hsep (List.cons_ne_nil _ _)
      have hne : first ++ (lineBreak.chars ++ more) ≠ [] := by
        cases lineBreak <;> simp [LineBreak.chars]
      rw [if_neg hne, hbody]
      unfold dropFinalBreak
      rw [List.getLast?_concat, if_pos rfl, List.dropLast_concat, hscan]

-- ============================================================= round trip

/-- The characters of the records of a sheet. -/
def recordChars (rows : List (List String)) : List (List (List Char)) :=
  rows.map (·.map String.toList)

/-- A field with one kind of line break. -/
def unifiedField (field : String) : String :=
  String.ofList (Text.unifyBreaks field.toList)

/-- Reading undoes writing. Every list of records with fields can be
written, for every separator and line break; and in whatever way it was
written, with quotes around any of the fields and around all of those
that need them, reading gives back these records with these fields, and
in each field one kind of line break. -/
theorem records_of_spelling (hsep : IsSeparator separator)
    (lineBreak : LineBreak) (rows : List (List String))
    (hrows : ∀ row ∈ rows, row ≠ []) :
    (∃ text, SpellsSheet separator lineBreak (recordChars rows) text)
      ∧ ∀ text : String,
          SpellsSheet separator lineBreak (recordChars rows) text.toList →
          Sheet.records (String.singleton separator) text
            = .ok (rows.map (·.map unifiedField)) := by
  constructor
  · refine exists_spellsSheet separator lineBreak fun record hrecord => ?_
    obtain ⟨row, hrow, rfl⟩ := List.mem_map.1 hrecord
    simpa using hrows row hrow
  · intro text htext
    have hseparator : separator? (String.singleton separator)
        = some separator := by
      unfold separator?
      rw [String.toList_singleton]
    unfold Sheet.records
    rw [hseparator]
    simp only
    rw [recordsWith_eq_scan, htext.scan hsep, recordChars, List.map_map,
      List.map_map]
    refine congrArg Except.ok (List.map_congr_left fun row _ => ?_)
    rw [Function.comp_apply, Function.comp_apply, List.map_map, List.map_map]
    rfl

/-- Records with a quote, an empty field and nothing else, both kinds of
breaks inside a field and one at its end, and a field of quotes. -/
def oddRows : List (List String) :=
  [["a\"b", ""], [""], ["x\r\ny\r", "\"\""]]

/-- A text for these records, with quotes only where they are needed and
a carriage return behind every record. -/
def oddText : String := "\"a\"\"b\";\r\r\"x\r\ny\r\";\"\"\"\"\"\"\r"

/-- The record of one empty field stays a record, and the carriage return
behind it joins no other break. -/
theorem records_oddText :
    Sheet.records ";" oddText
      = .ok [["a\"b", ""], [""], ["x\ny\n", "\"\""]] := by
  have hsep : IsSeparator ';' := ⟨by decide, by decide, by decide⟩
  have hempty : Spells ';' [] [] :=
    .bare fun _ hch => absurd hch List.not_mem_nil
  have hspelled : SpellsSheet ';' .cr (recordChars oddRows)
      oddText.toList :=
    .cons (.cons (.quoted ['a', '"', 'b']) (.single hempty))
      (.cons (.single hempty)
        (.cons (.cons (.quoted ['x', '\r', '\n', 'y', '\r'])
          (.single (.quoted ['"', '"']))) .nil))
  have hread := (records_of_spelling hsep .cr oddRows (by decide)).2
    oddText hspelled
  have hunified : oddRows.map (·.map unifiedField)
      = [["a\"b", ""], [""], ["x\ny\n", "\"\""]] := by decide +kernel
  rw [hunified] at hread
  exact hread

end Storyline.Sheet
