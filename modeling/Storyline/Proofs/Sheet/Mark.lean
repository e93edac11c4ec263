/-
A byte order mark in front of a sheet. Nothing takes the mark out of the
text: it goes through the lines, the quotes and the fields as any other
character, and a quote that stood at the start of the first field stands
behind it then. Only the cleaning of header cells drops it.

# What is compared

The two scans of a text, with the mark and without. All along they stand
alike but for the mark (`Cursor.Marked`), which lies at the bottom of the
first field, so in the end it is in front of the first field of the first
record (`markFirst`). That field is a cell of the header.

Main statement: `load_of_marked`.
-/
import Storyline.Proofs.Sheet.Required
import Storyline.Proofs.Sheet.Spelling

namespace Storyline

namespace Sheet

variable {mark separator : Char} {cursor marked : Cursor} {cs : List Char}

-- ============================================================ the mark

/-- Two cursors that stand alike, one of them with a mark in front of the
first field. -/
inductive Cursor.Marked (mark : Char) : Cursor → Cursor → Prop where
  /-- The first field is being read. -/
  | first (inQuotes : Bool) (field : List Char) :
      Marked mark ⟨inQuotes, field, []⟩ ⟨inQuotes, field ++ [mark], []⟩
  /-- The first field was read before. -/
  | later (inQuotes : Bool) (field front : List Char)
      (fields : List (List Char)) :
      Marked mark ⟨inQuotes, field, fields ++ [front]⟩
        ⟨inQuotes, field, fields ++ [mark :: front]⟩

/-- Records with a mark in front of the first field. -/
def markFirst (mark : Char) :
    List (List (List Char)) → List (List (List Char))
  | (field :: fields) :: rest => ((mark :: field) :: fields) :: rest
  | records => records

namespace Cursor.Marked

theorem inQuotes (h : Marked mark cursor marked) :
    marked.inQuotes = cursor.inQuotes := by
  cases h with
  | first => rfl
  | later => rfl

theorem push (h : Marked mark cursor marked) (ch : Char) :
    Marked mark (cursor.push ch) (marked.push ch) := by
  cases h with
  | first inQuotes field => exact .first inQuotes (ch :: field)
  | later inQuotes field front fields =>
      exact .later inQuotes (ch :: field) front fields

theorem toggle (h : Marked mark cursor marked) :
    Marked mark cursor.toggle marked.toggle := by
  cases h with
  | first inQuotes field => exact .first (!inQuotes) field
  | later inQuotes field front fields =>
      exact .later (!inQuotes) field front fields

theorem next (h : Marked mark cursor marked) :
    Marked mark cursor.next marked.next := by
  cases h with
  | first inQuotes field =>
      have hfield := @later mark inQuotes [] field.reverse []
      unfold Cursor.next
      simpa using hfield
  | later inQuotes field front fields =>
      exact .later inQuotes [] front (field.reverse :: fields)

/-- The record that ends here begins with the mark. -/
theorem record (h : Marked mark cursor marked)
    (rest : List (List (List Char))) :
    markFirst mark (cursor.record :: rest) = marked.record :: rest := by
  cases h with
  | first inQuotes field => simp [Cursor.record, markFirst]
  | later inQuotes field front fields => simp [Cursor.record, markFirst]

end Cursor.Marked

/-- Whatever is read from here on, the mark stays in front. -/
theorem scanFrom_marked (h : cursor.Marked mark marked) (cs : List Char) :
    scanFrom separator marked cs
      = markFirst mark (scanFrom separator cursor cs) := by
  induction cursor, cs using reading_induction generalizing marked with
  | finish cursor => exact (h.record []).symm
  | doubled cursor cs hin ih =>
      have hmarked := h.inQuotes.trans hin
      rw [scanFrom_doubled hin, scanFrom_doubled hmarked, ih (h.push '"')]
  | quote cursor cs hcs ih =>
      rw [scanFrom_quote hcs, scanFrom_quote, ih h.toggle]
      rwa [h.inQuotes]
  | other cursor ch cs hch ih =>
      rw [scanFrom_other hch, scanFrom_other hch, h.inQuotes]
      split
      · exact ih _ (h.push ch)
      · split
        · exact (h.record _).symm
        · split
          · exact ih _ h.next
          · exact ih _ (h.push ch)

/-- A character that scanning takes as it is. -/
structure IsMark (separator mark : Char) : Prop where
  notQuote : mark ≠ '"'
  notFeed : mark ≠ '\n'
  notReturn : mark ≠ '\r'
  notSeparator : mark ≠ separator

theorem dropFinalBreak_cons (h : mark ≠ '\n') (cs : List Char) :
    dropFinalBreak (mark :: cs) = mark :: dropFinalBreak cs := by
  unfold dropFinalBreak
  cases cs with
  | nil => simp [h]
  | cons ch rest =>
      rw [List.getLast?_cons_cons, List.dropLast_cons_of_ne_nil (by simp)]
      split
      · rfl
      · rfl

/-- A mark in front of a text is in front of its first field. -/
theorem scan_marked (hmark : IsMark separator mark) (hcs : cs ≠ []) :
    scan separator (mark :: cs) = markFirst mark (scan separator cs) := by
  unfold scan
  rw [if_neg (List.cons_ne_nil mark cs), if_neg hcs,
    unifyBreaks_other hmark.notReturn, dropFinalBreak_cons hmark.notFeed,
    scanFrom_other hmark.notQuote]
  simp only [Cursor.start, Bool.false_eq_true, if_false, if_neg hmark.notFeed,
    if_neg hmark.notSeparator]
  exact scanFrom_marked (.first false []) _

end Sheet

-- ========================================================== the header

theorem Header.cleanCell_marked (field : List Char) :
    cleanCell (String.ofList (byteOrderMark :: field))
      = cleanCell (String.ofList field) := by
  unfold cleanCell Text.dropEnds
  rw [String.toList_ofList, String.toList_ofList,
    List.dropWhile_cons_of_pos (by decide)]

/-- The mark is in a header cell, or nowhere. -/
theorem Table.ofRecords_marked (path : Path) (required : List String)
    (records : List (List (List Char))) :
    ofRecords path required ((Sheet.markFirst Header.byteOrderMark records).map
        (·.map String.ofList))
      = ofRecords path required (records.map (·.map String.ofList)) := by
  rcases records with _ | ⟨_ | ⟨field, fields⟩, rest⟩
  · rfl
  · rfl
  · have hheader : Header.ofRecord
          (((Header.byteOrderMark :: field) :: fields).map String.ofList)
        = Header.ofRecord ((field :: fields).map String.ofList) := by
      unfold Header.ofRecord
      simp only [List.map_cons, Header.cleanCell_marked]
    show ofRecords path required
        (((Header.byteOrderMark :: field) :: fields).map String.ofList
          :: rest.map (·.map String.ofList)) = _
    unfold ofRecords
    simp only [List.map_cons] at hheader ⊢
    rw [hheader]

section Loading

variable {tree marked : FileTree} {separator encoding other : String}
  {path : Path} {text : String}

/-- A table is the same with a mark in front of its text. -/
theorem Table.read_marked (hseparator : separator ≠ "\ufeff")
    (htext : text ≠ "") (hplain : Sheet.readText tree encoding path = .ok text)
    (hmarked : Sheet.readText marked other path = .ok ("\ufeff" ++ text))
    (required : List String) :
    read marked ⟨separator, other⟩ path required
      = read tree ⟨separator, encoding⟩ path required := by
  unfold read Sheet.readRecords
  rw [hplain, hmarked]
  show Sheet.records separator ("\ufeff" ++ text) >>= _
    = Sheet.records separator text >>= _
  unfold Sheet.records
  cases hchar : Sheet.separator? separator with
  | none => rfl
  | some ch =>
      have hmark : Sheet.IsMark ch Header.byteOrderMark := by
        refine ⟨by decide, by decide, by decide, fun hsame => ?_⟩
        apply hseparator
        unfold Sheet.separator? at hchar
        split at hchar
        · next c hc =>
          cases hchar
          rw [← String.ofList_toList (s := separator), hc, ← hsame]
          rfl
        · cases hchar
      have hchars : ("\ufeff" ++ text).toList
          = Header.byteOrderMark :: text.toList := by
        rw [String.toList_append]
        rfl
      simp only
      rw [hchars, Sheet.recordsWith_eq_scan, Sheet.recordsWith_eq_scan,
        Sheet.scan_marked hmark (by simpa using htext)]
      exact ofRecords_marked path required _

/-- A byte order mark in front of a sheet changes nothing. Whatever the
text, if there is any, and however it begins, with a quote, with spaces,
with marks of its own, in the middle of a cell of several lines: every
loader makes the same of the text and of the text behind a mark, rows or
error, whatever it asks for. The two files may be stored in different
ways. Only a mark that sets fields apart is another thing. -/
theorem Sheet.load_of_marked (hseparator : separator ≠ "\ufeff")
    (htext : text ≠ "") (hplain : readText tree encoding path = .ok text)
    (hmarked : readText marked other path = .ok ("\ufeff" ++ text)) :
    LoadsAlike tree ⟨separator, encoding⟩ marked ⟨separator, other⟩ path := by
  have hread := Table.read_marked hseparator htext hplain hmarked
  refine .of_tables (fun required => ?_) (fun required => ?_)
  · rw [hread]
  · rw [hread]

end Loading

/-- A sheet whose first header cell is quoted, has a mark of its own and
goes on over the end of its line. -/
def quotedText : String := "\"\ufeffid\n\",displayName\n1,Ann\n"

/-- A tree with a sheet of a text in UTF-8. -/
def textTree (text : String) : FileTree :=
  ⟨[(["sheet"], .file (Text.utf8Bytes text))]⟩

/-- With a mark in front, the quote of that cell is no longer the first
character of the sheet. -/
theorem load_quotedText :
    Sheet.loadActors (textTree ("\ufeff" ++ quotedText)) ⟨",", "utf-8"⟩
        (.ofString "sheet") = .ok [(1, "Ann")] := by
  have hload := @Sheet.load_of_marked (textTree quotedText)
    (textTree ("\ufeff" ++ quotedText)) "," "utf-8" "utf-8"
    (.ofString "sheet") quotedText (by decide) (by decide)
    (by decide +kernel) (by decide +kernel)
  rw [hload.actors]
  decide +kernel

end Storyline
