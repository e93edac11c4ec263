/-
What is printed of a report. A report is entered into the log whatever it
says, but its line is printed there and then, and a row number of too many
digits cannot be. So a report either has a line, the one that its numbers
give in base ten (`Diagnostic.shown`), or ends what is going on with one
and the same error, whichever report of a list it is
(`Diagnostic.log_eq`).
-/
import Storyline.Diagnostic
import Storyline.Proofs.Numeral
import Storyline.Proofs.Steps

namespace Storyline

/-- The error of printing, if something cannot be printed. -/
def printFault? (printable : Bool) : Option Error :=
  if printable then none else some .unprintableNumber

theorem printFault?_eq_none_iff {printable : Bool} :
    printFault? printable = none ↔ printable = true := by
  cases printable <;> simp [printFault?]

theorem eq_of_printFault? {printable : Bool} {e : Error}
    (h : printFault? printable = some e) : e = .unprintableNumber := by
  cases printable with
  | true => cases h
  | false => exact (Option.some.inj h).symm

/-- Several things are printed when each of them can be. -/
theorem printFault?_all {α : Type} (l : List α) (printable : α → Bool) :
    printFault? (l.all printable)
      = l.findSome? fun a => printFault? (printable a) := by
  induction l with
  | nil => rfl
  | cons a rest ih =>
      rw [StopsAt.findSome?_cons, List.all_cons, ← ih]
      cases printable a <;> rfl

/-- A step that goes through when something can be printed. -/
theorem stopsAt_printFault? {α : Type} (printable : Bool) (a : α) :
    StopsAt (printFault? printable)
      (if printable then Except.ok a else .error .unprintableNumber) := by
  cases printable with
  | true => exact ⟨a, rfl⟩
  | false => rfl

-- ============================================================== numbers

namespace Numeral

theorem print_of_isPrintable {z : Int} (h : isPrintable z = true) :
    print z = .ok (text z) := if_pos h

theorem print_of_not_isPrintable {z : Int} (h : isPrintable z = false) :
    print z = .error .unprintableNumber :=
  if_neg (by rw [h]; exact Bool.false_ne_true)

theorem print_eq_ok {z : Int} {s : String} (h : print z = .ok s) :
    s = text z := by
  unfold print at h
  split at h <;> cases h
  rfl

/-- A number that is read from a text can be printed. -/
theorem isPrintable_of_readChars {cs : List Char} {z : Int}
    (h : readChars cs = .integer z) : isPrintable z = true := by
  unfold isPrintable
  exact decide_eq_true (length_natChars_of_readChars h)

end Numeral

-- ============================================================== reports

namespace Diagnostic

/-- Whether a report can be printed: it is about no row, or the number of
its row is not too long. -/
def isPrintable (d : Diagnostic) : Bool :=
  d.rowNumber.all Numeral.isPrintable

/-- A report as a line of text, whatever the number of its row. -/
def shown (d : Diagnostic) : String :=
  d.line (d.rowNumber.map Numeral.text)

theorem text_eq (d : Diagnostic) :
    d.text
      = if d.isPrintable then .ok d.shown else .error .unprintableNumber := by
  unfold text isPrintable shown
  cases d.rowNumber with
  | none => rfl
  | some row =>
      cases h : Numeral.isPrintable row with
      | true => simp [Numeral.print_of_isPrintable h, h]
      | false => simp [Numeral.print_of_not_isPrintable h, h]

/-- Reports are entered into the log when all of them can be printed. -/
theorem log_eq (reports : List Diagnostic) :
    log reports
      = if reports.all isPrintable then .ok ()
        else .error .unprintableNumber := by
  induction reports with
  | nil => rfl
  | cons d rest ih =>
      show (discard d.text >>= fun _ => log rest) = _
      rw [text_eq, ih, List.all_cons]
      cases d.isPrintable <;> rfl

theorem log_eq_ok_iff {reports : List Diagnostic} :
    log reports = .ok () ↔ ∀ d ∈ reports, d.isPrintable = true := by
  rw [log_eq, ← List.all_eq_true]
  cases reports.all isPrintable <;> simp

theorem log_append {reports more : List Diagnostic}
    (h : log reports = .ok ()) (hmore : log more = .ok ()) :
    log (reports ++ more) = .ok () := by
  rw [log_eq_ok_iff] at h hmore ⊢
  intro d hd
  exact (List.mem_append.1 hd).elim (h d) (hmore d)

theorem stopsAt_log (reports : List Diagnostic) :
    StopsAt (printFault? (reports.all isPrintable)) (log reports) := by
  rw [log_eq]
  exact stopsAt_printFault? _ ()

end Diagnostic

end Storyline
