/-
What a build that went through reports, it has printed. The reports on
rows and on links are entered into the log one after the other, and the
build goes on behind a report only when that could be printed; all other
reports are about no row. So they can be printed once more
(`log_of_run`).
-/
import Storyline.Proofs.Build.Assembly
import Storyline.Proofs.Graph.Voices

namespace Storyline

-- ============================================================= documents

namespace Compile

/-- What the loop reports, it has printed. -/
theorem log_of_draftFrom {heading : Heading} {rows : List Script.Row} :
    ∀ {state : Speaker.State} {index : KeyIndex} {n : Int} {draft : Draft},
      draftFrom heading state index n rows = .ok draft →
      Diagnostic.log draft.reports = .ok () := by
  induction rows with
  | nil =>
      intro state index n draft h
      injection h with h
      subst h
      rfl
  | cons row rows ih =>
      intro state index n draft h
      obtain ⟨voice, after, reports, script, rest, hvoice, -, hkey, -, hrest,
        rfl⟩ := draftFrom_cons_eq_ok_iff.1 h
      obtain ⟨-, hreports⟩ := Speaker.reports_of_resolve hvoice
      exact Diagnostic.log_append
        (Diagnostic.log_append hreports hkey) (ih hrest)

theorem log_of_compile {rows : List Script.Row} {heading : Heading}
    {compiled : Compiled} (h : compile rows heading = .ok compiled) :
    Diagnostic.log compiled.reports = .ok () := by
  obtain ⟨counterpart, draft, ⟨-, -, hdraft, rfl⟩, hlinks⟩ :=
    compile_eq_ok_iff.1 h
  refine Diagnostic.log_append (Diagnostic.log_append
    (Diagnostic.log_append (log_of_draftFrom hdraft) hlinks) ?_) rfl
  split <;> rfl

end Compile

-- ======================================================= the other links

namespace CrossLink

/-- What a pass that goes through reports, it has printed. -/
theorem log_of_attachFrom {links : List PendingLink} :
    ∀ {graphs : List Graph}, (attachFrom graphs links).failure = none →
      Diagnostic.log (attachFrom graphs links).reports = .ok () := by
  induction links with
  | nil => exact fun _ => rfl
  | cons link links ih =>
      intro graphs h
      unfold attachFrom at h ⊢
      cases hresolve : resolve graphs link with
      | error e =>
          rw [hresolve] at h
          cases h
      | ok outcome =>
          rw [hresolve] at h
          simp only at h ⊢
          cases hlog : Diagnostic.log [outcome.report link] with
          | error e =>
              rw [hlog] at h
              cases h
          | ok _ =>
              rw [hlog] at h
              exact Diagnostic.log_append hlog (ih h)

theorem log_of_attachAll {graphs : List Graph} {pending : List PendingLink}
    (h : (attachAll graphs pending).failure = none) :
    Diagnostic.log (attachAll graphs pending).reports = .ok () := by
  rw [attachAll_eq] at h ⊢
  refine Diagnostic.log_append ?_ (log_of_attachFrom h)
  unfold headline
  split <;> rfl

end CrossLink

-- =========================================================== whole builds

namespace Build

variable {tree : FileTree} {format : Sheet.Format} {sources : Sources}
  {previous : Option Database} {result : Result}

/-- What a build that goes through reports, it has printed. -/
theorem log_of_run (h : run tree format sources previous = .ok result) :
    Diagnostic.log result.reports = .ok () := by
  obtain ⟨loaded, compiled, catalog, -, hcompiled, -, hfailure, rfl⟩ :=
    run_eq_ok_iff.1 h
  have hlegacy : Diagnostic.log (legacyReports previous) = .ok () := by
    unfold legacyReports
    simp only
    split <;> rfl
  have hdocuments :
      Diagnostic.log (compiled.flatMap (·.reports)) = .ok () := by
    refine Diagnostic.log_eq_ok_iff.2 fun d hd => ?_
    obtain ⟨c, hc, hd⟩ := List.mem_flatMap.1 hd
    obtain ⟨rows, heading, hcompile⟩ := compiled_of_compileFrom hcompiled c hc
    exact Diagnostic.log_eq_ok_iff.1 (Compile.log_of_compile hcompile) d hd
  have hcatalog : Diagnostic.log [catalog.report] = .ok () := rfl
  have hlinks : Diagnostic.log (passOf compiled).reports = .ok () :=
    CrossLink.log_of_attachAll hfailure
  exact Diagnostic.log_append (Diagnostic.log_append (Diagnostic.log_append
    (Diagnostic.log_append hlegacy hdocuments) hcatalog) hlinks) rfl

end Build

end Storyline
