/-
This file splits the report on a document into what its lines contribute and what the check of the
whole document adds.
-/

import ItemFilter.Proofs.Pass
import ItemFilter.Validation

namespace ItemFilter

/-- The lines of a document that hold a command. -/
def Document.codeLines (document : Document) : List CodeLine :=
  document.numbered.filterMap CodeLine.ofLine?

namespace Validation

/-- One step for each line of a document. Under an empty catalog no line is looked at. -/
def lineSteps (document : Document) (setting : Setting) (probe : Probe) : List Pass.Step :=
  if setting.catalog.isEmpty then document.numbered.map fun _ => ⟨[], .start, [], false⟩
  else Pass.steps setting probe .start document.numbered

/-- The diagnostics that a report holds before those of the checker. -/
def lineDiagnostics (document : Document) (setting : Setting) (probe : Probe) : List Diagnostic :=
  (lineSteps document setting probe).flatMap Pass.Step.diagnostics

/-- Under an empty catalog the lines contribute nothing. -/
theorem lineDiagnostics_of_isEmpty (document : Document) {setting : Setting} (probe : Probe)
    (empty : setting.catalog.isEmpty = true) : lineDiagnostics document setting probe = [] := by
  simp [lineDiagnostics, lineSteps, empty]

/-- The lines contribute their findings, starting outside of all blocks. -/
theorem lineDiagnostics_of_commands (document : Document) {setting : Setting} (probe : Probe)
    (commands : ¬ setting.catalog.isEmpty = true) :
    lineDiagnostics document setting probe =
      (setting.allFindings probe .outside document.numbered).flatten := by
  rw [lineDiagnostics, lineSteps, if_neg commands, List.flatMap_def,
    Pass.steps_diagnostics setting document.numbered (Memo.faithful_nil probe)]
  rfl

/-- The diagnostics of the lines come first, then those of the checker. -/
theorem validate_diagnostics (document : Document) (catalog : Catalog) (options : Options)
    (services : Services) :
    (validate document catalog options services).map Report.diagnostics =
      if catalog.isEmpty then .ok (checkWhole document services.checker).diagnostics
      else (document.directory services.workplace).map fun directory =>
        lineDiagnostics document ⟨catalog, options, directory⟩ services.probe ++
          (checkWhole document services.checker).diagnostics := by
  unfold validate
  by_cases empty : catalog.isEmpty = true
  · simp only [empty, if_true]
    rfl
  · cases document.directory services.workplace with
    | error fault =>
        simp only [empty]
        rfl
    | ok directory =>
        simp only [empty, lineDiagnostics, lineSteps]
        rfl

/-- A document whose directory is known always gets a report. -/
theorem validate_report (document : Document) (catalog : Catalog) (options : Options)
    (services : Services) {directory : Option Path}
    (resolved : document.directory services.workplace = .ok directory) :
    ∃ report, validate document catalog options services = .ok report ∧
      report.diagnostics =
        lineDiagnostics document ⟨catalog, options, directory⟩ services.probe ++
          (checkWhole document services.checker).diagnostics := by
  have parts := validate_diagnostics document catalog options services
  have joined : (validate document catalog options services).map Report.diagnostics =
      .ok (lineDiagnostics document ⟨catalog, options, directory⟩ services.probe ++
        (checkWhole document services.checker).diagnostics) := by
    by_cases empty : catalog.isEmpty = true
    · rw [parts, if_pos empty, lineDiagnostics_of_isEmpty document services.probe empty]
      rfl
    · rw [parts, if_neg empty, resolved]
      rfl
  cases result : validate document catalog options services with
  | error fault => rw [result] at joined; cases joined
  | ok report =>
      rw [result] at joined
      exact ⟨report, rfl, Except.ok.inj joined⟩

/-- A validation fails with its document's directory, or it reports the lines before the whole. -/
theorem validate_cases (document : Document) (catalog : Catalog) (options : Options)
    (services : Services) :
    (∃ fault, validate document catalog options services = .error fault ∧
        document.directory services.workplace = .error fault) ∨
      ∃ report directory, validate document catalog options services = .ok report ∧
        report.diagnostics =
          lineDiagnostics document ⟨catalog, options, directory⟩ services.probe ++
            (checkWhole document services.checker).diagnostics := by
  cases resolved : document.directory services.workplace with
  | ok directory =>
      obtain ⟨report, returned, parts⟩ :=
        validate_report document catalog options services resolved
      exact .inr ⟨report, directory, returned, parts⟩
  | error fault =>
      by_cases empty : catalog.isEmpty = true
      · refine .inr ⟨checkWhole document services.checker, none, ?_, ?_⟩
        · simp only [validate, empty, if_true]
          rfl
        · rw [lineDiagnostics_of_isEmpty document services.probe empty, List.nil_append]
      · refine .inl ⟨fault, ?_, rfl⟩
        simp only [validate, empty, resolved]
        rfl

end Validation

end ItemFilter
