/-
This file says which files a validation looks for. Each line asks its question by itself, whatever
the blocks are, so documents are compared line by line, in their diagnostics and in their calls.
-/

import ItemFilter.Proofs.Recall

namespace ItemFilter

namespace Setting

/-- The blocks do not matter for the question of a line. -/
theorem questions_judge (setting : Setting) (left right : BlockState) (code : CodeLine) :
    (setting.judge left code).questions = (setting.judge right code).questions := by
  by_cases opens : setting.opensBlock code = true
  · rw [judge_of_opener setting left opens, judge_of_opener setting right opens]
    rfl
  · rw [setting.judge_of_rule left right opens]

/-- The paths that a line asks for. -/
def questions (setting : Setting) (line : Line) : List Text :=
  match CodeLine.ofLine? line with
  | none => []
  | some code => (setting.judge .outside code).questions

theorem questions_of_none (setting : Setting) {line : Line}
    (blank : CodeLine.ofLine? line = none) : setting.questions line = [] := by
  simp only [questions, blank]

theorem questions_of_code (setting : Setting) {line : Line} {code : CodeLine}
    (read : CodeLine.ofLine? line = some code) :
    setting.questions line = (setting.judge .outside code).questions := by
  simp only [questions, read]

end Setting

namespace Pass

theorem directStep_calls (setting : Setting) (probe : Probe) (block : BlockState) (line : Line) :
    (directStep setting probe block line).calls = setting.questions line := by
  cases read : CodeLine.ofLine? line with
  | none => simp only [directStep, read, setting.questions_of_none read]
  | some code =>
      rw [setting.questions_of_code read, setting.questions_judge .outside block]
      simp only [directStep, read]
      cases (setting.judge block code).answered probe <;> rfl

/-- A pass without a memo makes the calls that its lines ask for. -/
theorem directSteps_calls (setting : Setting) (probe : Probe) (block : BlockState)
    (lines : List Line) :
    (directSteps setting probe block lines).flatMap Step.calls =
      lines.flatMap setting.questions := by
  induction lines generalizing block with
  | nil => rfl
  | cons line rest ih =>
      simp only [directSteps, List.flatMap_cons, directStep_calls, ih]

end Pass

namespace Validation

/-- The calls that the lines of a document make. -/
def lineCalls (document : Document) (setting : Setting) (probe : Probe) : List Text :=
  (lineSteps document setting probe).flatMap Pass.Step.calls

/-- Under an empty catalog no file is looked for. -/
theorem lineCalls_of_isEmpty (document : Document) {setting : Setting} (probe : Probe)
    (empty : setting.catalog.isEmpty = true) : lineCalls document setting probe = [] := by
  simp [lineCalls, lineSteps, empty]

/-- The questions of the lines are passed on until they are answered. -/
theorem lineCalls_of_commands (document : Document) {setting : Setting} (probe : Probe)
    (commands : ¬ setting.catalog.isEmpty = true) :
    lineCalls document setting probe =
      probe.remaining [] (document.numbered.flatMap setting.questions) := by
  have calls := (Pass.steps_follow setting document.numbered
    (show Pass.State.start.memo.Recalls probe [] from Memo.recalls_nil probe)).2
  rw [lineCalls, lineSteps, if_neg commands, calls, Pass.directSteps_calls]

/-- Documents whose lines ask for the same files make the same calls. -/
theorem lineCalls_congr {left right : Document} (setting : Setting) (probe : Probe)
    (same : left.numbered.flatMap setting.questions = right.numbered.flatMap setting.questions) :
    lineCalls left setting probe = lineCalls right setting probe := by
  by_cases empty : setting.catalog.isEmpty = true
  · rw [lineCalls_of_isEmpty left probe empty, lineCalls_of_isEmpty right probe empty]
  · rw [lineCalls_of_commands left probe empty, lineCalls_of_commands right probe empty, same]

/-- What a validation reports and the files that it looks for, by lines. -/
theorem validate_outcome (document : Document) (catalog : Catalog) (options : Options)
    (services : Services) :
    (validate document catalog options services).map
        (fun report => (report.diagnostics, report.calls)) =
      (if catalog.isEmpty then .ok none else document.directory services.workplace).map
        fun directory =>
          (lineDiagnostics document ⟨catalog, options, directory⟩ services.probe ++
              (checkWhole document services.checker).diagnostics,
            lineCalls document ⟨catalog, options, directory⟩ services.probe) := by
  have noCalls := checkWhole_calls document services.checker
  unfold validate
  by_cases empty : catalog.isEmpty = true
  · simp only [empty, if_true]
    change Except.ok (_, _) = Except.ok (_, _)
    rw [lineDiagnostics_of_isEmpty document services.probe empty,
      lineCalls_of_isEmpty document services.probe empty, noCalls]
    rfl
  · cases document.directory services.workplace with
    | error fault =>
        simp only [empty]
        rfl
    | ok directory =>
        simp only [empty]
        change Except.ok (_, _ ++ (checkWhole document services.checker).calls) = Except.ok (_, _)
        rw [noCalls, List.append_nil]
        simp only [lineDiagnostics, lineCalls, lineSteps, empty]
        rfl

/-- Two documents in the same directory are seen alike if their diagnostics are, under every
directory, and their lines make the same calls. -/
theorem validate_congr {α : Type} {left right : Document} (catalog : Catalog) (options : Options)
    (services : Services) (leftView rightView : List Diagnostic → α)
    (place : left.directory services.workplace = right.directory services.workplace)
    (diagnostics : ∀ directory,
      leftView (lineDiagnostics left ⟨catalog, options, directory⟩ services.probe ++
          (checkWhole left services.checker).diagnostics) =
        rightView (lineDiagnostics right ⟨catalog, options, directory⟩ services.probe ++
          (checkWhole right services.checker).diagnostics))
    (calls : ∀ directory,
      lineCalls left ⟨catalog, options, directory⟩ services.probe =
        lineCalls right ⟨catalog, options, directory⟩ services.probe) :
    (validate left catalog options services).map
        (fun report => (leftView report.diagnostics, report.calls)) =
      (validate right catalog options services).map
        fun report => (rightView report.diagnostics, report.calls) := by
  have viewed (document : Document) (view : List Diagnostic → α) :
      (validate document catalog options services).map
          (fun report => (view report.diagnostics, report.calls)) =
        ((validate document catalog options services).map
          fun report => (report.diagnostics, report.calls)).map
            fun seen => (view seen.1, seen.2) := by
    cases validate document catalog options services <;> rfl
  rw [viewed, viewed, validate_outcome, validate_outcome, place]
  cases (if catalog.isEmpty then .ok none else right.directory services.workplace) with
  | error fault => rfl
  | ok directory => exact congrArg Except.ok (Prod.ext (diagnostics directory) (calls directory))

end Validation

end ItemFilter
