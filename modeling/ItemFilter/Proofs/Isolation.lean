/-
This file compares a pass whose probe fails on some paths with a pass whose probe always answers.
Only the lines that run into a failure differ.
-/

import ItemFilter.Proofs.Validation

namespace ItemFilter

/-- Wherever the probe answers, it gives this answer. -/
def Probe.Agrees (probe : Probe) (answer : Text → Bool) : Prop :=
  ∀ path found, probe path = some found → answer path = found

namespace Pass

/-- A step that runs into a failing look reports its whole line. Any other step reports what the
answering probe makes it report. -/
structure Isolated (probe : Probe) (line : Line) (step steady : Step) : Prop where
  failing : (∃ path ∈ step.calls, probe path = none) →
    ∃ diagnostic, step.diagnostics = [diagnostic] ∧ diagnostic.code = .internalError ∧
      diagnostic.severity = .warning ∧ diagnostic.span = ⟨line.number, 0, line.text.length⟩
  other : (∀ path ∈ step.calls, probe path ≠ none) → step.diagnostics = steady.diagnostics

/-- Two passes over the same lines, isolated line by line. -/
inductive AllIsolated (probe : Probe) : List Line → List Step → List Step → Prop where
  | nil : AllIsolated probe [] [] []
  | cons {line : Line} {step steady : Step} {lines : List Line} {steps steadies : List Step}
      (first : Isolated probe line step steady) (rest : AllIsolated probe lines steps steadies) :
      AllIsolated probe (line :: lines) (step :: steps) (steady :: steadies)

/-- A failing look leaves the line without a verdict. -/
theorem step_of_broken_call (setting : Setting) {probe : Probe} {state : State} {line : Line}
    (faithful : state.memo.Faithful probe)
    (broken : ∃ path ∈ (step setting probe state line).calls, probe path = none) :
    (step setting probe state line).diagnostics = [.plain .internalError line.span] := by
  cases read : CodeLine.ofLine? line with
  | none =>
      obtain ⟨path, member, _⟩ := broken
      simp [step, read] at member
  | some code =>
      rw [step_calls setting probe state read] at broken
      obtain ⟨path, answer, asks, unanswered⟩ :=
        ((setting.judge state.block code).broken_call_iff faithful).mp broken
      rw [step_diagnostics setting line faithful, setting.findings_of_code probe _ read, asks]
      simp [Verdict.answered, unanswered]

/-- Without a failing look the two probes give the same findings. -/
theorem findings_of_answered_calls (setting : Setting) {probe : Probe} {answer : Text → Bool}
    (agrees : Probe.Agrees probe answer) {state : State} {line : Line}
    (faithful : state.memo.Faithful probe)
    (answered : ∀ path ∈ (step setting probe state line).calls, probe path ≠ none) :
    setting.findings probe state.block line =
      setting.findings (Probe.answering answer) state.block line := by
  cases read : CodeLine.ofLine? line with
  | none => rw [setting.findings_of_none _ _ read, setting.findings_of_none _ _ read]
  | some code =>
      rw [step_calls setting probe state read] at answered
      rw [setting.findings_of_code _ _ read, setting.findings_of_code _ _ read]
      cases verdict : setting.judge state.block code with
      | settled diagnostics => rfl
      | failed => rfl
      | asks path report =>
          cases looked : probe path with
          | none =>
              obtain ⟨called, member, unanswered⟩ :=
                ((setting.judge state.block code).broken_call_iff faithful).mpr
                  ⟨path, report, verdict, looked⟩
              exact absurd unanswered (answered called member)
          | some found =>
              have same := agrees path found looked
              simp only [Verdict.answered, Probe.answering, looked, same]

/-- One step in each pass, from the same blocks. -/
theorem step_isolated (setting : Setting) {probe : Probe} {answer : Text → Bool}
    (agrees : Probe.Agrees probe answer) {state steady : State} (line : Line)
    (faithful : state.memo.Faithful probe)
    (steadyFaithful : steady.memo.Faithful (Probe.answering answer))
    (sameBlock : state.block = steady.block) :
    Isolated probe line (step setting probe state line)
      (step setting (Probe.answering answer) steady line) where
  failing broken :=
    ⟨_, step_of_broken_call setting faithful broken, rfl, rfl, rfl⟩
  other answered := by
    rw [step_diagnostics setting line faithful, step_diagnostics setting line steadyFaithful,
      findings_of_answered_calls setting agrees faithful answered, sameBlock]

/-- The blocks are the same in both passes before every line, so a failure does not spread. -/
theorem steps_isolated (setting : Setting) {probe : Probe} {answer : Text → Bool}
    (agrees : Probe.Agrees probe answer) {state steady : State} (lines : List Line)
    (faithful : state.memo.Faithful probe)
    (steadyFaithful : steady.memo.Faithful (Probe.answering answer))
    (sameBlock : state.block = steady.block) :
    AllIsolated probe lines (steps setting probe state lines)
      (steps setting (Probe.answering answer) steady lines) := by
  induction lines generalizing state steady with
  | nil => exact .nil
  | cons line rest ih =>
      refine .cons (step_isolated setting agrees line faithful steadyFaithful sameBlock) ?_
      apply ih (step_faithful setting line faithful) (step_faithful setting line steadyFaithful)
      rw [step_block, step_block, sameBlock]

end Pass

namespace Validation

/-- The passes of a validation are isolated; an empty catalog leaves nothing to compare. -/
theorem lineSteps_isolated (document : Document) (setting : Setting) {probe : Probe}
    {answer : Text → Bool} (agrees : Probe.Agrees probe answer) :
    Pass.AllIsolated probe document.numbered (lineSteps document setting probe)
      (lineSteps document setting (Probe.answering answer)) := by
  unfold lineSteps
  split
  · induction document.numbered with
    | nil => exact .nil
    | cons line rest ih =>
        refine .cons ⟨?_, fun _ => rfl⟩ ih
        rintro ⟨path, member, _⟩
        cases member
  · exact Pass.steps_isolated setting agrees document.numbered (Memo.faithful_nil probe)
      (Memo.faithful_nil _) rfl

/-- A checker that fails is reported by one diagnostic. -/
theorem checkWhole_of_none {document : Document} {checker : Checker}
    (fails : checker.check document = none) :
    ∃ diagnostic, (checkWhole document checker).diagnostics = [diagnostic] ∧
      diagnostic.code = .internalError ∧ diagnostic.severity = .warning := by
  simp only [checkWhole, fails]
  exact ⟨_, rfl, rfl, rfl⟩

/-- Validation always returns, and each failure stays with its line or with the checker. -/
theorem validate_isolates (document : Document) (catalog : Catalog) (options : Options)
    (workplace : Path) (checker : Checker) (probe : Probe) (answer : Text → Bool)
    (agrees : Probe.Agrees probe answer) (directory : Option Path)
    (resolved : document.directory workplace = .ok directory) :
    let answering := Probe.answering answer
    let steps := lineSteps document ⟨catalog, options, directory⟩ probe
    let steadies := lineSteps document ⟨catalog, options, directory⟩ answering
    let whole := (checkWhole document checker).diagnostics
    ∃ report steady,
      validate document catalog options ⟨workplace, probe, checker⟩ = .ok report ∧
      validate document catalog options ⟨workplace, answering, checker⟩ = .ok steady ∧
      report.diagnostics = steps.flatMap Pass.Step.diagnostics ++ whole ∧
      steady.diagnostics = steadies.flatMap Pass.Step.diagnostics ++ whole ∧
      Pass.AllIsolated probe document.numbered steps steadies ∧
      (checker.check document = none → ∃ diagnostic, whole = [diagnostic] ∧
        diagnostic.code = .internalError ∧ diagnostic.severity = .warning) := by
  intro answering steps steadies whole
  obtain ⟨report, returned, parts⟩ :=
    validate_report document catalog options ⟨workplace, probe, checker⟩ resolved
  obtain ⟨steady, steadyReturned, steadyParts⟩ :=
    validate_report document catalog options ⟨workplace, answering, checker⟩ resolved
  refine ⟨report, steady, returned, steadyReturned, parts, steadyParts, ?_, ?_⟩
  · exact lineSteps_isolated document ⟨catalog, options, directory⟩ agrees
  · exact checkWhole_of_none

/-- A disk that fails on one file and a checker that fails: the other line is judged as ever. -/
theorem validate_isolates_play :
    let play : Text := ['P', 'l', 'a', 'y']
    let catalog : Catalog := [⟨play, .actions, [[]]⟩]
    let options : Options := ⟨.sequential, 3, 3, ['C'], [play], ['O']⟩
    let document : Document := ⟨[play ++ [' ', 'a'], play ++ [' ', 'b'], play ++ [' ', 'a']], none⟩
    let probe : Probe := fun path => if path = ['a'] then none else some true
    let checker : Checker := ⟨"", fun _ => none⟩
    (Probe.Agrees probe fun _ => true) ∧ document.directory .top = .ok none ∧
      ∃ report diagnostic,
        validate document catalog options ⟨.top, probe, checker⟩ = .ok report ∧
        report.diagnostics = [.plain .internalError ⟨0, 0, 6⟩, .plain .internalError ⟨2, 0, 6⟩,
          diagnostic] ∧ diagnostic.code = .internalError := by
  intro play catalog options document probe checker
  have agrees : Probe.Agrees probe fun _ => true := by
    intro path found answered
    by_cases broken : path = ['a']
    · simp [probe, broken] at answered
    · simpa [probe, broken] using answered
  obtain ⟨report, _, returned, _, parts, _, _, whole⟩ :=
    validate_isolates document catalog options .top checker probe (fun _ => true) agrees none rfl
  obtain ⟨diagnostic, single, internal, _⟩ := whole rfl
  refine ⟨agrees, rfl, report, diagnostic, returned, ?_, internal⟩
  rw [parts, single]
  rfl

end Validation

end ItemFilter
