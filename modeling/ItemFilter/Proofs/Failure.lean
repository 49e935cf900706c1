/-
This file says when a line cannot be judged although every look for a file succeeds: exactly when a
check has to convert a numeral that is too long.
-/

import ItemFilter.Grammar
import ItemFilter.Proofs.Placement
import ItemFilter.Proofs.Validation

namespace ItemFilter

namespace Setting

/-- The check of the line has to convert a numeral that is too long. -/
def MeetsOverlong (setting : Setting) (code : CodeLine) : Prop :=
  match setting.route code with
  | .color =>
      3 ≤ code.arguments.length ∧
        ∃ argument ∈ code.arguments.take 4, Color.isOverlong argument.text = true
  | .fitted command =>
      ∃ signature ∈ command.signatures, signature.MeetsOverlong code.argumentTexts
  | .opener | .unknown | .sound => False

/-- A check that stops gives no verdict. -/
theorem ofExcept_eq_failed_iff (result : Except NumeralTooLong (List Diagnostic)) :
    ofExcept result = .failed ↔ Stops result := by
  cases result with
  | error fault => exact ⟨fun _ => stops_error fault, fun _ => rfl⟩
  | ok diagnostics =>
      constructor
      · intro same
        cases same
      · intro stops
        exact absurd stops (not_stops_ok _)

/-- Only the choice of the signature can stop the check of the arguments. -/
theorem stops_checkArguments_iff (command : Command) (code : CodeLine) :
    Stops (checkArguments command code) ↔
      ∃ signature ∈ command.signatures, signature.MeetsOverlong code.argumentTexts := by
  rw [← Signature.stops_select_iff]
  unfold checkArguments
  cases Signature.select command.signatures code.argumentTexts with
  | error fault => exact ⟨fun _ => stops_error fault, fun _ => stops_error fault⟩
  | ok chosen =>
      constructor
      · intro stops
        cases chosen <;> exact absurd stops (not_stops_ok _)
      · intro stops
        exact absurd stops (not_stops_ok _)

/-- Nothing else keeps a line from being judged. -/
theorem judge_eq_failed_iff (setting : Setting) (block : BlockState) (code : CodeLine) :
    setting.judge block code = .failed ↔ setting.MeetsOverlong code := by
  rw [judge_eq, MeetsOverlong]
  cases setting.route code with
  | opener => simp
  | unknown => simp
  | color => rw [ofExcept_eq_failed_iff, Color.stops_check_iff]
  | sound =>
      simp only [iff_false]
      unfold Sound.check
      split <;> exact Verdict.noConfusion
  | fitted command => rw [ofExcept_eq_failed_iff, stops_checkArguments_iff]

/-- A line is reported as not judged exactly when it meets a numeral that is too long. -/
theorem internalError_mem_findings_iff (setting : Setting) (answer : Text → Bool)
    (block : BlockState) (line : Line) :
    (∃ diagnostic ∈ setting.findings (Probe.answering answer) block line,
        diagnostic.code = .internalError) ↔
      ∃ code, CodeLine.ofLine? line = some code ∧ setting.MeetsOverlong code := by
  cases read : CodeLine.ofLine? line with
  | none => simp [setting.findings_of_none _ block read]
  | some code =>
      rw [setting.findings_of_code _ block read]
      simp only [Option.some.injEq, exists_eq_left', ← judge_eq_failed_iff setting block code,
        ← Verdict.answered_eq_none_iff _ answer]
      cases answered : (setting.judge block code).answered (Probe.answering answer) with
      | none =>
          simp only [Option.getD_none, List.mem_singleton, exists_eq_left, iff_true]
          rfl
      | some diagnostics =>
          have placed := (setting.judge_placed block code).of_answered answered
          constructor
          · rintro ⟨diagnostic, reported, internal⟩
            exact absurd internal (placed.code_ne_internalError reported)
          · intro impossible
            cases impossible

/-- The blocks do not matter for this, so it holds for all lines of a pass. -/
theorem internalError_mem_allFindings_iff (setting : Setting) (answer : Text → Bool)
    (block : BlockState) (lines : List Line) :
    (∃ diagnostic ∈ (setting.allFindings (Probe.answering answer) block lines).flatten,
        diagnostic.code = .internalError) ↔
      ∃ code ∈ lines.filterMap CodeLine.ofLine?, setting.MeetsOverlong code := by
  induction lines generalizing block with
  | nil => simp [allFindings]
  | cons line rest ih =>
      have first := internalError_mem_findings_iff setting answer block line
      have others := ih (setting.nextBlock block line)
      simp only [allFindings, List.flatten_cons, List.mem_append, or_and_right, exists_or, first,
        others]
      cases read : CodeLine.ofLine? line with
      | none => simp [List.filterMap_cons_none read]
      | some code => simp [List.filterMap_cons_some read]

end Setting

namespace Validation

/-- With a probe that always answers, some line of a document without a path cannot be judged
exactly when some code line meets a numeral that is too long. -/
theorem internalError_iff_meetsOverlong (lines : List Text) (catalog : Catalog)
    (options : Options) (workplace : Path) (answer : Text → Bool) (checker : Checker) :
    let document : Document := ⟨lines, none⟩
    let setting : Setting := ⟨catalog, options, none⟩
    let probe := Probe.answering answer
    ∃ report, validate document catalog options ⟨workplace, probe, checker⟩ = .ok report ∧
      report.diagnostics =
        lineDiagnostics document setting probe ++ (checkWhole document checker).diagnostics ∧
      ((∃ diagnostic ∈ lineDiagnostics document setting probe,
          diagnostic.code = .internalError) ↔
        ∃ code ∈ document.codeLines, setting.MeetsOverlong code) := by
  intro document setting probe
  have resolved : document.directory workplace = .ok none := rfl
  obtain ⟨report, returned, parts⟩ :=
    validate_report document catalog options ⟨workplace, probe, checker⟩ resolved
  refine ⟨report, returned, parts, ?_⟩
  by_cases empty : setting.catalog.isEmpty = true
  · rw [lineDiagnostics_of_isEmpty document probe empty]
    simp [Setting.MeetsOverlong, Setting.route_of_isEmpty empty]
  · rw [lineDiagnostics_of_commands document probe empty]
    exact setting.internalError_mem_allFindings_iff answer .outside document.numbered

/-- The catalog of a grammar with one color command: a component of 4301 nines is not judged. -/
theorem internalError_of_nines :
    let grammar : Json := .object [("repository".toList, .object [("actions".toList,
      .array [.object [("match".toList, .string "(TextColor)".toList)]])])]
    let line : Text := "TextColor ".toList ++ List.replicate 4301 '9' ++ " 0 0".toList
    ∃ catalog, (Grammar.build grammar).toOption = some (catalog, []) ∧
      ((validate ⟨[line], none⟩ catalog .standard ⟨.top, fun _ => some true, .silent⟩).map
        Report.diagnostics).toOption = some [.plain .internalError ⟨0, 0, 4315⟩] := by
  intro grammar line
  refine ⟨[⟨"TextColor".toList, .actions, [[]]⟩], ?_, ?_⟩
  · decide +kernel
  · decide +kernel

end Validation

end ItemFilter
