/-
This file says which lines are reported for their command. Neither the blocks nor the answers about
files matter: the command is reported exactly when the catalog does not have its name.
-/

import ItemFilter.Proofs.Catalog
import ItemFilter.Proofs.Nesting

namespace ItemFilter

/-- What the verdict always has, it has after a look into any memo. -/
theorem Verdict.Always.of_settle {verdict : Verdict} {property : List Diagnostic → Prop}
    (always : verdict.Always property) {probe : Probe} {memo : Memo}
    {diagnostics : List Diagnostic}
    (settled : (verdict.settle probe memo).diagnostics = some diagnostics) :
    property diagnostics := by
  cases verdict with
  | settled found =>
      obtain rfl := Option.some.inj settled
      exact always
  | failed => cases settled
  | asks path answer =>
      obtain ⟨found, _, rfl⟩ := Option.map_eq_some_iff.mp settled
      exact always found

namespace Setting

/-- The names of the catalog decide which lines are sent to no other check. -/
theorem route_eq_unknown_iff (setting : Setting) (code : CodeLine) :
    setting.route code = .unknown ↔ code.command.text ∉ setting.catalog.names := by
  rw [← Catalog.find?_eq_none_iff]
  cases found : setting.catalog.find? code.command.text with
  | none => simp [route, opensBlock, found]
  | some command =>
      unfold route
      rw [found]
      constructor
      · intro same
        split at same
        · cases same
        · dsimp only at same
          split at same
          · cases same
          · split at same <;> cases same
      · intro absent
        cases absent

/-- No other check reports a command as unknown. -/
theorem route_eq_unknown_of_mem_codes {setting : Setting} {code : CodeLine}
    (reported : Code.unknownCommand ∈ (setting.route code).codes) :
    setting.route code = .unknown := by
  cases route : setting.route code with
  | unknown => rfl
  | opener | color | sound | fitted command => simp [route, Route.codes] at reported

end Setting

namespace Pass

/-- A code line is reported by its check or as one that cannot be judged, whatever the pass has seen
before. -/
theorem step_code (setting : Setting) (probe : Probe) (state : State) {line : Line}
    {code : CodeLine} (read : CodeLine.ofLine? line = some code) {diagnostic : Diagnostic}
    (reported : diagnostic ∈ (step setting probe state line).diagnostics) :
    diagnostic.code = .internalError ∨ diagnostic.code ∈ (setting.route code).codes := by
  unfold step at reported
  rw [read] at reported
  dsimp only at reported
  split at reported
  · next diagnostics settled =>
      exact .inr ((setting.judge_reports state.block code).of_settle settled diagnostic reported)
  · obtain rfl := List.mem_singleton.mp reported
    exact .inl rfl

/-- A command of the catalog is never reported as unknown. -/
theorem step_of_known {setting : Setting} {line : Line} {code : CodeLine}
    (read : CodeLine.ofLine? line = some code)
    (known : code.command.text ∈ setting.catalog.names) (probe : Probe) (state : State) :
    ∀ diagnostic ∈ (step setting probe state line).diagnostics,
      diagnostic.code ≠ .unknownCommand := by
  intro diagnostic reported unknown
  have cases := step_code setting probe state read reported
  rw [unknown] at cases
  have route := Setting.route_eq_unknown_of_mem_codes (cases.resolve_left nofun)
  exact (setting.route_eq_unknown_iff code).mp route known

end Pass

namespace Setting

/-- A command that the catalog does not have is all that is reported of its line. -/
theorem findings_of_unknown {setting : Setting} {line : Line} {code : CodeLine}
    (read : CodeLine.ofLine? line = some code)
    (unknown : code.command.text ∉ setting.catalog.names) (probe : Probe) (block : BlockState) :
    setting.findings probe block line = [setting.unknownCommand code] := by
  rw [setting.findings_of_code probe block read, judge_eq,
    (setting.route_eq_unknown_iff code).mpr unknown]
  rfl

theorem findings_of_known {setting : Setting} {line : Line} {code : CodeLine}
    (read : CodeLine.ofLine? line = some code)
    (known : code.command.text ∈ setting.catalog.names) (probe : Probe) (block : BlockState) :
    ∀ diagnostic ∈ setting.findings probe block line, diagnostic.code ≠ .unknownCommand := by
  let state : Pass.State := ⟨block, []⟩
  have faithful : state.memo.Faithful probe := Memo.faithful_nil probe
  rw [← Pass.step_diagnostics setting line faithful]
  exact Pass.step_of_known read known probe state

end Setting

namespace Validation

/-- A line of a document is reported for its command exactly when the catalog does not have it. -/
theorem mem_lineDiagnostics_unknown_iff {document : Document} {setting : Setting} (probe : Probe)
    (commands : ¬ setting.catalog.isEmpty = true) {code : CodeLine}
    (member : code ∈ document.codeLines) (diagnostic : Diagnostic) :
    diagnostic ∈ lineDiagnostics document setting probe ∧
        diagnostic.code = .unknownCommand ∧ diagnostic.span.line = code.line.number ↔
      code.command.text ∉ setting.catalog.names ∧ diagnostic = setting.unknownCommand code := by
  obtain ⟨before, after, split, read⟩ := Document.exists_split_of_mem_codeLines member
  let block := before.foldl setting.nextBlock .outside
  have here : diagnostic ∈ lineDiagnostics document setting probe ∧
      diagnostic.span.line = code.line.number ↔
        diagnostic ∈ setting.findings probe block code.line := by
    rw [← filter_line_lineDiagnostics probe commands split, List.mem_filter, beq_iff_eq]
  rw [and_comm (a := diagnostic.code = _), ← and_assoc, here]
  by_cases known : code.command.text ∈ setting.catalog.names
  · simp only [known, not_true, false_and, iff_false, not_and]
    exact Setting.findings_of_known read known probe block diagnostic
  · rw [Setting.findings_of_unknown read known, List.mem_singleton]
    simp only [known, not_false_eq_true, true_and, and_iff_left_iff_imp]
    rintro rfl
    rfl

end Validation

end ItemFilter
