/-
This file says which part of its line a diagnostic points at. The code of the diagnostic decides it.
-/

import ItemFilter.Proofs.Color
import ItemFilter.Proofs.Fit
import ItemFilter.Proofs.Pass
import ItemFilter.Proofs.Token

namespace ItemFilter

/-- The spans of a code line that a diagnostic with the code may point at. -/
def CodeLine.places (code : CodeLine) (kind : Code) : List Span :=
  match kind with
  | .nestedBlock => [code.line.span]
  | .unknownCommand => [code.commandSpan]
  | .missingParameter | .colorArity => [code.span]
  | .parameterMismatch | .colorNotANumber | .colorOutOfRange | .missingSoundFile
  | .missingOptionalSoundFile => code.arguments.map (·.span code.line.number)
  | .emptyBlock | .internalError => []

/-- Every diagnostic in the list points at a part of the line that its code is about. -/
def CodeLine.Places (code : CodeLine) (diagnostics : List Diagnostic) : Prop :=
  ∀ diagnostic ∈ diagnostics, diagnostic.span ∈ code.places diagnostic.code

/-- All places of a code line stand in that line. -/
theorem CodeLine.places_line (code : CodeLine) (kind : Code) :
    ∀ span ∈ code.places kind, span.line = code.line.number := by
  intro span member
  cases kind with
  | nestedBlock | unknownCommand | missingParameter | colorArity =>
      obtain rfl := List.mem_singleton.mp member
      rfl
  | parameterMismatch | colorNotANumber | colorOutOfRange | missingSoundFile
  | missingOptionalSoundFile =>
      obtain ⟨argument, _, rfl⟩ := List.mem_map.mp member
      rfl
  | emptyBlock | internalError => cases member

/-- The report that a line cannot be judged is about no part of it. -/
theorem CodeLine.Places.code_ne_internalError {code : CodeLine} {diagnostics : List Diagnostic}
    (placed : code.Places diagnostics) {diagnostic : Diagnostic}
    (reported : diagnostic ∈ diagnostics) : diagnostic.code ≠ .internalError := by
  intro internal
  have member := placed diagnostic reported
  rw [internal] at member
  cases member

theorem CodeLine.places_nil (code : CodeLine) : code.Places [] := by
  intro diagnostic reported
  cases reported

theorem CodeLine.places_singleton {code : CodeLine} {diagnostic : Diagnostic}
    (placed : diagnostic.span ∈ code.places diagnostic.code) : code.Places [diagnostic] := by
  intro other reported
  obtain rfl := List.mem_singleton.mp reported
  exact placed

/-- Every list of diagnostics that the verdict may end in has the property. -/
def Verdict.Always (verdict : Verdict) (property : List Diagnostic → Prop) : Prop :=
  match verdict with
  | .settled diagnostics => property diagnostics
  | .failed => True
  | .asks _ answer => ∀ found, property (answer found)

/-- What the verdict always has, it has after the question was answered. -/
theorem Verdict.Always.of_answered {verdict : Verdict} {property : List Diagnostic → Prop}
    (always : verdict.Always property) {probe : Probe} {diagnostics : List Diagnostic}
    (answered : verdict.answered probe = some diagnostics) : property diagnostics := by
  cases verdict with
  | settled settled =>
      obtain rfl := Option.some.inj answered
      exact always
  | failed => cases answered
  | asks path answer =>
      obtain ⟨found, _, rfl⟩ := Option.map_eq_some_iff.mp answered
      exact always found

theorem Verdict.Always.getD {verdict : Verdict} {property : List Diagnostic → Prop}
    (always : verdict.Always property) (probe : Probe) {other : List Diagnostic}
    (otherwise : property other) : property ((verdict.answered probe).getD other) := by
  cases answered : verdict.answered probe with
  | none => exact otherwise
  | some diagnostics => exact always.of_answered answered

/-- A component is reported for one of two reasons. -/
theorem Color.fault?_cases {text : Text} {fault : Code} (found : fault? text = some fault) :
    fault = .colorNotANumber ∨ fault = .colorOutOfRange := by
  unfold fault? at found
  split at found
  · exact .inl (Option.some.inj found).symm
  · split at found
    · cases found
    · exact .inr (Option.some.inj found).symm

theorem Color.componentFindings_placed {code : CodeLine} {argument : Token}
    (member : argument ∈ code.arguments) :
    code.Places (componentFindings code.line.number argument) := by
  intro diagnostic reported
  simp only [componentFindings, List.mem_map, Option.mem_toList] at reported
  obtain ⟨fault, found, rfl⟩ := reported
  rcases fault?_cases found with rfl | rfl
  · exact List.mem_map_of_mem member
  · exact List.mem_map_of_mem member

/-- Components are reported at their own arguments, too few of them at the whole code. -/
theorem Color.check_placed (code : CodeLine) :
    (Setting.ofExcept (check code)).Always code.Places := by
  by_cases stops : Stops (check code)
  · obtain ⟨fault, stopped⟩ := stops
    rw [stopped]
    trivial
  · rw [check_of_not_stops stops]
    change code.Places _
    split
    · exact CodeLine.places_singleton List.mem_cons_self
    · intro diagnostic reported
      obtain ⟨argument, member, found⟩ := List.mem_flatMap.mp reported
      exact componentFindings_placed (List.mem_of_mem_take member) diagnostic found

/-- A missing file is reported at its argument, a missing argument at the whole code. -/
theorem Sound.check_placed (code : CodeLine) (directory : Option Path) (optional : Bool) :
    (check code directory optional).Always code.Places := by
  unfold check
  split
  · exact CodeLine.places_singleton List.mem_cons_self
  · next argument rest arguments =>
      have member : argument ∈ code.arguments := by rw [arguments]; exact List.mem_cons_self
      intro found
      cases found with
      | true => exact code.places_nil
      | false => cases optional <;> exact CodeLine.places_singleton (List.mem_map_of_mem member)

/-- A refused argument is reported at its place, an absent one at the whole code. -/
theorem Signature.check_placed (signature : Signature) (code : CodeLine) :
    code.Places (signature.check code) := by
  intro diagnostic reported
  rw [check, checkFrom_eq] at reported
  rcases List.mem_append.mp reported with refused | absent
  · obtain ⟨pair, chosen, rfl⟩ := List.mem_map.mp refused
    have zipped := (List.mem_filter.mp chosen).1
    exact List.mem_map_of_mem (List.of_mem_zip zipped).2
  · obtain ⟨parameter, _, rfl⟩ := List.mem_map.mp absent
    exact List.mem_cons_self

/-- Whatever a line is judged by, its diagnostics point at the parts that they are about. -/
theorem Setting.judge_placed (setting : Setting) (block : BlockState) (code : CodeLine) :
    (setting.judge block code).Always code.Places := by
  rw [judge_eq]
  cases setting.route code with
  | opener =>
      change code.Places _
      split
      · exact CodeLine.places_singleton List.mem_cons_self
      · exact code.places_nil
  | unknown => exact CodeLine.places_singleton List.mem_cons_self
  | color => exact Color.check_placed code
  | sound => exact Sound.check_placed code _ _
  | fitted command =>
      simp only [checkArguments]
      cases Signature.select command.signatures code.argumentTexts with
      | error fault => trivial
      | ok chosen =>
          cases chosen with
          | none => exact code.places_nil
          | some signature => exact signature.check_placed code

/-- All findings of a line stand in that line. -/
theorem Setting.findings_line (setting : Setting) (probe : Probe) (block : BlockState)
    {line : Line} {diagnostic : Diagnostic}
    (reported : diagnostic ∈ setting.findings probe block line) :
    diagnostic.span.line = line.number := by
  cases read : CodeLine.ofLine? line with
  | none =>
      rw [setting.findings_of_none probe block read] at reported
      cases reported
  | some code =>
      rw [setting.findings_of_code probe block read] at reported
      cases answered : (setting.judge block code).answered probe with
      | none =>
          rw [answered] at reported
          obtain rfl := List.mem_singleton.mp reported
          rfl
      | some diagnostics =>
          rw [answered] at reported
          have placed := (setting.judge_placed block code).of_answered answered
          rw [code.places_line _ _ (placed diagnostic reported), (CodeLine.ofLine?_tokens read).1]

/-- All findings of a pass stand in its lines. -/
theorem Setting.allFindings_line (setting : Setting) (probe : Probe) (block : BlockState)
    {lines : List Line} {diagnostic : Diagnostic}
    (reported : diagnostic ∈ (setting.allFindings probe block lines).flatten) :
    ∃ line ∈ lines, diagnostic.span.line = line.number := by
  induction lines generalizing block with
  | nil => cases reported
  | cons line rest ih =>
      rw [allFindings, List.flatten_cons] at reported
      rcases List.mem_append.mp reported with here | below
      · exact ⟨line, List.mem_cons_self, setting.findings_line probe block here⟩
      · obtain ⟨lower, member, same⟩ := ih (setting.nextBlock block line) below
        exact ⟨lower, List.mem_cons_of_mem line member, same⟩

end ItemFilter
