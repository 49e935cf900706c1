/-
This file moves lines down a document. A line below others gets the same diagnostics, further down.
-/

import ItemFilter.Proofs.Fit
import ItemFilter.Proofs.Pass

namespace ItemFilter

/-- The span with some lines put before its line. -/
def Span.below (span : Span) (count : Nat) : Span :=
  { span with line := span.line + count }

def Diagnostic.below (diagnostic : Diagnostic) (count : Nat) : Diagnostic :=
  { diagnostic with span := diagnostic.span.below count }

def Line.below (line : Line) (count : Nat) : Line :=
  { line with number := line.number + count }

def CodeLine.below (code : CodeLine) (count : Nat) : CodeLine :=
  { code with line := code.line.below count }

/-- The verdict on a line with some lines put before it. -/
def Verdict.below (verdict : Verdict) (count : Nat) : Verdict :=
  match verdict with
  | .settled diagnostics => .settled (diagnostics.map (·.below count))
  | .failed => .failed
  | .asks path answer => .asks path fun found => (answer found).map (·.below count)

/-- The probe is asked about the same path. -/
theorem Verdict.answered_below (verdict : Verdict) (probe : Probe) (count : Nat) :
    (verdict.below count).answered probe =
      (verdict.answered probe).map (List.map (·.below count)) := by
  cases verdict with
  | settled diagnostics => rfl
  | failed => rfl
  | asks path answer =>
      simp only [below, answered, Option.map_map]
      rfl

/-- The tokens of a line do not depend on its number. -/
theorem CodeLine.ofLine?_below (line : Line) (count : Nat) :
    ofLine? (line.below count) = (ofLine? line).map (·.below count) := by
  have same : (line.below count).text = line.text := rfl
  unfold ofLine?
  rw [same]
  cases line.text.strip with
  | nil => rfl
  | cons first rest =>
      by_cases comment : first = '#'
      · subst comment; rfl
      · cases Token.split (Token.stripComment line.text) <;> simp [below]

namespace Signature

/-- The arguments are checked alike in every line. -/
theorem checkFrom_below (code : CodeLine) (count : Nat) (signature : Signature)
    (arguments : List Token) :
    checkFrom (code.below count) signature arguments =
      (checkFrom code signature arguments).map (·.below count) := by
  rw [checkFrom_eq, checkFrom_eq, List.map_append, List.map_map, List.map_map]
  rfl

end Signature

namespace Color

theorem checkComponent_below (line count : Nat) (argument : Token) :
    checkComponent (line + count) argument =
      (checkComponent line argument).map (List.map (·.below count)) := by
  unfold checkComponent
  cases componentFault argument.text with
  | error fault => rfl
  | ok fault => cases fault <;> rfl

/-- The components are checked alike in every line, up to the first that stops the check. -/
theorem checkComponents_below (line count : Nat) (arguments : List Token) :
    arguments.mapM (checkComponent (line + count)) =
      (arguments.mapM (checkComponent line)).map (List.map (List.map (·.below count))) := by
  induction arguments with
  | nil => rfl
  | cons argument rest ih =>
      simp only [List.mapM_cons, checkComponent_below, ih]
      cases checkComponent line argument with
      | error fault => rfl
      | ok first =>
          cases rest.mapM (checkComponent line) <;> rfl

theorem check_below (code : CodeLine) (count : Nat) :
    check (code.below count) = (check code).map (List.map (·.below count)) := by
  unfold check
  change (if code.arguments.length < 3 then _ else _) = _
  split
  · rfl
  · change (do return (← (code.arguments.take 4).mapM
      (checkComponent (code.line.number + count))).flatten) = _
    rw [checkComponents_below]
    cases (code.arguments.take 4).mapM (checkComponent code.line.number) with
    | error fault => rfl
    | ok parts =>
        change Except.ok (parts.map (List.map (·.below count))).flatten =
          Except.ok (parts.flatten.map (·.below count))
        rw [List.map_flatten]

end Color

theorem Sound.check_below (code : CodeLine) (directory : Option Path) (optional : Bool)
    (count : Nat) :
    check (code.below count) directory optional = (check code directory optional).below count := by
  have same : (code.below count).arguments = code.arguments := rfl
  unfold check
  rw [same]
  cases code.arguments with
  | nil => rfl
  | cons argument rest =>
      simp only [Verdict.below, Verdict.asks.injEq, true_and]
      funext found
      cases found <;> cases optional <;> rfl

namespace Setting

theorem ofExcept_below (result : Except NumeralTooLong (List Diagnostic)) (count : Nat) :
    ofExcept (result.map (List.map (·.below count))) = (ofExcept result).below count := by
  cases result <;> rfl

/-- The signature is chosen by the texts of the arguments, not by their line. -/
theorem checkArguments_below (command : Command) (code : CodeLine) (count : Nat) :
    checkArguments command (code.below count) =
      (checkArguments command code).map (List.map (·.below count)) := by
  have same : (code.below count).argumentTexts = code.argumentTexts := rfl
  unfold checkArguments
  rw [same]
  cases Signature.select command.signatures code.argumentTexts with
  | error fault => rfl
  | ok chosen =>
      cases chosen with
      | none => rfl
      | some signature =>
          exact congrArg Except.ok (Signature.checkFrom_below code count signature code.arguments)

theorem route_below (setting : Setting) (code : CodeLine) (count : Nat) :
    setting.route (code.below count) = setting.route code := rfl

/-- The verdict on a line does not depend on its number. -/
theorem judge_below (setting : Setting) (block : BlockState) (code : CodeLine) (count : Nat) :
    setting.judge block (code.below count) = (setting.judge block code).below count := by
  rw [judge_eq, judge_eq, route_below]
  cases setting.route code with
  | opener =>
      by_cases nested : block.nests setting.options.blockMode = true
      · simp only [nested, if_true]; rfl
      · simp only [nested]; rfl
  | unknown => rfl
  | color => simp only [Color.check_below, ofExcept_below]
  | sound => exact Sound.check_below code setting.directory _ count
  | fitted command => simp only [checkArguments_below, ofExcept_below]

/-- The findings of a line move down with it. -/
theorem findings_below (setting : Setting) (probe : Probe) (block : BlockState) (line : Line)
    (count : Nat) :
    setting.findings probe block (line.below count) =
      (setting.findings probe block line).map (·.below count) := by
  cases read : CodeLine.ofLine? line with
  | none =>
      rw [findings_of_none setting probe block read, findings_of_none]
      · rfl
      · rw [CodeLine.ofLine?_below, read]; rfl
  | some code =>
      have moved : CodeLine.ofLine? (line.below count) = some (code.below count) := by
        rw [CodeLine.ofLine?_below, read]; rfl
      rw [findings_of_code setting probe block read, findings_of_code setting probe block moved,
        judge_below, Verdict.answered_below]
      cases (setting.judge block code).answered probe <;> rfl

theorem nextBlock_below (setting : Setting) (block : BlockState) (line : Line) (count : Nat) :
    setting.nextBlock block (line.below count) = setting.nextBlock block line := by
  unfold nextBlock
  rw [CodeLine.ofLine?_below]
  cases CodeLine.ofLine? line <;> rfl

/-- Lines that are moved down together keep their findings. -/
theorem allFindings_below (setting : Setting) (probe : Probe) (block : BlockState)
    (lines : List Line) (count : Nat) :
    setting.allFindings probe block (lines.map (·.below count)) =
      (setting.allFindings probe block lines).map (List.map (·.below count)) := by
  induction lines generalizing block with
  | nil => rfl
  | cons line rest ih =>
      simp only [List.map_cons, allFindings, findings_below, nextBlock_below, ih]

end Setting

/-- The lines of the second part stand below all lines of the first. -/
theorem Document.numbered_append (first second : List Text) (path firstPath secondPath : Option Text) :
    (Document.mk (first ++ second) path).numbered =
      (Document.mk first firstPath).numbered ++
        (Document.mk second secondPath).numbered.map (·.below first.length) := by
  simp only [numbered, List.zipIdx_append, List.map_append, List.map_map]
  congr 1
  rw [List.zipIdx_eq_map_add]
  simp [Line.below, Nat.add_comm]

end ItemFilter
