/-
This file takes the columns out of lines and diagnostics. No check looks at a column: lines with the
same tokens get the same diagnostics, apart from where in the line they point.
-/

import ItemFilter.Proofs.Outcome
import ItemFilter.Proofs.Renumbering
import ItemFilter.Proofs.Traversal

namespace ItemFilter

/-- The token without its column. -/
def Token.uncolumned (token : Token) : Token :=
  ⟨token.text, 0⟩

/-- The number and the texts of the tokens are all that is kept of a code line. -/
def CodeLine.uncolumned (code : CodeLine) : CodeLine :=
  ⟨⟨code.line.number, []⟩, code.command.uncolumned, code.arguments.map Token.uncolumned⟩

/-- The diagnostic without its columns; it still names its line. -/
def Diagnostic.uncolumned (diagnostic : Diagnostic) : Diagnostic :=
  { diagnostic with span := ⟨diagnostic.span.line, 0, 0⟩ }

def Verdict.uncolumned (verdict : Verdict) : Verdict :=
  match verdict with
  | .settled diagnostics => .settled (diagnostics.map Diagnostic.uncolumned)
  | .failed => .failed
  | .asks path answer => .asks path fun found => (answer found).map Diagnostic.uncolumned

namespace Verdict

theorem answered_uncolumned (verdict : Verdict) (probe : Probe) :
    verdict.uncolumned.answered probe =
      (verdict.answered probe).map (List.map Diagnostic.uncolumned) := by
  cases verdict with
  | settled diagnostics => rfl
  | failed => rfl
  | asks path answer =>
      simp only [uncolumned, answered, Option.map_map]
      rfl

theorem questions_uncolumned (verdict : Verdict) :
    verdict.uncolumned.questions = verdict.questions := by
  cases verdict <;> rfl

end Verdict

theorem CodeLine.argumentTexts_uncolumned (code : CodeLine) :
    code.uncolumned.argumentTexts = code.argumentTexts := by
  rw [argumentTexts, argumentTexts, uncolumned, List.map_map]
  rfl

theorem CodeLine.isBare_uncolumned (code : CodeLine) : code.uncolumned.isBare = code.isBare := by
  rw [isBare, isBare, uncolumned, List.isEmpty_map]

/-- The arguments are checked by their texts. -/
theorem Signature.checkFrom_uncolumned (code : CodeLine) (signature : Signature)
    (arguments : List Token) :
    (checkFrom code.uncolumned signature (arguments.map Token.uncolumned)).map
        Diagnostic.uncolumned =
      (checkFrom code signature arguments).map Diagnostic.uncolumned := by
  induction signature generalizing arguments with
  | nil => rfl
  | cons parameter rest ih =>
      cases arguments with
      | nil =>
          simp only [List.map_nil, checkFrom]
          split
          · rfl
          · exact ih []
      | cons argument others =>
          have same : argument.uncolumned.text = argument.text := rfl
          simp only [List.map_cons, checkFrom, same]
          split
          · exact ih others
          · rw [List.map_cons, List.map_cons, ih others]
            rfl

namespace Color

theorem checkComponent_uncolumned (line : Nat) (argument : Token) :
    (checkComponent line argument.uncolumned).map (List.map Diagnostic.uncolumned) =
      (checkComponent line argument).map (List.map Diagnostic.uncolumned) := by
  have same : argument.uncolumned.text = argument.text := rfl
  unfold checkComponent
  rw [same]
  cases componentFault argument.text with
  | error fault => rfl
  | ok fault => cases fault <;> rfl

/-- The components are checked by their texts. -/
theorem check_uncolumned (code : CodeLine) :
    (check code.uncolumned).map (List.map Diagnostic.uncolumned) =
      (check code).map (List.map Diagnostic.uncolumned) := by
  have components : ((code.uncolumned.arguments.take 4).mapM
        (checkComponent code.line.number)).map (List.map (List.map Diagnostic.uncolumned)) =
      ((code.arguments.take 4).mapM (checkComponent code.line.number)).map
        (List.map (List.map Diagnostic.uncolumned)) := by
    rw [map_mapM, map_mapM, CodeLine.uncolumned, ← List.map_take, List.mapM_map]
    simp only [Function.comp_def, checkComponent_uncolumned]
  have joined (parts : Except NumeralTooLong (List (List Diagnostic))) :
      (do return (← parts).flatten : Except NumeralTooLong (List Diagnostic)).map
          (List.map Diagnostic.uncolumned) =
        (parts.map (List.map (List.map Diagnostic.uncolumned))).map List.flatten := by
    cases parts with
    | error fault => rfl
    | ok parts => exact congrArg Except.ok List.map_flatten
  have count : code.uncolumned.arguments.length = code.arguments.length := List.length_map _
  unfold check
  rw [count]
  split
  · rfl
  · rw [joined, joined]
    exact congrArg (Except.map List.flatten) components

end Color

/-- The file is looked for by the text of its argument. -/
theorem Sound.check_uncolumned (code : CodeLine) (directory : Option Path) (optional : Bool) :
    (check code.uncolumned directory optional).uncolumned =
      (check code directory optional).uncolumned := by
  cases arguments : code.arguments with
  | nil => simp only [check, CodeLine.uncolumned, arguments, List.map_nil]; rfl
  | cons argument rest =>
      simp only [check, CodeLine.uncolumned, arguments, List.map_cons, Verdict.uncolumned,
        Token.uncolumned, Token.unquoted, Verdict.asks.injEq, true_and]
      funext found
      cases found <;> cases optional <;> rfl

namespace Setting

theorem ofExcept_uncolumned {left right : Except NumeralTooLong (List Diagnostic)}
    (same : left.map (List.map Diagnostic.uncolumned) =
      right.map (List.map Diagnostic.uncolumned)) :
    (ofExcept left).uncolumned = (ofExcept right).uncolumned := by
  have view (result : Except NumeralTooLong (List Diagnostic)) :
      (ofExcept result).uncolumned = ofExcept (result.map (List.map Diagnostic.uncolumned)) := by
    cases result <;> rfl
  rw [view, view, same]

theorem checkArguments_uncolumned (command : Command) (code : CodeLine) :
    (checkArguments command code.uncolumned).map (List.map Diagnostic.uncolumned) =
      (checkArguments command code).map (List.map Diagnostic.uncolumned) := by
  unfold checkArguments
  rw [code.argumentTexts_uncolumned]
  cases Signature.select command.signatures code.argumentTexts with
  | error fault => rfl
  | ok chosen =>
      cases chosen with
      | none => rfl
      | some signature =>
          exact congrArg Except.ok (Signature.checkFrom_uncolumned code signature code.arguments)

theorem opensBlock_uncolumned (setting : Setting) (code : CodeLine) :
    setting.opensBlock code.uncolumned = setting.opensBlock code := by
  rw [opensBlock, opensBlock, code.isBare_uncolumned]
  rfl

theorem route_uncolumned (setting : Setting) (code : CodeLine) :
    setting.route code.uncolumned = setting.route code := by
  rw [route, route, opensBlock_uncolumned]
  rfl

/-- The verdict on a line does not depend on its columns. -/
theorem judge_uncolumned (setting : Setting) (block : BlockState) (code : CodeLine) :
    (setting.judge block code.uncolumned).uncolumned = (setting.judge block code).uncolumned := by
  rw [judge_eq, judge_eq, route_uncolumned]
  cases setting.route code with
  | opener =>
      cases block.nests setting.options.blockMode <;> rfl
  | unknown => rfl
  | color => exact ofExcept_uncolumned (Color.check_uncolumned code)
  | sound => exact Sound.check_uncolumned code setting.directory _
  | fitted command => exact ofExcept_uncolumned (checkArguments_uncolumned command code)

end Setting

/-- Two lines with the same number and the same tokens, or both without code. -/
structure Line.Alike (left right : Line) : Prop where
  number : left.number = right.number
  code : (CodeLine.ofLine? left).map CodeLine.uncolumned =
    (CodeLine.ofLine? right).map CodeLine.uncolumned

namespace Line.Alike

/-- Alike lines are both without code, or the tokens of both have the same texts. -/
theorem cases {left right : Line} (alike : left.Alike right) :
    (CodeLine.ofLine? left = none ∧ CodeLine.ofLine? right = none) ∨
      ∃ first second, CodeLine.ofLine? left = some first ∧ CodeLine.ofLine? right = some second ∧
        first.uncolumned = second.uncolumned := by
  have same := alike.code
  cases readLeft : CodeLine.ofLine? left with
  | none =>
      rw [readLeft] at same
      exact .inl ⟨rfl, Option.map_eq_none_iff.mp same.symm⟩
  | some first =>
      rw [readLeft] at same
      obtain ⟨second, readRight, equal⟩ := Option.map_eq_some_iff.mp same.symm
      exact .inr ⟨first, second, rfl, readRight, equal.symm⟩

/-- Alike lines get the same findings, apart from the columns. -/
theorem findings {left right : Line} (alike : left.Alike right) (setting : Setting) (probe : Probe)
    (block : BlockState) :
    (setting.findings probe block left).map Diagnostic.uncolumned =
      (setting.findings probe block right).map Diagnostic.uncolumned := by
  rcases alike.cases with ⟨blankLeft, blankRight⟩ | ⟨first, second, readLeft, readRight, same⟩
  · rw [setting.findings_of_none probe block blankLeft,
      setting.findings_of_none probe block blankRight]
  · have judged : (setting.judge block first).uncolumned =
        (setting.judge block second).uncolumned := by
      rw [← setting.judge_uncolumned block first, same, setting.judge_uncolumned block second]
    have answered : ((setting.judge block first).answered probe).map
          (List.map Diagnostic.uncolumned) =
        ((setting.judge block second).answered probe).map (List.map Diagnostic.uncolumned) := by
      rw [← Verdict.answered_uncolumned, judged, Verdict.answered_uncolumned]
    have internal : Diagnostic.uncolumned (.plain .internalError left.span) =
        Diagnostic.uncolumned (.plain .internalError right.span) := by
      simp [Diagnostic.uncolumned, Diagnostic.plain, Diagnostic.make, Line.span, alike.number]
    have view (result : Option (List Diagnostic)) (other : Diagnostic) :
        (result.getD [other]).map Diagnostic.uncolumned =
          (result.map (List.map Diagnostic.uncolumned)).getD [other.uncolumned] := by
      cases result <;> rfl
    rw [setting.findings_of_code probe block readLeft,
      setting.findings_of_code probe block readRight, view, view, answered, internal]

/-- Alike lines leave the same blocks. -/
theorem nextBlock {left right : Line} (alike : left.Alike right) (setting : Setting)
    (block : BlockState) : setting.nextBlock block left = setting.nextBlock block right := by
  rcases alike.cases with ⟨blankLeft, blankRight⟩ | ⟨first, second, readLeft, readRight, same⟩
  · rw [setting.nextBlock_of_none block blankLeft, setting.nextBlock_of_none block blankRight]
  · rw [setting.nextBlock_of_code block readLeft, setting.nextBlock_of_code block readRight,
      ← setting.opensBlock_uncolumned first, same, setting.opensBlock_uncolumned second]

/-- Alike lines ask for the same files. -/
theorem questions {left right : Line} (alike : left.Alike right) (setting : Setting) :
    setting.questions left = setting.questions right := by
  rcases alike.cases with ⟨blankLeft, blankRight⟩ | ⟨first, second, readLeft, readRight, same⟩
  · rw [setting.questions_of_none blankLeft, setting.questions_of_none blankRight]
  · rw [setting.questions_of_code readLeft, setting.questions_of_code readRight,
      ← Verdict.questions_uncolumned, ← setting.judge_uncolumned .outside first, same,
      setting.judge_uncolumned .outside second, Verdict.questions_uncolumned]

end Line.Alike

/-- A pass over alike lines finds the same, apart from the columns. -/
theorem Setting.allFindings_map_alike (setting : Setting) (probe : Probe) (block : BlockState)
    {change : Line → Line} (alike : ∀ line, (change line).Alike line) (lines : List Line) :
    (setting.allFindings probe block (lines.map change)).flatten.map Diagnostic.uncolumned =
      (setting.allFindings probe block lines).flatten.map Diagnostic.uncolumned := by
  induction lines generalizing block with
  | nil => rfl
  | cons line rest ih =>
      rw [List.map_cons, allFindings, allFindings, List.flatten_cons, List.flatten_cons,
        List.map_append, List.map_append, (alike line).findings setting probe block,
        (alike line).nextBlock setting block, ih]

end ItemFilter
