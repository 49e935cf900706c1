/-
This file says what the check of arguments against a signature finds, and when the choice of a
signature stops.
-/

import ItemFilter.Fit
import ItemFilter.Proofs.Numeral

namespace ItemFilter

namespace Parameter

/-- The argument is a color component with more digits than are converted. -/
def isOverlong (parameter : Parameter) (argument : Text) : Bool :=
  parameter.kind == .rgbColor && Text.isPlainNumeral argument &&
    decide (numeralLimit < argument.length)

/-- Only the kind for color components converts its argument. -/
theorem stops_scoreByKind_iff (kind : ParameterKind) (argument : Text) :
    Stops (scoreByKind kind argument) ↔
      kind = .rgbColor ∧ Text.isPlainNumeral argument = true ∧
        numeralLimit < argument.length := by
  cases kind with
  | rgbColor =>
      by_cases numeral : Text.isPlainNumeral argument = true
      · simp only [scoreByKind, numeral, if_true, stops_map_iff, stops_readDigits_iff, true_and]
      · simp [scoreByKind, numeral, not_stops_ok]
  | _ => simp [scoreByKind, not_stops_ok]

/-- The choices do not matter for this. -/
theorem stops_score_iff (parameter : Parameter) (argument : Text) :
    Stops (parameter.score argument) ↔ parameter.isOverlong argument = true := by
  have same : Stops (parameter.score argument) ↔
      Stops (scoreByKind parameter.kind argument) := by
    unfold score
    cases scoreByKind parameter.kind argument with
    | error fault => exact ⟨fun _ => stops_error fault, fun _ => stops_error fault⟩
    | ok value =>
        cases parameter.choices with
        | none => exact Iff.rfl
        | some choices => exact ⟨fun stops => absurd stops (not_stops_ok _),
            fun stops => absurd stops (not_stops_ok _)⟩
  rw [same, stops_scoreByKind_iff]
  simp [isOverlong, and_assoc]

end Parameter

namespace Signature

/-- A parameter meets a color component with too many digits. -/
def MeetsOverlong (signature : Signature) (arguments : List Text) : Prop :=
  ∃ pair ∈ signature.zip arguments, pair.1.isOverlong pair.2 = true

/-- The score of a signature stops at any pair whose score stops. -/
theorem stops_score_iff (signature : Signature) (arguments : List Text) :
    Stops (signature.score arguments) ↔ signature.MeetsOverlong arguments := by
  unfold score argumentScores MeetsOverlong
  rw [stops_map_iff, stops_mapM_iff]
  simp only [Parameter.stops_score_iff]

/-- The choice stops if any of the signatures meets such a component, chosen or not. -/
theorem stops_select_iff (signatures : List Signature) (arguments : List Text) :
    Stops (select signatures arguments) ↔
      ∃ signature ∈ signatures, signature.MeetsOverlong arguments := by
  unfold select
  rw [stops_map_iff, stops_mapM_iff]
  simp only [stops_score_iff]

/-- The arguments that their parameters refuse are reported first, in their order; then the first
required parameter that has no argument. -/
theorem checkFrom_eq (code : CodeLine) (signature : Signature) (arguments : List Token) :
    checkFrom code signature arguments =
      ((signature.zip arguments).filter fun pair => !pair.1.accepts pair.2.text).map
          (fun pair => mismatch code pair.1 pair.2) ++
        ((signature.drop arguments.length).find? Parameter.required).toList.map (missing code) := by
  induction signature generalizing arguments with
  | nil => simp [checkFrom]
  | cons parameter rest ih =>
      cases arguments with
      | nil =>
          by_cases required : parameter.required = true
          · simp [checkFrom, required]
          · simpa [checkFrom, required] using ih []
      | cons argument arguments =>
          by_cases accepted : parameter.accepts argument.text = true
          · simp [checkFrom, accepted, ih]
          · simp [checkFrom, accepted, ih]

end Signature

end ItemFilter
