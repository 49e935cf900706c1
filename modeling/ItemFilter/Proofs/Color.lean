/-
This file says what the check of a color finds. A component with too many digits stops it; every
other component is found right or wrong by itself.
-/

import ItemFilter.Color
import ItemFilter.Proofs.Numeral

namespace ItemFilter.Color

/-- The component is a numeral with more digits than are converted. -/
def isOverlong (text : Text) : Bool :=
  (numeral? text).any fun (_, digits) => decide (numeralLimit < digits.length)

/-- What is wrong with a component of any length. -/
def fault? (text : Text) : Option Code :=
  match numeral? text with
  | none => some .colorNotANumber
  | some (sign, digits) =>
      if 0 ≤ sign.apply digits.digitsValue ∧ sign.apply digits.digitsValue ≤ 255 then none
      else some .colorOutOfRange

/-- The diagnostics of a component that can be read. -/
def componentFindings (line : Nat) (argument : Token) : List Diagnostic :=
  (fault? argument.text).toList.map fun fault => .plain fault (argument.span line)

/-- Only a component that is too long stops the check of it. -/
theorem stops_componentFault_iff (text : Text) :
    Stops (componentFault text) ↔ isOverlong text = true := by
  unfold componentFault isOverlong
  cases numeral? text with
  | none => simp [not_stops_ok]
  | some parts =>
      obtain ⟨sign, digits⟩ := parts
      simp only [stops_map_iff, stops_readDigits_iff, Option.any_some, decide_eq_true_eq]

/-- A component that is not too long is judged by its value. -/
theorem componentFault_of_readable {text : Text} (readable : ¬ isOverlong text = true) :
    componentFault text = .ok (fault? text) := by
  cases form : numeral? text with
  | none => simp only [componentFault, fault?, form]
  | some parts =>
      obtain ⟨sign, digits⟩ := parts
      simp only [isOverlong, form, Option.any_some, decide_eq_true_eq] at readable
      simp only [componentFault, fault?, form, readDigits_of_not_stops readable]
      rfl

theorem stops_checkComponent_iff (line : Nat) (argument : Token) :
    Stops (checkComponent line argument) ↔ isOverlong argument.text = true := by
  rw [checkComponent, stops_map_iff, stops_componentFault_iff]

/-- The check stops exactly at a component that is too long. -/
theorem stops_check_iff (code : CodeLine) :
    Stops (check code) ↔
      3 ≤ code.arguments.length ∧
        ∃ argument ∈ code.arguments.take 4, isOverlong argument.text = true := by
  unfold check
  split
  · next few =>
      exact ⟨fun stops => absurd stops (not_stops_ok _), fun enough => by omega⟩
  · next enough =>
      rw [stops_map_iff, stops_mapM_iff]
      simp only [stops_checkComponent_iff]
      exact ⟨fun found => ⟨by omega, found⟩, fun found => found.2⟩

/-- A check that does not stop finds the faults of the first four arguments in their order. -/
theorem check_of_not_stops {code : CodeLine} (readable : ¬ Stops (check code)) :
    check code =
      .ok (if code.arguments.length < 3 then [.plain .colorArity code.span]
        else (code.arguments.take 4).flatMap (componentFindings code.line.number)) := by
  by_cases few : code.arguments.length < 3
  · simp only [check, few, if_true]
  · have each : ∀ argument ∈ code.arguments.take 4,
        checkComponent code.line.number argument =
          .ok (componentFindings code.line.number argument) := by
      intro argument member
      have short : ¬ isOverlong argument.text = true := by
        intro long
        exact readable ((stops_check_iff code).mpr ⟨by omega, argument, member, long⟩)
      rw [checkComponent, componentFault_of_readable short]
      rfl
    simp only [check, few, if_false, mapM_of_forall_ok each]
    rfl

end ItemFilter.Color
