/-
This file says how the components of a color are classified. A numeral is at most one sign and then
decimal digits of any scripts; what else stands there is no number, and a numeral is in range or
out of range by its value.
-/

import Mathlib.Data.List.Forall2
import Mathlib.Data.Nat.Digits.Defs
import ItemFilter.Proofs.Color
import ItemFilter.Proofs.Traversal

namespace ItemFilter

namespace Text

/-- The text is one or more decimal digits with the values. -/
structure DecimalDigits (text : Text) (values : List Nat) : Prop where
  nonempty : text ≠ []
  values_eq : text.map digitValue? = values.map some

/-- The text is at most one sign and decimal digits with the values. They are the decimal places of
the number, the highest one first. -/
inductive Denotes : Text → List Nat → Int → Prop where
  | unsigned {text : Text} {values : List Nat} (digits : DecimalDigits text values) :
      Denotes text values (Nat.ofDigits 10 values.reverse : Nat)
  | plus {text : Text} {values : List Nat} (digits : DecimalDigits text values) :
      Denotes ('+' :: text) values (Nat.ofDigits 10 values.reverse : Nat)
  | minus {text : Text} {values : List Nat} (digits : DecimalDigits text values) :
      Denotes ('-' :: text) values (-(Nat.ofDigits 10 values.reverse : Nat))

/-- Reading digits from the left gives each its place value. -/
theorem digitsValue_eq_ofDigits {text : Text} {values : List Nat}
    (same : text.map digitValue? = values.map some) :
    text.digitsValue = Nat.ofDigits 10 values.reverse := by
  have read : text.map (fun character => (digitValue? character).getD 0) = values := by
    have taken := congrArg (List.map fun value? => value?.getD 0) same
    rw [List.map_map, List.map_map] at taken
    exact taken.trans (List.map_id values)
  have fold : text.digitsValue = values.foldl (fun value digit => value * 10 + digit) 0 := by
    rw [← read, List.foldl_map]
    rfl
  rw [fold, Nat.ofDigits_eq_foldr, List.foldr_reverse]
  congr 1
  funext value digit
  rw [Nat.mul_comm, Nat.add_comm]
  rfl

theorem DecimalDigits.length_eq {text : Text} {values : List Nat}
    (digits : DecimalDigits text values) : values.length = text.length := by
  have same := congrArg List.length digits.values_eq
  rw [List.length_map, List.length_map] at same
  exact same.symm

/-- Characters that all are digits have values. -/
theorem exists_decimalDigits {text : Text} (nonempty : text ≠ [])
    (digits : text.all isDigit = true) : ∃ values, DecimalDigits text values := by
  refine ⟨text.map fun character => (digitValue? character).getD 0, nonempty, ?_⟩
  rw [List.map_map]
  apply List.map_congr_left
  intro character member
  have digit := List.all_eq_true.mp digits character member
  obtain ⟨value, found⟩ := Option.isSome_iff_exists.mp digit
  simp [found]

theorem DecimalDigits.all_isDigit {text : Text} {values : List Nat}
    (digits : DecimalDigits text values) : text.all isDigit = true := by
  rw [List.all_eq_true]
  intro character member
  have listed : digitValue? character ∈ values.map some :=
    digits.values_eq ▸ List.mem_map_of_mem member
  obtain ⟨value, -, same⟩ := List.mem_map.mp listed
  rw [isDigit, ← same]
  rfl

/-- Digits are no signs. -/
theorem DecimalDigits.splitSign_eq {text : Text} {values : List Nat}
    (digits : DecimalDigits text values) : text.splitSign = (.plus, text) := by
  have all := digits.all_isDigit
  unfold splitSign
  split
  · simp [show isDigit '-' = false by decide] at all
  · simp [show isDigit '+' = false by decide] at all
  · rfl

end Text

namespace Color

/-- Numerals are read as what they spell. -/
theorem numeral?_of_denotes {text : Text} {values : List Nat} {value : Int}
    (spells : text.Denotes values value) :
    ∃ sign digits, numeral? text = some (sign, digits) ∧ digits.length = values.length ∧
      sign.apply digits.digitsValue = value := by
  have read : ∀ {sign : Text.Sign} {digits : Text}, text.splitSign = (sign, digits) →
      digits.DecimalDigits values → numeral? text = some (sign, digits) := by
    intro sign digits split spelled
    have nonempty : digits.isEmpty = false := by simpa using spelled.nonempty
    rw [numeral?, split]
    simp [nonempty, spelled.all_isDigit]
  cases spells with
  | unsigned digits =>
      refine ⟨.plus, text, read digits.splitSign_eq digits, digits.length_eq.symm, ?_⟩
      rw [Text.digitsValue_eq_ofDigits digits.values_eq]
      rfl
  | plus digits =>
      refine ⟨.plus, _, read rfl digits, digits.length_eq.symm, ?_⟩
      rw [Text.digitsValue_eq_ofDigits digits.values_eq]
      rfl
  | minus digits =>
      refine ⟨.minus, _, read rfl digits, digits.length_eq.symm, ?_⟩
      rw [Text.digitsValue_eq_ofDigits digits.values_eq]
      rfl

theorem denotes_of_numeral? {text : Text} {sign : Text.Sign} {digits : Text}
    (found : numeral? text = some (sign, digits)) :
    ∃ values, text.Denotes values (sign.apply digits.digitsValue) ∧
      values.length = digits.length := by
  unfold numeral? at found
  dsimp only at found
  split at found
  · next form =>
      have parts : text.splitSign = (sign, digits) := Option.some.inj found
      rw [parts] at form
      obtain ⟨nonempty, all⟩ : digits ≠ [] ∧ digits.all Text.isDigit = true := by
        simpa using form
      obtain ⟨values, spelled⟩ := Text.exists_decimalDigits nonempty all
      refine ⟨values, ?_, spelled.length_eq⟩
      rw [Text.digitsValue_eq_ofDigits spelled.values_eq]
      unfold Text.splitSign at parts
      split at parts
      · cases parts
        exact .minus spelled
      · cases parts
        exact .plus spelled
      · cases parts
        exact .unsigned spelled
  · cases found

theorem numeral?_eq_none_iff (text : Text) :
    numeral? text = none ↔ ∀ values value, ¬ text.Denotes values value := by
  constructor
  · intro none values value denotes
    obtain ⟨sign, digits, found, -⟩ := numeral?_of_denotes denotes
    rw [none] at found
    cases found
  · intro none
    rw [Option.eq_none_iff_forall_ne_some]
    intro (sign, digits) found
    obtain ⟨values, denotes, -⟩ := denotes_of_numeral? found
    exact none _ _ denotes

/-- A numeral has more digits than are converted. -/
def Overlong (text : Text) : Prop :=
  ∃ values value, text.Denotes values value ∧ 4300 < values.length

theorem isOverlong_iff (text : Text) : isOverlong text = true ↔ Overlong text := by
  constructor
  · intro long
    obtain ⟨⟨sign, digits⟩, found, many⟩ := (Option.any_eq_true _ _).mp long
    obtain ⟨values, denotes, same⟩ := denotes_of_numeral? found
    exact ⟨values, _, denotes, same ▸ of_decide_eq_true many⟩
  · intro ⟨values, value, denotes, many⟩
    obtain ⟨sign, digits, found, same, -⟩ := numeral?_of_denotes denotes
    rw [isOverlong, found, Option.any_some, decide_eq_true_iff, same]
    exact many

/-- What is reported of an argument: what is no numeral, what is out of range, and nothing else. -/
inductive Judged (line : Nat) (argument : Token) : List Diagnostic → Prop where
  | notANumber (other : ∀ values value, ¬ argument.text.Denotes values value) :
      Judged line argument [.plain .colorNotANumber (argument.span line)]
  | outOfRange {values : List Nat} {value : Int} (denotes : argument.text.Denotes values value)
      (outside : value < 0 ∨ 255 < value) :
      Judged line argument [.plain .colorOutOfRange (argument.span line)]
  | inRange {values : List Nat} {value : Int} (denotes : argument.text.Denotes values value)
      (inside : 0 ≤ value ∧ value ≤ 255) : Judged line argument []

theorem judged_componentFindings (line : Nat) (argument : Token) :
    Judged line argument (componentFindings line argument) := by
  unfold componentFindings fault?
  cases found : numeral? argument.text with
  | none => exact .notANumber ((numeral?_eq_none_iff argument.text).mp found)
  | some parts =>
      obtain ⟨sign, digits⟩ := parts
      obtain ⟨values, denotes, -⟩ := denotes_of_numeral? found
      dsimp only
      split
      · next inside => exact .inRange denotes inside
      · next outside => exact .outOfRange denotes (by omega)

/-- The check of an argument ends with the number of its digits. -/
theorem denotes_of_checkComponent {line : Nat} {argument : Token} {fault : NumeralTooLong}
    (stopped : checkComponent line argument = .error fault) :
    ∃ values value, argument.text.Denotes values value ∧ 4300 < values.length ∧
      fault = ⟨values.length⟩ := by
  obtain ⟨values, value, denotes, many⟩ :=
    (isOverlong_iff _).mp ((stops_checkComponent_iff line argument).mp ⟨fault, stopped⟩)
  obtain ⟨sign, digits, found, same, -⟩ := numeral?_of_denotes denotes
  have refused : Text.readDigits digits = .error ⟨digits.length⟩ := by
    rw [Text.readDigits, if_neg]
    rw [same]
    exact Nat.not_le.mpr many
  have fails : checkComponent line argument = .error ⟨digits.length⟩ := by
    simp only [checkComponent, componentFault, found, refused]
    rfl
  rw [fails] at stopped
  exact ⟨values, value, denotes, many, same ▸ (Except.error.inj stopped).symm⟩

/-- A check that stops has met an argument that is too long. -/
theorem denotes_of_check {code : CodeLine} {fault : NumeralTooLong}
    (stopped : check code = .error fault) :
    ∃ argument ∈ code.arguments.take 4, ∃ values value,
      argument.text.Denotes values value ∧ 4300 < values.length ∧ fault = ⟨values.length⟩ := by
  unfold check at stopped
  split at stopped
  · cases stopped
  · cases read : (code.arguments.take 4).mapM (checkComponent code.line.number) with
    | ok reports =>
        rw [read] at stopped
        cases stopped
    | error met =>
        rw [read] at stopped
        obtain rfl : met = fault := Except.error.inj stopped
        obtain ⟨before, argument, after, parts, -, fails⟩ := (mapM_eq_error_iff _ _ _).mp read
        have member : argument ∈ code.arguments.take 4 := by
          rw [parts]
          exact List.mem_append_right _ List.mem_cons_self
        exact ⟨argument, member, denotes_of_checkComponent fails⟩

theorem check_take (code : CodeLine) :
    check { code with arguments := code.arguments.take 4 } = check code := by
  by_cases few : code.arguments.length < 3
  · rw [List.take_of_length_le (by omega)]
  · have enough : ¬ (code.arguments.take 4).length < 3 := by
      rw [List.length_take]
      omega
    rw [check, check, if_neg few, if_neg enough, List.take_take, Nat.min_self]

/-- The check of a color reports the line if there are too few arguments. Otherwise it stops if one
of the first four is a numeral that is too long, and else it reports each of them for itself, in
their order. Arguments after the fourth do not matter. -/
theorem check_classifies (code : CodeLine) :
    (code.arguments.length < 3 → check code = .ok [.plain .colorArity code.span]) ∧
      (3 ≤ code.arguments.length →
        (∃ argument ∈ code.arguments.take 4, Overlong argument.text) →
        ∃ argument ∈ code.arguments.take 4, ∃ values value,
          argument.text.Denotes values value ∧ 4300 < values.length ∧
            check code = .error ⟨values.length⟩) ∧
      (3 ≤ code.arguments.length →
        (∀ argument ∈ code.arguments.take 4, ¬ Overlong argument.text) →
        ∃ reports, check code = .ok reports.flatten ∧
          List.Forall₂ (Judged code.line.number) (code.arguments.take 4) reports) ∧
      check { code with arguments := code.arguments.take 4 } = check code := by
  refine ⟨fun few => if_pos few, ?_, ?_, ?_⟩
  · intro enough ⟨argument, member, long⟩
    obtain ⟨fault, stopped⟩ := (stops_check_iff code).mpr
      ⟨enough, argument, member, (isOverlong_iff _).mpr long⟩
    obtain ⟨first, listed, values, value, denotes, many, rfl⟩ := denotes_of_check stopped
    exact ⟨first, listed, values, value, denotes, many, stopped⟩
  · intro enough short
    have readable : ¬ Stops (check code) := by
      rw [stops_check_iff]
      rintro ⟨-, argument, member, long⟩
      exact short argument member ((isOverlong_iff _).mp long)
    refine ⟨(code.arguments.take 4).map (componentFindings code.line.number), ?_, ?_⟩
    · rw [check_of_not_stops readable, if_neg (Nat.not_lt.mpr enough), List.flatMap_def]
    · rw [List.forall₂_map_right_iff, List.forall₂_same]
      intro argument _
      exact judged_componentFindings code.line.number argument
  · exact check_take code

/-- Zero has any sign, and digits may be of another script. -/
theorem check_classifies_scripts :
    let code : CodeLine := ⟨⟨0, "C -0 \u0662\u0665\u0666 red +07 x".toList⟩, ⟨"C".toList, 0⟩,
      [⟨"-0".toList, 2⟩, ⟨"\u0662\u0665\u0666".toList, 5⟩, ⟨"red".toList, 9⟩, ⟨"+07".toList, 13⟩,
        ⟨"x".toList, 17⟩]⟩
    CodeLine.ofLine? code.line = some code ∧ 3 ≤ code.arguments.length ∧
      (∀ argument ∈ code.arguments.take 4, ¬ Overlong argument.text) ∧
      (∃ reports, check code = .ok reports.flatten ∧
        List.Forall₂ (Judged code.line.number) (code.arguments.take 4) reports) ∧
      check code =
        .ok [.plain .colorOutOfRange ⟨0, 5, 3⟩, .plain .colorNotANumber ⟨0, 9, 3⟩] := by
  intro code
  have short : ∀ argument ∈ code.arguments.take 4, ¬ Overlong argument.text := by
    simp only [← isOverlong_iff]
    decide
  exact ⟨by decide +kernel, by decide, short, (check_classifies code).2.2.1 (by decide) short,
    by decide +kernel⟩

end Color

end ItemFilter
