/-
This file says how strings and numbers are spelled in JSON texts, and that they are read as they are
spelled. An integer with too many digits is spelled well but not read.
-/

import ItemFilter.Json.Reader
import ItemFilter.Proofs.Numeral

namespace ItemFilter.Json

/-- The text between the quotes of a string, and the units that it stands for. -/
inductive SpellsUnits : Text → List Nat → Prop where
  | nil : SpellsUnits [] []
  | plain {character : Char} {text : Text} {units : List Nat} (visible : 0x20 ≤ character.toNat)
      (quote : character ≠ '"') (backslash : character ≠ '\\') (rest : SpellsUnits text units) :
      SpellsUnits (character :: text) (character.toNat :: units)
  | escaped {escape character : Char} {text : Text} {units : List Nat}
      (known : simpleEscape? escape = some character) (rest : SpellsUnits text units) :
      SpellsUnits ('\\' :: escape :: text) (character.toNat :: units)
  | coded {a b c d : Char} {unit : Nat} {text : Text} {units : List Nat}
      (known : Text.hexRun? [a, b, c, d] = some unit) (rest : SpellsUnits text units) :
      SpellsUnits ('\\' :: 'u' :: a :: b :: c :: d :: text) (unit :: units)

/-- A string is read up to its closing quote, after the units already read. -/
theorem readString_of_spells {text : Text} {units : List Nat} (spelled : SpellsUnits text units)
    (known : List Nat) (rest : Text) :
    readString known (text ++ '"' :: rest) = .ok (joinUnits (known.reverse ++ units), rest) := by
  induction spelled generalizing known with
  | nil => rw [List.nil_append, readString, List.append_nil]
  | @plain character text units visible quote backslash others ih =>
      have kept : ¬ (decide (character.toNat < 0x20) || character == '\\') = true := by
        simpa [backslash] using visible
      rw [List.cons_append, readString, if_neg kept, ih]
      · simp
      · exact quote
      · exact fun _ _ _ _ _ same => absurd same backslash
      · exact fun _ _ same => absurd same backslash
  | @escaped escape character text units meaning others ih =>
      rw [List.cons_append, List.cons_append, readString, meaning]
      · simp [ih]
      · rintro a b c d rest rfl
        cases meaning
  | coded meaning others ih =>
      simp only [List.cons_append]
      rw [readString, meaning]
      simp [ih]

/-- What is read as a string is spelled as one. -/
theorem spells_of_readString {known : List Nat} {text value rest : Text}
    (read : readString known text = .ok (value, rest)) :
    ∃ spelled units, text = spelled ++ '"' :: rest ∧ SpellsUnits spelled units ∧
      value = joinUnits (known.reverse ++ units) := by
  fun_induction readString known text with
  | case1 => cases read
  | case2 known others =>
      obtain ⟨rfl, rfl⟩ := Prod.mk.inj (Except.ok.inj read)
      exact ⟨[], [], rfl, .nil, by rw [List.append_nil]⟩
  | case3 known a b c d others unit meaning ih =>
      obtain ⟨spelled, units, rfl, spells, rfl⟩ := ih read
      exact ⟨_, _, rfl, .coded meaning spells, by simp⟩
  | case4 => cases read
  | case5 known escape others noCode character meaning ih =>
      obtain ⟨spelled, units, rfl, spells, rfl⟩ := ih read
      exact ⟨_, _, rfl, .escaped meaning spells, by simp⟩
  | case6 => cases read
  | case7 => cases read
  | case8 known character others quote noCode noEscape kept ih =>
      obtain ⟨spelled, units, rfl, spells, rfl⟩ := ih read
      simp only [Bool.or_eq_true, decide_eq_true_eq, beq_iff_eq, not_or] at kept
      exact ⟨_, _, rfl, .plain (by omega) quote kept.2 spells, by simp⟩

theorem readString_error {known : List Nat} {text : Text} {fault : Fault}
    (fails : readString known text = .error fault) : fault = .malformed := by
  fun_induction readString known text with
  | case1 => exact (Except.error.inj fails).symm
  | case2 => cases fails
  | case3 known a b c d others unit meaning ih => exact ih fails
  | case4 => exact (Except.error.inj fails).symm
  | case5 known escape others noCode character meaning ih => exact ih fails
  | case6 => exact (Except.error.inj fails).symm
  | case7 => exact (Except.error.inj fails).symm
  | case8 known character others quote noCode noEscape kept ih => exact ih fails

/-- One or more digits. -/
structure IsDigits (text : Text) : Prop where
  nonempty : text ≠ []
  digit : ∀ character ∈ text, Text.isPlainDigit character = true

/-- The digits before the point: a lone zero, or no leading zero. -/
structure IsWhole (text : Text) : Prop extends IsDigits text where
  zero : text = ['0'] ∨ text.head? ≠ some '0'

inductive SpellsFraction : Text → Text → Prop where
  | none : SpellsFraction [] []
  | some {digits : Text} (isDigits : IsDigits digits) : SpellsFraction ('.' :: digits) digits

/-- The sign of an exponent may be left out. -/
inductive SpellsSign : Text → Text.Sign → Prop where
  | none : SpellsSign [] .plus
  | plus : SpellsSign ['+'] .plus
  | minus : SpellsSign ['-'] .minus

inductive SpellsExponent : Text → Option Int → Prop where
  | none : SpellsExponent [] none
  | some {mark : Char} {spelled digits : Text} {sign : Text.Sign} (isMark : mark = 'e' ∨ mark = 'E')
      (spells : SpellsSign spelled sign) (isDigits : IsDigits digits) :
      SpellsExponent (mark :: (spelled ++ digits)) (some (sign.apply digits.digitsValue))

/-- The sign of a number as it is written. -/
def minusText : Text.Sign → Text
  | .plus => []
  | .minus => ['-']

/-- A number is an integer unless it has a fraction or an exponent. -/
inductive SpellsNumber : Text → Json → Prop where
  | integer (sign : Text.Sign) {whole : Text} (isWhole : IsWhole whole)
      (short : whole.length ≤ numeralLimit) :
      SpellsNumber (minusText sign ++ whole) (.integer (sign.apply whole.digitsValue))
  | real (sign : Text.Sign) {whole spelled fraction spelled' : Text} {exponent : Option Int}
      (isWhole : IsWhole whole) (fractional : SpellsFraction spelled fraction)
      (exponential : SpellsExponent spelled' exponent)
      (isReal : fraction ≠ [] ∨ exponent ≠ none) :
      SpellsNumber (minusText sign ++ (whole ++ (spelled ++ spelled')))
        (.real (realValue sign (whole ++ fraction) (exponent.getD 0 - fraction.length)))

/-- No digit follows. -/
def NoDigit (rest : Text) : Prop :=
  ∀ character ∈ rest.head?, Text.isPlainDigit character = false

/-- A fraction follows. -/
def StartsFraction (rest : Text) : Prop :=
  ∃ digit others, rest = '.' :: digit :: others ∧ Text.isPlainDigit digit = true

/-- An exponent follows. -/
def StartsExponent (rest : Text) : Prop :=
  ∃ mark spelled sign digit others, (mark = 'e' ∨ mark = 'E') ∧ SpellsSign spelled sign ∧
    rest = mark :: (spelled ++ digit :: others) ∧ Text.isPlainDigit digit = true

/-- An integer that stands at the start of the text has too many digits. -/
def StartsOverlong (text : Text) (count : Nat) : Prop :=
  ∃ sign whole rest, text = minusText sign ++ (whole ++ rest) ∧ IsWhole whole ∧
    whole.length = count ∧ numeralLimit < count ∧
    NoDigit rest ∧ ¬ StartsFraction rest ∧ ¬ StartsExponent rest

/-- A value ends at the end of the text, at a space or at the punctuation of what is around it. -/
def Delimited (rest : Text) : Prop :=
  ∀ character ∈ rest.head?, isSpace character = true ∨ character = ',' ∨ character = ']' ∨
    character = '}'

theorem isDigits_takeWhile {text : Text}
    (nonempty : text.takeWhile Text.isPlainDigit ≠ []) :
    IsDigits (text.takeWhile Text.isPlainDigit) :=
  ⟨nonempty, fun character member => List.all_eq_true.mp List.all_takeWhile character member⟩

theorem noDigit_dropWhile (text : Text) : NoDigit (text.dropWhile Text.isPlainDigit) := by
  intro character begins
  have stops := List.head?_dropWhile_not Text.isPlainDigit text
  rw [begins] at stops
  simpa using stops

theorem isWhole_of_readWhole {text whole rest : Text} (read : readWhole text = some (whole, rest)) :
    text = whole ++ rest ∧ IsWhole whole ∧ (whole = ['0'] ∨ NoDigit rest) := by
  rw [readWhole.eq_def] at read
  split at read
  · obtain ⟨rfl, rfl⟩ := Prod.mk.inj (Option.some.inj read)
    exact ⟨rfl, ⟨⟨by decide, List.all_eq_true.mp (by decide)⟩, .inl rfl⟩, .inl rfl⟩
  · next zero =>
      dsimp only at read
      split at read
      · cases read
      · next found =>
          obtain ⟨rfl, rfl⟩ := Prod.mk.inj (Option.some.inj read)
          refine ⟨List.takeWhile_append_dropWhile.symm, ⟨?_, .inr ?_⟩,
            .inr (noDigit_dropWhile text)⟩
          · exact isDigits_takeWhile (by simpa using found)
          · intro leads
            cases text with
            | nil => cases leads
            | cons first others =>
                rw [List.takeWhile_cons] at leads
                split at leads
                · exact zero others (congrArg (· :: others) (Option.some.inj leads))
                · cases leads

theorem spells_of_readFraction {text digits rest : Text}
    (read : readFraction text = (digits, rest)) :
    ∃ spelled, text = spelled ++ rest ∧ SpellsFraction spelled digits ∧
      (digits = [] → ¬ StartsFraction text) := by
  rw [readFraction.eq_def] at read
  split at read
  · next others =>
      dsimp only at read
      split at read
      · next empty =>
          obtain ⟨rfl, rfl⟩ := Prod.mk.inj read
          refine ⟨[], rfl, .none, ?_⟩
          rintro - ⟨digit, more, same, isDigit⟩
          obtain rfl : others = digit :: more := (List.cons.inj same).2
          simp [isDigit] at empty
      · next found =>
          obtain ⟨rfl, rfl⟩ := Prod.mk.inj read
          have isDigits := isDigits_takeWhile (by simpa using found)
          exact ⟨_, by rw [List.cons_append, List.takeWhile_append_dropWhile], .some isDigits,
            fun empty => absurd empty isDigits.nonempty⟩
  · next point =>
      obtain ⟨rfl, rfl⟩ := Prod.mk.inj read
      refine ⟨[], rfl, .none, ?_⟩
      rintro - ⟨digit, more, rfl, -⟩
      exact point _ rfl

/-- A sign that may be left out is told from the digit after it. -/
theorem splitSign_of_spells {spelled : Text} {sign : Text.Sign} (spells : SpellsSign spelled sign)
    {digit : Char} (isDigit : Text.isPlainDigit digit = true) (others : Text) :
    Text.splitSign (spelled ++ digit :: others) = (sign, digit :: others) := by
  cases spells with
  | none =>
      rw [List.nil_append, Text.splitSign]
      · rintro rest same
        rw [(List.cons.inj same).1] at isDigit
        revert isDigit
        decide
      · rintro rest same
        rw [(List.cons.inj same).1] at isDigit
        revert isDigit
        decide
  | plus => rfl
  | minus => rfl

theorem spells_of_splitSign {text tail : Text} {sign : Text.Sign}
    (split : Text.splitSign text = (sign, tail)) :
    ∃ spelled, text = spelled ++ tail ∧ SpellsSign spelled sign := by
  rw [Text.splitSign.eq_def] at split
  split at split
  · obtain ⟨rfl, rfl⟩ := Prod.mk.inj split
    exact ⟨['-'], rfl, .minus⟩
  · obtain ⟨rfl, rfl⟩ := Prod.mk.inj split
    exact ⟨['+'], rfl, .plus⟩
  · obtain ⟨rfl, rfl⟩ := Prod.mk.inj split
    exact ⟨[], rfl, .none⟩

theorem spells_of_readExponent {text rest : Text} {exponent : Option Int}
    (read : readExponent text = (exponent, rest)) :
    ∃ spelled, text = spelled ++ rest ∧ SpellsExponent spelled exponent ∧
      (exponent = none → ¬ StartsExponent text) := by
  rw [readExponent.eq_def] at read
  split at read
  · next mark others =>
      split at read
      · next isMark =>
          cases signed : Text.splitSign others with
          | mk sign tail =>
            obtain ⟨spelled, rfl, spells⟩ := spells_of_splitSign signed
            simp only [signed] at read
            split at read
            · next empty =>
                obtain ⟨rfl, rfl⟩ := Prod.mk.inj read
                refine ⟨[], rfl, .none, ?_⟩
                rintro - ⟨other, spelled', sign', digit, more, -, spells', same, isDigit⟩
                rw [(List.cons.inj same).2, splitSign_of_spells spells' isDigit] at signed
                rw [← (Prod.mk.inj signed).2] at empty
                simp [isDigit] at empty
            · next found =>
                obtain ⟨rfl, rfl⟩ := Prod.mk.inj read
                have isDigits := isDigits_takeWhile (by simpa using found)
                refine ⟨_, ?_, .some isMark spells isDigits, fun none => by cases none⟩
                rw [List.cons_append, List.append_assoc, List.takeWhile_append_dropWhile]
      · next unmarked =>
          obtain ⟨rfl, rfl⟩ := Prod.mk.inj read
          refine ⟨[], rfl, .none, ?_⟩
          rintro - ⟨other, spelled, sign, digit, more, isMark, -, same, -⟩
          exact unmarked ((List.cons.inj same).1 ▸ isMark)
  · obtain ⟨rfl, rfl⟩ := Prod.mk.inj read
    refine ⟨[], rfl, .none, ?_⟩
    rintro - ⟨mark, spelled, sign, digit, more, -, -, same, -⟩
    cases same

theorem eq_of_splitMinus {text unsigned : Text} {sign : Text.Sign}
    (split : splitMinus text = (sign, unsigned)) : text = minusText sign ++ unsigned := by
  rw [splitMinus.eq_def] at split
  split at split
  · obtain ⟨rfl, rfl⟩ := Prod.mk.inj split
    rfl
  · obtain ⟨rfl, rfl⟩ := Prod.mk.inj split
    rfl

section Parts

variable {text unsigned whole rest rest' rest'' fraction : Text} {sign : Text.Sign}
  {exponent : Option Int} (signed : splitMinus text = (sign, unsigned))
  (reads : readWhole unsigned = some (whole, rest))

include signed

theorem readNumber_none (missing : readWhole unsigned = none) :
    readNumber text = .error .malformed := by
  simp only [readNumber, signed, missing]

include reads

theorem readNumber_short (noFraction : readFraction rest = ([], rest'))
    (noExponent : readExponent rest' = (none, rest'')) (short : whole.length ≤ numeralLimit) :
    readNumber text = .ok (.integer (sign.apply whole.digitsValue), rest'') := by
  simp only [readNumber, signed, reads, noFraction, noExponent, Text.readDigits, if_pos short]

theorem readNumber_long (noFraction : readFraction rest = ([], rest'))
    (noExponent : readExponent rest' = (none, rest'')) (long : numeralLimit < whole.length) :
    readNumber text = .error (.numeral ⟨whole.length⟩) := by
  simp only [readNumber, signed, reads, noFraction, noExponent, Text.readDigits,
    if_neg (Nat.not_le.mpr long)]

theorem readNumber_real (readsFraction : readFraction rest = (fraction, rest'))
    (readsExponent : readExponent rest' = (exponent, rest''))
    (isReal : fraction ≠ [] ∨ exponent ≠ none) :
    readNumber text =
      .ok (.real (realValue sign (whole ++ fraction) (exponent.getD 0 - fraction.length)),
        rest'') := by
  simp only [readNumber, signed, reads, readsFraction, readsExponent]
  cases fraction with
  | cons digit others => rfl
  | nil =>
      cases exponent with
      | none => simp at isReal
      | some exponent => rfl

end Parts

/-- What is read as a number is spelled as one, or it is an integer with too many digits. -/
theorem readNumber_cases (text : Text) :
    readNumber text = .error .malformed ∨
      (∃ count, readNumber text = .error (.numeral ⟨count⟩) ∧ StartsOverlong text count) ∨
      ∃ value spelled rest, readNumber text = .ok (value, rest) ∧ text = spelled ++ rest ∧
        SpellsNumber spelled value := by
  cases signed : splitMinus text with
  | mk sign unsigned =>
    obtain rfl := eq_of_splitMinus signed
    cases reads : readWhole unsigned with
    | none => exact .inl (readNumber_none signed reads)
    | some found =>
      obtain ⟨whole, rest⟩ := found
      obtain ⟨rfl, isWhole, ends⟩ := isWhole_of_readWhole reads
      cases readsFraction : readFraction rest with
      | mk fraction rest' =>
        cases readsExponent : readExponent rest' with
        | mk exponent rest'' =>
          obtain ⟨spelled, rfl, fractional, noFraction⟩ := spells_of_readFraction readsFraction
          obtain ⟨spelled', rfl, exponential, noExponent⟩ := spells_of_readExponent readsExponent
          by_cases isReal : fraction ≠ [] ∨ exponent ≠ none
          · refine .inr (.inr ⟨_, _, rest'',
              readNumber_real signed reads readsFraction readsExponent isReal, ?_,
              .real sign isWhole fractional exponential isReal⟩)
            simp only [List.append_assoc]
          · obtain ⟨rfl, rfl⟩ : fraction = [] ∧ exponent = none := by simpa using isReal
            obtain rfl : spelled = [] := by
              cases fractional with
              | none => rfl
              | some isDigits => exact absurd rfl isDigits.nonempty
            obtain rfl : spelled' = [] := by
              cases exponential
              rfl
            by_cases short : whole.length ≤ numeralLimit
            · exact .inr (.inr ⟨_, _, rest'',
                readNumber_short signed reads readsFraction readsExponent short,
                (List.append_assoc _ _ _).symm, .integer sign isWhole short⟩)
            · have long : numeralLimit < whole.length := Nat.not_le.mp short
              have ends : NoDigit rest'' := by
                refine ends.resolve_left ?_
                rintro rfl
                revert short
                decide
              exact .inr (.inl ⟨_, readNumber_long signed reads readsFraction readsExponent long,
                sign, whole, rest'', rfl, isWhole, rfl, long, ends, noFraction rfl,
                noExponent rfl⟩)

end ItemFilter.Json
