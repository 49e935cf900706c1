/-
This file says which captures have no matcher, and what they do to the signature of their pattern. A
capture that is malformed takes no value, and the signature is read all the same. Only a count with
too many digits and, where the host sets a limit, a look behind that goes too far leave a capture
without a matcher, and then the pattern has no signature.
-/

import ItemFilter.Proofs.CaptureGroup
import ItemFilter.Proofs.Pattern.Joining
import ItemFilter.Proofs.Pattern.Limits
import ItemFilter.Proofs.Reordering

namespace ItemFilter

namespace Text

theorem exists_digitValue? {digit : Char} (plain : isPlainDigit digit = true) :
    ∃ value, digitValue? digit = some value ∧ value < 10 ∧ Nat.digitChar value = digit := by
  rw [isPlainDigit, Bool.and_eq_true, decide_eq_true_eq, decide_eq_true_eq] at plain
  have low : 48 ≤ digit.toNat := plain.1
  have high : digit.toNat ≤ 57 := plain.2
  refine ⟨digit.toNat - 48, ?_, by omega, ?_⟩
  · rw [digitValue?, zeros, List.findSome?_cons, if_pos ⟨low, high⟩]
  · apply Char.toNat_inj.mp
    rw [Nat.toNat_digitChar_of_lt_ten (by omega)]
    omega

/-- Digits that follow a number are written behind it. -/
theorem toDigits_append {digits : Text} (plain : ∀ digit ∈ digits, isPlainDigit digit = true)
    {value : Nat} (positive : 0 < value) :
    Nat.toDigits 10 value ++ digits =
      Nat.toDigits 10 (digits.foldl
        (fun value character => value * 10 + (digitValue? character).getD 0) value) := by
  induction digits generalizing value with
  | nil => exact List.append_nil _
  | cons digit rest ih =>
      obtain ⟨first, later⟩ := List.forall_mem_cons.mp plain
      obtain ⟨last, valued, small, written⟩ := exists_digitValue? first
      have behind : Nat.toDigits 10 value ++ [digit] = Nat.toDigits 10 (value * 10 + last) := by
        rw [← written, ← Nat.toDigits_of_lt_base small, Nat.mul_comm,
          Nat.toDigits_append_toDigits (by decide) positive small]
      rw [List.foldl_cons, valued, Option.getD_some, ← ih later (by omega), ← behind,
        List.append_assoc, List.singleton_append]

/-- A numeral without a leading zero is the decimal form of its value. -/
theorem ofNat_digitsValue {digits : Text} (plain : isPlainNumeral digits = true)
    (first : digits.head? ≠ some '0') : ofNat digits.digitsValue = digits := by
  rw [isPlainNumeral, Bool.and_eq_true, List.all_eq_true] at plain
  cases digits with
  | nil => cases plain.1
  | cons digit rest =>
      obtain ⟨leading, later⟩ := List.forall_mem_cons.mp plain.2
      obtain ⟨value, valued, small, written⟩ := exists_digitValue? leading
      have positive : 0 < value := by
        apply Nat.pos_of_ne_zero
        rintro rfl
        exact first (congrArg some written.symm)
      rw [ofNat, digitsValue, List.foldl_cons, valued, Option.getD_some, Nat.zero_mul, Nat.zero_add,
        ← toDigits_append later positive, Nat.toDigits_of_lt_base small, written,
        List.singleton_append]

end Text

namespace Matcher

/-- The capture is neither taken as quoted values nor as an equality sign. -/
structure IsPattern (text : Text) : Prop where
  unquoted : '"' ∉ text
  unequal : text.strip ≠ "==|=".toList ∧ text.strip ≠ "=|==".toList

/-- The capture is taken as a pattern, and this pattern cannot be read. -/
structure Refused [Host] (text : Text) : Prop where
  isPattern : IsPattern text
  unread : ∀ tree, Pattern.parse (anchored (normalize text)) ≠ .ok tree

/-- The capture is taken as a pattern that is not malformed but still refused. -/
inductive Unusable [Host] (text : Text) : MatcherFault → Prop
  | count {fault : NumeralTooLong} (isPattern : IsPattern text)
      (long : Pattern.CountsTooLong (anchored (normalize text)) fault) :
      Unusable text (.numeral fault)
  | look (isPattern : IsPattern text)
      (far : Pattern.LooksTooFar (anchored (normalize text))) : Unusable text .tooFarBehind

section Compile

variable {text : Text}

theorem compile_of_isPattern [Host] (isPattern : IsPattern text) :
    compile text =
      match Pattern.parse (anchored (normalize text)) with
      | .ok tree => .ok (.pattern (anchored (normalize text)) tree)
      | .error .malformed => .ok .reject
      | .error (.numeral fault) => .error (.numeral fault)
      | .error .tooFarBehind => .error .tooFarBehind := by
  have unmentioned : ¬ text.contains '"' = true := by
    rw [List.contains_iff_mem]
    exact isPattern.unquoted
  exact (if_neg unmentioned).trans (if_neg (not_or.mpr isPattern.unequal))

theorem isPattern_of_compile [Host] {fault : MatcherFault} (fails : compile text = .error fault) :
    IsPattern text := by
  unfold compile at fails
  split_ifs at fails with quote equal
  exact ⟨fun member => quote (List.contains_iff_mem.mpr member), not_or.mp equal⟩

/-- A capture has no matcher exactly when it is unusable. -/
theorem compile_eq_error_iff [Host] {fault : MatcherFault} :
    compile text = .error fault ↔ Unusable text fault := by
  constructor
  · intro fails
    have isPattern := isPattern_of_compile fails
    rw [compile_of_isPattern isPattern] at fails
    split at fails
    · cases fails
    · cases fails
    · next cause parsed =>
        obtain rfl := Except.error.inj fails
        exact .count isPattern ((Pattern.parse_eq_numeral_iff _ cause).mp parsed)
    · next parsed =>
        obtain rfl := Except.error.inj fails
        exact .look isPattern ((Pattern.parse_eq_tooFarBehind_iff _).mp parsed)
  · rintro (⟨isPattern, long⟩ | ⟨isPattern, far⟩)
    · rw [compile_of_isPattern isPattern, (Pattern.parse_eq_numeral_iff _ _).mpr long]
    · rw [compile_of_isPattern isPattern, (Pattern.parse_eq_tooFarBehind_iff _).mpr far]

theorem Unusable.refused [Host] {fault : MatcherFault} (unusable : Unusable text fault) :
    Refused text := by
  have fails := compile_eq_error_iff.mpr unusable
  have isPattern := isPattern_of_compile fails
  refine ⟨isPattern, fun tree parsed => ?_⟩
  rw [compile_of_isPattern isPattern, parsed] at fails
  cases fails

end Compile

section Counts

variable {text : Text}

/-- A letter with the digits as its count. -/
def counted (digits : Text) : Text :=
  'a' :: '{' :: (digits ++ ['}'])

end Counts

end Matcher

namespace CaptureGroup

end CaptureGroup

namespace Rule

/-- Some key is a number from one on, all of them can be converted, have no leading zero and name
groups of the expression. -/
structure WellNumbered (expression : Text) (captures : Fields) : Prop where
  numbered : ∃ index, Announces captures index
  short : KeysShort captures
  plain : ∀ capture ∈ captures, Text.isPlainNumeral capture.1 = true →
    1 ≤ capture.1.digitsValue → capture.1.head? ≠ some '0'
  found : ∀ index, Announces captures index → (CaptureGroup.find? expression index).isSome = true

section Signatures

variable {pattern captures : Fields} {expression : Text}

/-- A number that is spelled as it is looked up is found. -/
theorem WellNumbered.listed (numbered : WellNumbered expression captures) {index : Nat}
    (announced : Announces captures index) :
    ∃ capture, captures.lookup (Text.ofNat index) = some capture := by
  obtain ⟨positive, capture, member, numeral, rfl⟩ := announced
  rw [Text.ofNat_digitsValue numeral (numbered.plain capture member numeral positive),
    ← Option.isSome_iff_exists, List.lookup_isSome_iff]
  exact ⟨capture, member, BEq.rfl⟩

end Signatures

end Rule

end ItemFilter
