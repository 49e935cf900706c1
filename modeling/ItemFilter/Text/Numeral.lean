/-
This file defines the value of decimal numerals. A numeral with too many digits is refused
whatever its value, so leading zeros count and the sign does not.
-/

import ItemFilter.Text.Digit

namespace ItemFilter

/-- The longest numeral that is converted. -/
def numeralLimit : Nat := 4300

/-- A numeral has more digits than are converted. -/
structure NumeralTooLong where
  digits : Nat
deriving DecidableEq

def NumeralTooLong.message (fault : NumeralTooLong) : String :=
  "Exceeds the limit (" ++ toString numeralLimit ++
    " digits) for integer string conversion: value has " ++ toString fault.digits ++
    " digits; use sys.set_int_max_str_digits() to increase the limit"

namespace Text

/-- The value of a run of decimal digits of any scripts. -/
def digitsValue (digits : Text) : Nat :=
  digits.foldl (fun value character => value * 10 + (digitValue? character).getD 0) 0

def readDigits (digits : Text) : Except NumeralTooLong Nat :=
  if digits.length ≤ numeralLimit then .ok (digitsValue digits) else .error ⟨digits.length⟩

/-- A numeral is one or more digits after at most one sign. -/
inductive Sign where
  | plus
  | minus
deriving DecidableEq

def splitSign : Text → Sign × Text
  | '-' :: rest => (.minus, rest)
  | '+' :: rest => (.plus, rest)
  | rest => (.plus, rest)

def Sign.apply : Sign → Nat → Int
  | .plus, value => value
  | .minus, value => -value

/-- The text is one or more digits `0` to `9`. -/
def isPlainNumeral (text : Text) : Bool :=
  !text.isEmpty && text.all isPlainDigit

/-- The decimal form without leading zeros. -/
def ofNat (value : Nat) : Text :=
  Nat.toDigits 10 value

end Text

end ItemFilter
