/-
This file reads and writes hexadecimal numbers.
-/

import ItemFilter.Text.Basic

namespace ItemFilter.Text

/-- The lower-case hexadecimal form with at least `width` digits. -/
def hexadecimal (width value : Nat) : Text :=
  let digits := Nat.toDigits 16 value
  List.replicate (width - digits.length) '0' ++ digits

def hexValue? (character : Char) : Option Nat :=
  if '0' ≤ character ∧ character ≤ '9' then some (character.toNat - 0x30)
  else if 'a' ≤ character ∧ character ≤ 'f' then some (character.toNat - 0x61 + 10)
  else if 'A' ≤ character ∧ character ≤ 'F' then some (character.toNat - 0x41 + 10)
  else none

/-- The value of a run of hexadecimal digits. -/
def hexRun? (digits : Text) : Option Nat :=
  digits.foldlM (fun value character => (hexValue? character).map (value * 16 + ·)) 0

end ItemFilter.Text
