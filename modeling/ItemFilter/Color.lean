/-
This file checks the arguments of color commands: red, green and blue, and at most an alpha.
-/

import ItemFilter.Diagnostic
import ItemFilter.Text.Numeral
import ItemFilter.Token

namespace ItemFilter.Color

/-- The digits of a component after its sign, if it is a numeral. -/
def numeral? (text : Text) : Option (Text.Sign × Text) :=
  let (sign, digits) := text.splitSign
  if !digits.isEmpty && digits.all Text.isDigit then some (sign, digits) else none

/-- What is wrong with a component. -/
def componentFault (text : Text) : Except NumeralTooLong (Option Code) :=
  match numeral? text with
  | none => .ok (some .colorNotANumber)
  | some (sign, digits) => do
      let value := sign.apply (← Text.readDigits digits)
      return if 0 ≤ value ∧ value ≤ 255 then none else some .colorOutOfRange

def checkComponent (line : Nat) (argument : Token) : Except NumeralTooLong (List Diagnostic) := do
  return (← componentFault argument.text).toList.map fun fault => .plain fault (argument.span line)

/-- Arguments after the fourth are not looked at. -/
def check (code : CodeLine) : Except NumeralTooLong (List Diagnostic) :=
  if code.arguments.length < 3 then .ok [.plain .colorArity code.span]
  else do
    return (← (code.arguments.take 4).mapM (checkComponent code.line.number)).flatten

end ItemFilter.Color
