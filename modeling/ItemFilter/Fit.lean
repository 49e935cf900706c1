/-
This file chooses the signature that fits the arguments of a line best and checks the arguments
against it.
-/

import ItemFilter.Catalog
import ItemFilter.Diagnostic
import ItemFilter.Text.Letter
import ItemFilter.Token

namespace ItemFilter

namespace Parameter

def comparisons : List Text :=
  ["=".toList, "==".toList, "!=".toList, "<".toList, "<=".toList, ">".toList, ">=".toList]

/-- The greatest value of a color component. -/
def componentMost : Nat := 255

def scoreIf (fits : Bool) : Int :=
  if fits then 1 else -1

/-- An argument speaks for its parameter, against it or, for a kind without a form, neither. -/
def scoreByKind (kind : ParameterKind) (argument : Text) : Except NumeralTooLong Int :=
  match kind with
  | .number | .numericSound | .volume | .size => .ok (scoreIf (Text.isPlainNumeral argument))
  | .rgbColor =>
      if Text.isPlainNumeral argument then do
        return scoreIf (decide ((← Text.readDigits argument) ≤ componentMost))
      else .ok (-1)
  | .namedColor | .shape | .namedSound => .ok (scoreIf (argument.head?.any Text.isLetter))
  | .string => .ok (scoreIf (Token.isQuoted argument))
  | .operator => .ok (scoreIf (comparisons.contains argument))
  | .enumeration | .unknown => .ok 0

/-- Choices settle what the kind leaves open. -/
def score (parameter : Parameter) (argument : Text) : Except NumeralTooLong Int := do
  let score ← scoreByKind parameter.kind argument
  match parameter.choices with
  | some choices => return if score = 0 then scoreIf (choices.contains argument) else score
  | none => return score

/-- The choices as a hint, if there are any. -/
def expectation (parameter : Parameter) : Option String :=
  match parameter.choices with
  | none | some [] => none
  | some choices => some ("Use one of: " ++ ", ".intercalate (choices.map Text.shown) ++ ".")

def accepts (parameter : Parameter) (argument : Text) : Bool :=
  parameter.matcher.all fun matcher => matcher.accepts argument

end Parameter

namespace Signature

/-- The scores of the arguments that have a parameter. -/
def argumentScores (signature : Signature) (arguments : List Text) :
    Except NumeralTooLong (List Int) :=
  (signature.zip arguments).mapM fun (parameter, argument) => parameter.score argument

def score (signature : Signature) (arguments : List Text) : Except NumeralTooLong Int := do
  return (← signature.argumentScores arguments).foldr (· + ·) 0

/-- The first place of the greatest score. -/
def bestIndex? : List Int → Option Nat
  | [] => none
  | score :: scores =>
      match bestIndex? scores with
      | none => some 0
      | some index => if (scores[index]?).any (score < ·) then some (index + 1) else some 0

/-- The first of the signatures that fit best. -/
def select (signatures : List Signature) (arguments : List Text) :
    Except NumeralTooLong (Option Signature) := do
  let scores ← signatures.mapM fun signature => signature.score arguments
  return (bestIndex? scores).bind (signatures[·]?)

def missing (code : CodeLine) (parameter : Parameter) : Diagnostic :=
  .make .missingParameter code.span
    (some ("Missing required " ++ parameter.kind.name ++ " parameter for \"" ++
      code.command.text.shown ++ "\""))
    parameter.expectation

def mismatch (code : CodeLine) (parameter : Parameter) (argument : Token) : Diagnostic :=
  .make .parameterMismatch (argument.span code.line.number)
    (some ("Invalid " ++ parameter.kind.name ++ " parameter \"" ++ argument.text.shown ++
      "\" for \"" ++ code.command.text.shown ++ "\": expected a value matching `" ++
      (parameter.pattern.getD "None".toList).shown ++ "`"))
    parameter.expectation

/-- The first absent parameter that is required is reported and ends the check. -/
def checkFrom (code : CodeLine) : Signature → List Token → List Diagnostic
  | [], _ => []
  | parameter :: rest, [] =>
      if parameter.required then [missing code parameter] else checkFrom code rest []
  | parameter :: rest, argument :: arguments =>
      if parameter.accepts argument.text then checkFrom code rest arguments
      else mismatch code parameter argument :: checkFrom code rest arguments

/-- The line's arguments against the signature; arguments beyond its end are not looked at. -/
def check (signature : Signature) (code : CodeLine) : List Diagnostic :=
  checkFrom code signature code.arguments

end Signature

end ItemFilter
