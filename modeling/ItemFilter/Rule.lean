/-
This file reads the rules of a grammar: the names of commands and their signatures.
-/

import ItemFilter.CaptureGroup
import ItemFilter.Catalog
import ItemFilter.CommandName
import ItemFilter.Json.Basic

namespace ItemFilter

inductive RuleFault where
  | notAnObject (type : String)
  | noFirstGroup (expression : Text)
  | noExpression
  | incompletePattern
  | noNumberedCaptures (expression : Text)
  | groupNotFound (index : Nat) (expression : Text)
  | noCommandName (expression : Text)
  | numeral (fault : NumeralTooLong)
  | unusable (fault : MatcherFault)
  | missingCapture (key : Text)
deriving DecidableEq

namespace RuleFault

def message : RuleFault → String
  | .notAnObject type => "rule must be an object, got " ++ type
  | .noFirstGroup expression =>
      "begin expression " ++ expression.quoted.shown ++ " has no first capture group"
  | .noExpression => "rule has neither a `match` nor a `begin` expression"
  | .incompletePattern => "sub-pattern needs a string `match` and an object `captures`"
  | .noNumberedCaptures expression =>
      "sub-pattern " ++ expression.quoted.shown ++ " has no numbered captures"
  | .groupNotFound index expression =>
      "capture " ++ toString index ++ " not found in " ++ expression.quoted.shown
  | .noCommandName expression =>
      "cannot extract a command name from " ++ expression.quoted.shown
  | .numeral fault => fault.message
  | .unusable fault => fault.message
  | .missingCapture key => key.quoted.shown

/-- A rule or pattern with this fault is passed over. A capture that is announced under another
spelling of its number ends the reading of the grammar, and so does one that looks too far back. -/
def isPassedOver : RuleFault → Bool
  | .missingCapture _ | .unusable .tooFarBehind => false
  | _ => true

end RuleFault

namespace Rule

abbrev Fields := List (Text × Json)

/-- The numbers of the captures in order; a number may be spelled in several ways. -/
def captureIndexes (captures : Fields) : Except NumeralTooLong (List Nat) := do
  let numerals := (captures.map (·.1)).filter Text.isPlainNumeral
  let indexes ← numerals.mapM Text.readDigits
  return (indexes.filter (1 ≤ ·)).mergeSort (· ≤ ·)

/-- The scope label of a capture. -/
def scopeOf (capture : Json) : Option Text :=
  capture.fields?.bind fun fields => (Json.field fields "name".toList).text?

def parameterOf [Host] (group : CaptureGroup) (capture : Json) : Except MatcherFault Parameter := do
  return {
    kind := .ofScope (scopeOf capture)
    required := !group.optional
    matcher := some (← Matcher.compile group.text)
    pattern := some group.text
    choices := Matcher.choices? group.text }

def readParameter [Host] (expression : Text) (captures : Fields) (index : Nat) :
    Except RuleFault Parameter :=
  match CaptureGroup.find? expression index with
  | none => .error (.groupNotFound index expression)
  | some group =>
      match captures.lookup (Text.ofNat index) with
      | none => .error (.missingCapture (Text.ofNat index))
      | some capture => (parameterOf group capture).mapError .unusable

/-- The signature that a pattern describes through its numbered captures. -/
def readSignature [Host] (pattern : Fields) : Except RuleFault Signature :=
  match (Json.field pattern "match".toList).text?, (Json.field pattern "captures".toList).fields? with
  | some expression, some captures =>
      match captureIndexes captures with
      | .error fault => .error (.numeral fault)
      | .ok [] => .error (.noNumberedCaptures expression)
      | .ok indexes => indexes.mapM (readParameter expression captures)
  | _, _ => .error .incompletePattern

/-- The signatures of the patterns that can be read. -/
def readSignatures [Host] : List Json → Except RuleFault (List Signature)
  | [] => .ok []
  | pattern :: rest =>
      match pattern.fields? with
      | none => readSignatures rest
      | some fields =>
          match readSignature fields with
          | .ok signature => do return signature :: (← readSignatures rest)
          | .error fault => if fault.isPassedOver then readSignatures rest else .error fault

def readNames (expression : Text) : Except RuleFault (List Text) :=
  match CommandName.extract expression with
  | [] => .error (.noCommandName expression)
  | names => .ok names

/-- A rule declares the commands it names. Without signatures they take no parameters. -/
def read [Host] (rule : Json) : Except RuleFault (List Text × List Signature) :=
  match rule.fields? with
  | none => .error (.notAnObject rule.typeName)
  | some fields =>
      match (Json.field fields "begin".toList).text?, (Json.field fields "match".toList).text? with
      | some expression, _ =>
          if (CaptureGroup.find? expression 1).isNone then .error (.noFirstGroup expression)
          else do
            let names ← readNames expression
            let signatures ← readSignatures (Json.field fields "patterns".toList).items
            return (names, if signatures.isEmpty then [[]] else signatures)
      | none, some expression => do return (← readNames expression, [[]])
      | none, none => .error .noExpression

end Rule

end ItemFilter
