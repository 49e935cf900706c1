/-
This file defines the parameters of commands and the scope labels that give them a kind.
-/

import ItemFilter.Matcher
import ItemFilter.UnknownName

namespace ItemFilter

inductive ParameterKind where
  | number
  | rgbColor
  | namedColor
  | shape
  | numericSound
  | namedSound
  | volume
  | size
  | operator
  | string
  | enumeration
  | unknown
deriving DecidableEq

namespace ParameterKind

def all : List ParameterKind :=
  [.number, .rgbColor, .namedColor, .shape, .numericSound, .namedSound, .volume, .size, .operator,
   .string, .enumeration, .unknown]

def name : ParameterKind → String
  | .number => "number"
  | .rgbColor => "rgb-color"
  | .namedColor => "named-color"
  | .shape => "shape"
  | .numericSound => "numeric-sound-id"
  | .namedSound => "named-sound-id"
  | .volume => "volume"
  | .size => "size"
  | .operator => "operator"
  | .string => "string"
  | .enumeration => "enum"
  | .unknown => "unknown"

def ofName? (text : Text) : Option ParameterKind :=
  all.find? fun kind => kind.name.toList == text

def read (name : Text) : Except UnknownName ParameterKind :=
  readName ofName? "ParameterType" name

/-- Special labels stand before the general ones they contain. -/
def labels : List (Text × ParameterKind) :=
  [("constant.numeric.color".toList, .rgbColor),
   ("constant.numeric.sound".toList, .numericSound),
   ("constant.language.sound".toList, .namedSound),
   ("constant.numeric.volume".toList, .volume),
   ("support.constant.color".toList, .namedColor),
   ("support.constant.shape".toList, .shape),
   ("constant.numeric.size".toList, .size),
   ("keyword.operator.comparison".toList, .operator),
   ("constant.numeric".toList, .number),
   ("string.quoted.double".toList, .string),
   ("constant.language".toList, .enumeration)]

/-- The kind of the first label that the scope contains. -/
def ofScope (scope : Option Text) : ParameterKind :=
  match scope with
  | none => .unknown
  | some scope =>
      (labels.findSome? fun (label, kind) =>
        if Text.includes label scope then some kind else none).getD .unknown

end ParameterKind

/-- One parameter of a command. -/
structure Parameter where
  kind : ParameterKind
  required : Bool
  matcher : Option Matcher
  pattern : Option Text
  choices : Option (List Text)
deriving DecidableEq

namespace Parameter

/-- Parameters are compared without their matchers, which follow from the patterns. -/
def same (left right : Parameter) : Bool :=
  left.kind == right.kind && left.required == right.required && left.pattern == right.pattern &&
    left.choices == right.choices

/-- The mark of a parameter that may be left out. -/
def mark (parameter : Parameter) : String :=
  if parameter.required then "" else "?"

def describe (parameter : Parameter) : String :=
  let pattern :=
    match parameter.pattern with
    | some text => text.quoted.shown
    | none => "None"
  "ParameterDescriptor(" ++ parameter.kind.name ++ parameter.mark ++ " pattern=" ++ pattern ++ ")"

end Parameter

/-- The parameters that a command takes, in order. -/
abbrev Signature := List Parameter

namespace Signature

def same : Signature → Signature → Bool
  | [], [] => true
  | left :: lefts, right :: rights => left.same right && same lefts rights
  | _, _ => false

end Signature

end ItemFilter
