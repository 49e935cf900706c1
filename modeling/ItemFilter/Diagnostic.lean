/-
This file defines diagnostics. Severity and category belong to the code; the message and the hint
may be replaced by ones about the line at hand.
-/

import ItemFilter.Span
import ItemFilter.Text.Basic

namespace ItemFilter

inductive Severity where
  | error
  | warning
deriving DecidableEq

def Severity.name : Severity → String
  | .error => "error"
  | .warning => "warning"

inductive Code where
  | nestedBlock
  | emptyBlock
  | unknownCommand
  | missingParameter
  | parameterMismatch
  | colorArity
  | colorNotANumber
  | colorOutOfRange
  | missingSoundFile
  | missingOptionalSoundFile
  | internalError
deriving DecidableEq

namespace Code

def all : List Code :=
  [.nestedBlock, .emptyBlock, .unknownCommand, .missingParameter, .parameterMismatch, .colorArity,
   .colorNotANumber, .colorOutOfRange, .missingSoundFile, .missingOptionalSoundFile, .internalError]

def name : Code → String
  | .nestedBlock => "FILTER_NESTED_BLOCK"
  | .emptyBlock => "FILTER_EMPTY_BLOCK"
  | .unknownCommand => "FILTER_UNKNOWN_COMMAND"
  | .missingParameter => "FILTER_MISSING_PARAMETER"
  | .parameterMismatch => "FILTER_PARAMETER_MISMATCH"
  | .colorArity => "FILTER_COLOR_ARITY"
  | .colorNotANumber => "FILTER_COLOR_NOT_A_NUMBER"
  | .colorOutOfRange => "FILTER_COLOR_OUT_OF_RANGE"
  | .missingSoundFile => "FILTER_MISSING_SOUND_FILE"
  | .missingOptionalSoundFile => "FILTER_MISSING_OPTIONAL_SOUND_FILE"
  | .internalError => "FILTER_INTERNAL_ERROR"

def ofName? (text : String) : Option Code :=
  all.find? fun code => code.name == text

def message : Code → String
  | .nestedBlock => "Nested blocks are not allowed"
  | .emptyBlock => "Block has no conditions or actions"
  | .unknownCommand => "Unknown command"
  | .missingParameter => "Missing required parameter"
  | .parameterMismatch => "Parameter does not match the expected pattern"
  | .colorArity => "Color commands require at least 3 parameters (R G B)"
  | .colorNotANumber => "Color values must be numbers"
  | .colorOutOfRange => "Color values must be between 0 and 255"
  | .missingSoundFile => "Sound file not found"
  | .missingOptionalSoundFile => "Optional sound file not found"
  | .internalError => "Internal error while validating this line"

def hint : Code → Option String
  | .nestedBlock =>
      some "Add conditions or actions to the previous block before opening a new one."
  | .emptyBlock => some "Remove the empty block or add rules to it."
  | .colorArity => some "Use `<command> <red> <green> <blue> [alpha]`."
  | .internalError => some "Please report this line together with the grammar version in use."
  | _ => none

def severity : Code → Severity
  | .emptyBlock | .missingOptionalSoundFile | .internalError => .warning
  | _ => .error

def category : Code → String
  | .nestedBlock | .emptyBlock => "structure"
  | .unknownCommand => "command"
  | .missingParameter | .parameterMismatch | .colorArity | .colorNotANumber
  | .colorOutOfRange => "parameter"
  | .missingSoundFile | .missingOptionalSoundFile => "resource"
  | .internalError => "internal"

end Code

structure Diagnostic where
  code : Code
  span : Span
  message : String
  hint : Option String
deriving DecidableEq

namespace Diagnostic

/-- The tag that names this tool to an editor. -/
def source : String := "poe2-filter"

/-- A diagnostic with its code's message and hint where none are given. -/
def make (code : Code) (span : Span) (message hint : Option String) : Diagnostic :=
  ⟨code, span, message.getD code.message, hint <|> code.hint⟩

/-- A diagnostic with the message and the hint of its code. -/
def plain (code : Code) (span : Span) : Diagnostic :=
  make code span none none

def severity (diagnostic : Diagnostic) : Severity :=
  diagnostic.code.severity

def isError (diagnostic : Diagnostic) : Bool :=
  diagnostic.severity == .error

def hasErrors (diagnostics : List Diagnostic) : Bool :=
  diagnostics.any isError

/-- The printed form `path:line:column: severity: message [code]`, counted from one. -/
def render (diagnostic : Diagnostic) (path : Option Text) : String :=
  let place := toString (diagnostic.span.line + 1) ++ ":" ++ toString (diagnostic.span.start + 1)
  let location :=
    match path with
    | some path => path.shown ++ ":" ++ place
    | none => place
  location ++ ": " ++ diagnostic.severity.name ++ ": " ++ diagnostic.message ++ " [" ++
    diagnostic.code.name ++ "]"

end Diagnostic

end ItemFilter
