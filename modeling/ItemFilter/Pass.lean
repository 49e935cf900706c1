/-
This file runs over the lines of a document. Between two lines a pass keeps the state of the blocks
and the answers about files, and nothing else.
-/

import ItemFilter.Block
import ItemFilter.Color
import ItemFilter.Fit
import ItemFilter.Sound
import ItemFilter.Suggestion

namespace ItemFilter

structure Options where
  blockMode : BlockMode
  suggestionCount : Int
  suggestionDistance : Int
  colorSuffix : Text
  soundCommands : List Text
  optionalSuffix : Text
deriving DecidableEq

namespace Options

def standard : Options :=
  ⟨.sequential, 3, 3, "Color".toList,
    ["CustomAlertSound".toList, "CustomAlertSoundOptional".toList], "Optional".toList⟩

def forMode (mode : BlockMode) : Options :=
  { standard with blockMode := mode }

def isColor (options : Options) (name : Text) : Bool :=
  options.colorSuffix.isSuffixOf name

def isSound (options : Options) (name : Text) : Bool :=
  options.soundCommands.contains name

def isOptional (options : Options) (name : Text) : Bool :=
  options.optionalSuffix.isSuffixOf name

end Options

/-- What all lines of a pass have in common. -/
structure Setting where
  catalog : Catalog
  options : Options
  directory : Option Path
deriving DecidableEq

namespace Setting

/-- A block command that stands alone opens a block. -/
def opensBlock (setting : Setting) (code : CodeLine) : Bool :=
  code.isBare && (setting.catalog.find? code.command.text).any Command.isBlock

def unknownCommand (setting : Setting) (code : CodeLine) : Diagnostic :=
  let word := code.command.text
  let names := Suggestion.suggest word setting.catalog setting.options.suggestionDistance
    setting.options.suggestionCount
  .make .unknownCommand code.commandSpan (some (Suggestion.message word names))
    (names.head?.map fun name => "Replace with `" ++ name.shown ++ "`.")

def ofExcept (result : Except NumeralTooLong (List Diagnostic)) : Verdict :=
  match result with
  | .ok diagnostics => .settled diagnostics
  | .error _ => .failed

/-- The arguments against the signature of the command that fits them best. -/
def checkArguments (command : Command) (code : CodeLine) :
    Except NumeralTooLong (List Diagnostic) := do
  match ← Signature.select command.signatures code.argumentTexts with
  | some signature => return signature.check code
  | none => return []

/-- The verdict on a code line in a state of the blocks. -/
def judge (setting : Setting) (state : BlockState) (code : CodeLine) : Verdict :=
  let name := code.command.text
  if setting.opensBlock code then
    .settled (if state.nests setting.options.blockMode then [.plain .nestedBlock code.line.span]
      else [])
  else match setting.catalog.find? name with
    | none => .settled [setting.unknownCommand code]
    | some command =>
        if setting.options.isColor name then ofExcept (Color.check code)
        else if setting.options.isSound name then
          Sound.check code setting.directory (setting.options.isOptional name)
        else ofExcept (checkArguments command code)

end Setting

namespace Pass

structure State where
  block : BlockState
  memo : Memo
deriving DecidableEq

def State.start : State :=
  ⟨.outside, []⟩

/-- What a line gives: its diagnostics, the state after it, the paths passed on to the disk and
whether it could not be judged. -/
structure Step where
  diagnostics : List Diagnostic
  state : State
  calls : List Text
  failed : Bool
deriving DecidableEq

/-- A line that cannot be judged gets one diagnostic about that. -/
def step (setting : Setting) (probe : Probe) (state : State) (line : Line) : Step :=
  match CodeLine.ofLine? line with
  | none => ⟨[], state, [], false⟩
  | some code =>
      let outcome := (setting.judge state.block code).settle probe state.memo
      let after : State := ⟨state.block.next (setting.opensBlock code), outcome.memo⟩
      match outcome.diagnostics with
      | some diagnostics => ⟨diagnostics, after, outcome.calls, false⟩
      | none => ⟨[.plain .internalError line.span], after, outcome.calls, true⟩

/-- The steps of a pass, line by line. -/
def steps (setting : Setting) (probe : Probe) (state : State) : List Line → List Step
  | [] => []
  | line :: rest =>
      let first := step setting probe state line
      first :: steps setting probe first.state rest

end Pass

end ItemFilter
