/-
This file checks the arguments of commands that play a sound file.
-/

import ItemFilter.Token
import ItemFilter.Verdict

namespace ItemFilter.Sound

/-- The path that is looked up. A relative path is taken from the directory of the filter, if the
filter lies in one. -/
def lookupPath (written : Text) (directory : Option Path) : Text :=
  match directory with
  | none => written
  | some directory =>
      if written.isEmpty || (Path.ofText written).isAbsolute then written
      else (directory.join (Path.ofText written)).text

def missingArgument (code : CodeLine) : Diagnostic :=
  .make .missingParameter code.span
    (some ("Missing required string parameter for \"" ++ code.command.text.shown ++ "\""))
    (some "Pass the sound file path, e.g. `CustomAlertSound \"alert.mp3\"`.")

/-- A missing file is an error, or a warning where the sound is optional. -/
def missingFile (code : CodeLine) (argument : Token) (optional : Bool) : Diagnostic :=
  let span := argument.span code.line.number
  let file := "Sound file \"" ++ argument.unquoted.shown ++ "\" not found"
  let command := code.command.text.shown
  if optional then
    .make .missingOptionalSoundFile span (some (file ++ "; the sound will not play")) none
  else
    .make .missingSoundFile span
      (some (file ++ ". Use \"" ++ command ++ "Optional\" if the file may be absent"))
      (some ("Replace \"" ++ command ++ "\" with \"" ++ command ++
        "Optional\" to downgrade this to a warning."))

/-- Only the first argument is looked at. -/
def check (code : CodeLine) (directory : Option Path) (optional : Bool) : Verdict :=
  match code.arguments with
  | [] => .settled [missingArgument code]
  | argument :: _ =>
      .asks (lookupPath argument.unquoted directory) fun found =>
        if found then [] else [missingFile code argument optional]

end ItemFilter.Sound
