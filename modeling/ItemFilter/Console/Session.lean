/-
This file defines what the commands of the command line have in common.
-/

import ItemFilter.Console.Arguments
import ItemFilter.Disk
import ItemFilter.Document
import ItemFilter.StandardGrammar

namespace ItemFilter.Console

/-- The disk and the directory that relative paths start from. -/
structure Session where
  disk : Disk
  workplace : Path
deriving DecidableEq

/-- A command ends with a status or with a last message. -/
inductive Ending where
  | status (code : Nat)
  | message (text : String)
deriving DecidableEq

/-- The printed lines and the ending of a command. -/
structure Output where
  ending : Ending
  lines : List String
deriving DecidableEq

/-- The lines as they are printed. -/
def Output.text (output : Output) : String :=
  String.join (output.lines.map (· ++ "\n"))

/-- A command breaks off over a path, a place on the disk, a grammar or an option without a value. -/
inductive Failure where
  | path (fault : PathFault)
  | disk (fault : DiskFault) (place : Text)
  | grammar (fault : GrammarFailure)
  | noGrammarName
  | noBlockMode
deriving DecidableEq

def Failure.message : Failure → String
  | .path fault => fault.message
  | .disk fault place => fault.message place
  | .grammar fault => fault.message
  | .noGrammarName => "expected str, bytes or os.PathLike object, not list"
  | .noBlockMode => "[] is not a valid BlockMode"

/-- The grammar that a command is told to use. -/
inductive GrammarChoice where
  | standard
  | file (path : Path)
  | nameless
deriving DecidableEq

def GrammarChoice.path? : GrammarChoice → Option Path
  | .file path => some path
  | .standard | .nameless => none

namespace Session

/-- A path with a null character is not looked up. -/
def read (session : Session) (path : Path) : Except PathFault (Except DiskFault (List UInt8)) :=
  if path.text.contains '\x00' then .error .embeddedNull
  else .ok (session.disk.read session.workplace path.text)

/-- The catalog of the chosen grammar. -/
def catalog [Host] (session : Session) (grammar : GrammarChoice) : Except Failure Catalog :=
  match grammar with
  | .standard => (StandardGrammar.load.map Prod.fst).mapError .grammar
  | .nameless => .error .noGrammarName
  | .file path => do
      let content ← (session.read path).mapError .path
      return (← (Grammar.loadFile content.toOption).mapError .grammar).1

end Session

/-- The option for a grammar. -/
def grammarOption : OptionRule :=
  ⟨"--grammar".toList, .value⟩

def helpOption : OptionRule :=
  ⟨"--help".toList, .help⟩

def Reading.grammar (reading : Reading) : GrammarChoice :=
  match reading.setting? grammarOption.name with
  | none => .standard
  | some none => .nameless
  | some (some text) => .file (.ofText text)

end ItemFilter.Console
