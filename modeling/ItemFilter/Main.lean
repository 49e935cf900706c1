/-
This file is the command line: `check` validates filters and `dump` prints a catalog. The files that
a command needs are read before it runs.
-/

import ItemFilter.Console.Check
import ItemFilter.Console.Dump

namespace ItemFilter.Console

/-- The code of the failure to read a directory as a file. -/
def directoryCode : UInt32 := 21

def entryAt (path : Text) : IO (Option Entry) := do
  try
    return some (.file (← IO.FS.readBinFile path.shown).toList)
  catch
    | .inappropriateType _ code _ => return if code == directoryCode then some .directory else none
    | .permissionDenied _ _ _ => return some .locked
    | _ => return none

/-- The entries at the paths that lead somewhere. -/
def entriesAt (workplace : Path) (paths : List Text) : IO Disk := do
  let entries ← paths.mapM fun path => do
    return (((Path.ofText path).resolve workplace).parts, ← entryAt path)
  return entries.filterMap fun (place, entry) => entry.map fun entry => (place, entry)

partial def linesOf (input : IO.FS.Stream) : IO (List Text) := do
  let line ← input.getLine
  if line.isEmpty then return []
  else return Text.trim (· == '\n') line.toList :: (← linesOf input)

/-- The files below directories cannot be listed from here, so their paths are read from the
standard input, one a line. -/
def operandEntries (workplace : Path) (paths : List Path) : IO Disk := do
  let entries ← entriesAt workplace (paths.map Path.text)
  if entries.any fun (_, entry) => entry == .directory then
    return entries ++ (← entriesAt workplace (← linesOf (← IO.getStdin)))
  else return entries

def sessionAt (workplace : Path) (entries : Disk) : Session :=
  ⟨entries ++ [(workplace.parts, .directory)], workplace⟩

def grammarEntries (workplace : Path) (grammar : GrammarChoice) : IO Disk :=
  entriesAt workplace (grammar.path?.map Path.text).toList

def checkSession (workplace : Path) (arguments : List Text) : IO Session := do
  match Check.usage.read arguments with
  | .error _ => return sessionAt workplace []
  | .ok reading =>
      let request := Check.Request.ofReading reading
      let entries := (← operandEntries workplace request.paths) ++
        (← grammarEntries workplace request.grammar)
      let sounds ← entriesAt workplace (Check.lookups (sessionAt workplace entries) request)
      return sessionAt workplace (entries ++ sounds)

def dumpSession (workplace : Path) (arguments : List Text) : IO Session := do
  match Dump.usage.read arguments with
  | .error _ => return sessionAt workplace []
  | .ok reading => return sessionAt workplace (← grammarEntries workplace reading.grammar)

/-- A last message and a failure end with status one. -/
def finish (result : Except Failure Output) : IO UInt32 := do
  match result with
  | .error failure =>
      IO.eprintln failure.message
      return 1
  | .ok output =>
      IO.print output.text
      match output.ending with
      | .status code => return code.toUInt32
      | .message text =>
          IO.eprintln text
          return 1

end ItemFilter.Console

open ItemFilter ItemFilter.Console in
def main (arguments : List String) : IO UInt32 := do
  let workplace := Path.ofText ((← IO.getEnv "PWD").getD "/").toList
  match arguments with
  | "check" :: rest =>
      let words := rest.map String.toList
      finish (Check.run (← checkSession workplace words) words)
  | "dump" :: rest =>
      let words := rest.map String.toList
      finish (Dump.run (← dumpSession workplace words) words)
  | _ =>
      IO.eprintln (String.join ((Check.help ++ [""] ++ Dump.help).map (· ++ "\n")))
      return 2
