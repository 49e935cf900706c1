/-
This file defines the command that validates filters.
-/

import ItemFilter.Console.Session
import ItemFilter.Validation

namespace ItemFilter.Console.Check

def blockModeOption : OptionRule :=
  ⟨"--block-mode".toList, .oneOf (BlockMode.all.map fun mode => mode.name.toList)⟩

def emptyBlocksOption : OptionRule :=
  ⟨"--empty-blocks".toList, .nothing⟩

def noProgressOption : OptionRule :=
  ⟨"--no-progress".toList, .nothing⟩

def verboseOption : OptionRule :=
  ⟨"--verbose".toList, .nothing⟩

def usage : Usage :=
  ⟨[helpOption, grammarOption, blockModeOption, emptyBlocksOption, noProgressOption, verboseOption],
    true⟩

def help : List String :=
  ["usage: check_filters.py [-h] [--grammar GRAMMAR]",
   "                        [--block-mode \x7bsequential,single\x7d] [--empty-blocks]",
   "                        [--no-progress] [--verbose]",
   "                        paths [paths ...]",
   "",
   "Validate Path of Exile 2 item filter files",
   "",
   "positional arguments:",
   "  paths                 Filter files or directories containing *.filter files",
   "",
   "options:",
   "  -h, --help            show this help message and exit",
   "  --grammar GRAMMAR     TextMate grammar JSON to build the command catalog",
   "                        from (default: bundled grammar)",
   "  --block-mode \x7bsequential,single\x7d",
   "                        How consecutive block openers are treated (default:",
   "                        sequential)",
   "  --empty-blocks        Also warn about blocks with no conditions or actions",
   "  --no-progress         Disable tqdm progress bar",
   "  --verbose             Enable debug logging"]

/-- What a command line asks for. The block mode may be left without a value. -/
structure Request where
  paths : List Path
  grammar : GrammarChoice
  blockMode : Option BlockMode
  emptyBlocks : Bool
deriving DecidableEq

/-- Progress and logs are not printed here, so the options about them say nothing. -/
def Request.ofReading (reading : Reading) : Request where
  paths := reading.operands.texts.map Path.ofText
  grammar := reading.grammar
  blockMode :=
    match reading.setting? blockModeOption.name with
    | none => some .sequential
    | some given => given.bind BlockMode.ofName?
  emptyBlocks := reading.has emptyBlocksOption.name

/-- The ending of the names of filters in a directory. -/
def filterEnding : Text := ".filter".toList

/-- A directory stands for the filters below it in order; any other path for itself. A path that is
too long cannot be looked up at all. -/
def expand (session : Session) (path : Path) : Except Failure (List Path) :=
  if path.text.contains '\x00' then .ok [path]
  else match session.disk.find session.workplace path.text with
    | .ok (place, .directory) =>
        let below := (session.disk.filesBelow place filterEnding).map fun parts =>
          (⟨path.root, path.parts ++ parts⟩ : Path)
        .ok (below.mergeSort Path.precedes)
    | .error .nameTooLong => .error (.disk .nameTooLong path.text)
    | _ => .ok [path]

def filters (session : Session) (request : Request) : Except Failure (List Path) := do
  return (← request.paths.mapM (expand session)).flatten

/-- What is printed about one file, with the errors and warnings in it. -/
structure Findings where
  lines : List String
  errors : Nat
  warnings : Nat
deriving DecidableEq

def Findings.append (first second : Findings) : Findings :=
  ⟨first.lines ++ second.lines, first.errors + second.errors, first.warnings + second.warnings⟩

/-- A file that cannot be read counts as an error. -/
def unreadable (path : Path) (reason : String) : Findings :=
  ⟨[path.text.shown ++ ": error: cannot read filter: " ++ reason], 1, 0⟩

def ofDiagnostics (path : Path) (diagnostics : List Diagnostic) : Findings :=
  ⟨diagnostics.map fun diagnostic => diagnostic.render path.text,
    diagnostics.countP Diagnostic.isError, diagnostics.countP fun diagnostic => !diagnostic.isError⟩

def checkerFor (request : Request) : Checker :=
  if request.emptyBlocks then .emptyBlocks EmptyBlock.openers else .silent

def services (session : Session) (request : Request) : Services where
  workplace := session.workplace
  probe := fun path => some (session.disk.isFile session.workplace path)
  checker := checkerFor request

/-- The report on the text of a filter. -/
def report (session : Session) (request : Request) (mode : BlockMode) (catalog : Catalog)
    (path : Path) (text : Text) : Except PathFault Report :=
  Validation.validate (.ofText text.unifyNewlines (some path.text)) catalog (.forMode mode)
    (services session request)

def checkFile (session : Session) (request : Request) (mode : BlockMode) (catalog : Catalog)
    (path : Path) : Except PathFault Findings := do
  match ← session.read path with
  | .error fault => return unreadable path (fault.message path.text)
  | .ok content =>
      match Text.ofUtf8 content with
      | .error fault => return unreadable path fault.message
      | .ok text =>
          return ofDiagnostics path (← report session request mode catalog path text).diagnostics

/-- The sound files that the run looks for. They do not depend on which of them are there. -/
def lookups [Host] (session : Session) (request : Request) : List Text :=
  match filters session request, session.catalog request.grammar, request.blockMode with
  | .ok files, .ok catalog, some mode =>
      files.flatMap fun path =>
        match session.read path with
        | .ok (.ok content) =>
            match Text.ofUtf8 content with
            | .ok text =>
                match report session request mode catalog path text with
                | .ok report => report.calls
                | .error _ => []
            | .error _ => []
        | _ => []
  | _, _, _ => []

def summary (files : Nat) (findings : Findings) : String :=
  "Files: " ++ toString files ++ "  Errors: " ++ toString findings.errors ++ "  Warnings: " ++
    toString findings.warnings

def checkFiles (session : Session) (request : Request) (mode : BlockMode) (catalog : Catalog)
    (files : List Path) : Except PathFault Output := do
  let findings := (← files.mapM (checkFile session request mode catalog)).foldl .append ⟨[], 0, 0⟩
  return ⟨.status (if findings.errors = 0 then 0 else 1),
    findings.lines ++ [summary files.length findings]⟩

def noCommands (grammar : GrammarChoice) : String :=
  let place :=
    match grammar.path? with
    | some path => path.text.shown
    | none => "None"
  "No commands could be read from grammar: " ++ place

/-- The files are collected before the grammar is read, and only then is the block mode needed. -/
def answer [Host] (session : Session) (request : Request) : Except Failure Output := do
  match ← filters session request with
  | [] => return ⟨.message "No filter files found", []⟩
  | files =>
      let catalog ← session.catalog request.grammar
      if catalog.isEmpty then return ⟨.message (noCommands request.grammar), []⟩
      else match request.blockMode with
        | none => .error .noBlockMode
        | some mode => (checkFiles session request mode catalog files).mapError .path

def run [Host] (session : Session) (arguments : List Text) : Except Failure Output :=
  match usage.read arguments with
  | .error .misuse => .ok ⟨.status 2, []⟩
  | .error .help => .ok ⟨.status 0, help⟩
  | .ok reading => answer session (.ofReading reading)

end ItemFilter.Console.Check
