/-
This file validates documents: all lines one after the other, then a check of the whole document.
-/

import ItemFilter.EmptyBlock
import ItemFilter.Pass
import ItemFilter.Text.Quoted

namespace ItemFilter

/-- A check of the whole document, which may fail. -/
structure Checker where
  name : String
  check : Document → Option (List Diagnostic)

namespace Checker

/-- The check that reports nothing. -/
def silent : Checker :=
  ⟨"NullConflictChecker", fun _ => some []⟩

/-- The check for blocks without rules. -/
def emptyBlocks (openers : List Text) : Checker :=
  ⟨"EmptyBlockChecker", fun document => some (EmptyBlock.check openers document)⟩

end Checker

/-- What a validation takes from outside. Relative document paths start at the workplace. -/
structure Services where
  workplace : Path
  probe : Probe
  checker : Checker

/-- What is reported when a line cannot be judged or the checker fails. -/
inductive Incident where
  | unjudged (line : Line)
  | unchecked (checker : String) (path : Option Text)
deriving DecidableEq

def Incident.message : Incident → String
  | .unjudged line =>
      "Validation failed on line " ++ toString (line.number + 1) ++ ": " ++ line.text.quoted.shown
  | .unchecked checker path =>
      let place :=
        match path with
        | none | some [] => "<text>"
        | some path => path.shown
      "Conflict checker " ++ checker ++ " failed on " ++ place

structure Report where
  diagnostics : List Diagnostic
  calls : List Text
  incidents : List Incident
deriving DecidableEq

def Report.append (first second : Report) : Report :=
  ⟨first.diagnostics ++ second.diagnostics, first.calls ++ second.calls,
    first.incidents ++ second.incidents⟩

/-- A document that is made already has its own path, or the path of a document cannot be used. -/
inductive RunFault where
  | documentAndPath
  | path (fault : PathFault)
deriving DecidableEq

def RunFault.message : RunFault → String
  | .documentAndPath => "Pass either document or path, not both"
  | .path fault => fault.message

namespace Validation

/-- The lines of a document under a catalog that has commands. -/
def checkLines (document : Document) (setting : Setting) (probe : Probe) : Report :=
  let lines := document.numbered
  let steps := Pass.steps setting probe .start lines
  let failed := (lines.zip steps).filter fun (_, step) => step.failed
  ⟨steps.flatMap Pass.Step.diagnostics, steps.flatMap Pass.Step.calls,
    failed.map fun (line, _) => .unjudged line⟩

/-- A checker that fails is reported at the first line. -/
def checkWhole (document : Document) (checker : Checker) : Report :=
  match checker.check document with
  | some diagnostics => ⟨diagnostics, [], []⟩
  | none =>
      let first : Line := ⟨0, document.lines.headD []⟩
      ⟨[.make .internalError first.span
        (some "Internal error while checking the document for rule conflicts") none],
        [], [.unchecked checker.name document.path]⟩

/-- The diagnostics of the lines come before those of the checker. An empty catalog leaves the lines
unchecked. -/
def validate (document : Document) (catalog : Catalog) (options : Options) (services : Services) :
    Except PathFault Report := do
  let whole := checkWhole document services.checker
  if catalog.isEmpty then return whole
  else
    let directory ← document.directory services.workplace
    return (checkLines document ⟨catalog, options, directory⟩ services.probe).append whole

/-- The document that a run validates: the given one, or else the text under the path. -/
def chooseDocument (text : Text) (path : Option Text) (document : Option Document) :
    Except RunFault Document :=
  match document, path with
  | some _, some _ => .error .documentAndPath
  | some document, none => .ok document
  | none, path => .ok (.ofText text path)

/-- The document of a run and the report on it. -/
def run (text : Text) (path : Option Text) (document : Option Document) (catalog : Catalog)
    (options : Options) (services : Services) : Except RunFault (Document × Report) := do
  let document ← chooseDocument text path document
  return (document, ← (validate document catalog options services).mapError .path)

end Validation

end ItemFilter
