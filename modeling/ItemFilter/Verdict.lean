/-
This file defines verdicts on lines. A verdict needs at most one look at the disk.
-/

import ItemFilter.Diagnostic

namespace ItemFilter

/-- A line is settled by itself, cannot be judged, or depends on whether a file exists. -/
inductive Verdict where
  | settled (diagnostics : List Diagnostic)
  | failed
  | asks (path : Text) (answer : Bool → List Diagnostic)

/-- A look for a file may fail. -/
abbrev Probe := Text → Option Bool

/-- The answers already given in a pass. -/
abbrev Memo := List (Text × Bool)

/-- What a look for a file gives, and the paths that were passed on to the disk. -/
structure Answer where
  result : Option Bool
  memo : Memo
  calls : List Text
deriving DecidableEq

/-- A path is looked up only until there is an answer for it. -/
def Memo.ask (memo : Memo) (probe : Probe) (path : Text) : Answer :=
  match memo.lookup path with
  | some known => ⟨some known, memo, []⟩
  | none =>
      match probe path with
      | some found => ⟨some found, memo ++ [(path, found)], [path]⟩
      | none => ⟨none, memo, [path]⟩

namespace Verdict

/-- What remains of a verdict after a look at the disk; nothing if it failed. -/
structure Outcome where
  diagnostics : Option (List Diagnostic)
  memo : Memo
  calls : List Text
deriving DecidableEq

/-- The verdict under a probe whose answers are remembered. -/
def settle (verdict : Verdict) (probe : Probe) (memo : Memo) : Outcome :=
  match verdict with
  | .settled diagnostics => ⟨some diagnostics, memo, []⟩
  | .failed => ⟨none, memo, []⟩
  | .asks path answer =>
      let looked := memo.ask probe path
      ⟨looked.result.map answer, looked.memo, looked.calls⟩

end Verdict

end ItemFilter
