/-
This file defines spans: the columns of one line that a diagnostic points at.
-/

namespace ItemFilter

/-- The columns from `start` up to but not including `start + width`, counted from zero. -/
structure Span where
  line : Nat
  start : Nat
  width : Nat
deriving DecidableEq

inductive SpanFault where
  | negativeLine
  | negativeColumn
  | reversed
deriving DecidableEq

def SpanFault.message : SpanFault → String
  | .negativeLine => "LineRange line cannot be negative"
  | .negativeColumn => "LineRange columns cannot be negative"
  | .reversed => "LineRange invariant violated: start > end"

namespace Span

def stop (span : Span) : Nat :=
  span.start + span.width

/-- The span of a line between two columns. -/
def between (line start stop : Int) : Except SpanFault Span :=
  if line < 0 then .error .negativeLine
  else if start < 0 ∨ stop < 0 then .error .negativeColumn
  else if stop < start then .error .reversed
  else .ok ⟨line.toNat, start.toNat, (stop - start).toNat⟩

/-- Spans are ordered by line, then start, then stop. -/
def precedes (left right : Span) : Bool :=
  decide (left.line < right.line) ||
    (left.line == right.line &&
      (decide (left.start < right.start) ||
        (left.start == right.start && decide (left.stop ≤ right.stop))))

def sort (spans : List Span) : List Span :=
  spans.mergeSort precedes

end Span

end ItemFilter
