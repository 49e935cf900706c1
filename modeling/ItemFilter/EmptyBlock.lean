/-
This file finds blocks without rules.
-/

import ItemFilter.Diagnostic
import ItemFilter.Token

namespace ItemFilter.EmptyBlock

/-- The commands that open a block unless others are given. -/
def openers : List Text :=
  ["Show".toList, "Hide".toList, "Minimal".toList]

def isOpener (names : List Text) (code : CodeLine) : Bool :=
  code.isBare && names.contains code.command.text

def report (opener : CodeLine) : Diagnostic :=
  .make .emptyBlock opener.commandSpan
    (some ("\"" ++ opener.command.text.shown ++ "\" block has no conditions or actions")) none

/-- A block is empty when another opener or the end follows it at once; `waiting` is an opener that
nothing has followed yet. -/
def checkFrom (names : List Text) (waiting : Option CodeLine) : List CodeLine → List Diagnostic
  | [] => (waiting.map report).toList
  | code :: rest =>
      if isOpener names code then
        (waiting.map report).toList ++ checkFrom names (some code) rest
      else checkFrom names none rest

def check (names : List Text) (document : Document) : List Diagnostic :=
  checkFrom names none (document.numbered.filterMap CodeLine.ofLine?)

end ItemFilter.EmptyBlock
