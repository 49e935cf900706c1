/-
This file defines filter documents: the lines of a text and the path it was read from.
-/

import ItemFilter.Path
import ItemFilter.Span
import ItemFilter.Text.Lines

namespace ItemFilter

/-- A line with its number, counted from zero. -/
structure Line where
  number : Nat
  text : Text
deriving DecidableEq

/-- The span of the whole line. -/
def Line.span (line : Line) : Span :=
  ⟨line.number, 0, line.text.length⟩

structure Document where
  lines : List Text
  path : Option Text
deriving DecidableEq

/-- The path of a document holds a null character. -/
inductive PathFault where
  | embeddedNull
deriving DecidableEq

def PathFault.message : PathFault → String
  | .embeddedNull => "embedded null byte"

namespace Document

/-- One leading byte order mark is not part of the document. -/
def ofText (text : Text) (path : Option Text) : Document :=
  ⟨text.dropOrderMark.lines, path⟩

def numbered (document : Document) : List Line :=
  document.lines.zipIdx.map fun (text, number) => ⟨number, text⟩

/-- The lines joined by line feeds. -/
def source (document : Document) : Text :=
  "\n".toList.intercalate document.lines

/-- The directory that the document lies in, for a path taken from the working directory. -/
def directory (document : Document) (workplace : Path) : Except PathFault (Option Path) :=
  match document.path with
  | none => .ok none
  | some path =>
      if path.contains '\x00' then .error .embeddedNull
      else .ok (some ((Path.ofText path).resolve workplace).parent)

end Document

end ItemFilter
