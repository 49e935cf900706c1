/-
This file finds the numbered groups of a match expression. Only groups that stand directly in the
expression, or in wrappers `(?:...)` alone, are numbered. A group is optional when it or a wrapper
around it may be left out.
-/

import ItemFilter.Text.Basic

namespace ItemFilter

/-- The text between the parentheses, and the columns of the parentheses with all between them. -/
structure CaptureGroup where
  index : Nat
  text : Text
  start : Nat
  stop : Nat
  optional : Bool
deriving DecidableEq

namespace CaptureGroup

/-- The text after an opening parenthesis begins a group that captures. -/
def isCapturing (rest : Text) : Bool :=
  !"?".toList.isPrefixOf rest || "?P<".toList.isPrefixOf rest ||
    ("?<".toList.isPrefixOf rest &&
      !("?<=".toList.isPrefixOf rest || "?<!".toList.isPrefixOf rest))

/-- The text after an opening parenthesis begins a wrapper. -/
def isWrapper (rest : Text) : Bool :=
  "?:".toList.isPrefixOf rest

/-- The text after a closing parenthesis lets the group be left out. -/
def isDispensable (rest : Text) : Bool :=
  rest.head? == some '?' || rest.head? == some '*' || "\x7b0".toList.isPrefixOf rest

/-- A parenthesis that is not closed yet. -/
structure Opened where
  start : Nat
  index : Option Nat
  isWrapper : Bool
deriving DecidableEq

structure Scan where
  opened : List Opened
  count : Nat
  groups : List CaptureGroup
deriving DecidableEq

namespace Scan

def start : Scan :=
  ⟨[], 0, []⟩

def openGroup (scan : Scan) (position : Nat) (rest : Text) : Scan :=
  if isCapturing rest && scan.opened.all Opened.isWrapper then
    ⟨⟨position, some (scan.count + 1), isWrapper rest⟩ :: scan.opened, scan.count + 1, scan.groups⟩
  else ⟨⟨position, none, isWrapper rest⟩ :: scan.opened, scan.count, scan.groups⟩

/-- All groups after the position become optional if the parenthesis may be left out. -/
def relax (groups : List CaptureGroup) (position : Nat) (dispensable : Bool) : List CaptureGroup :=
  groups.map fun group =>
    { group with optional := group.optional || (dispensable && decide (position < group.start)) }

def closeGroup (scan : Scan) (whole : Text) (position : Nat) (rest : Text) : Option Scan :=
  match scan.opened with
  | [] => none
  | innermost :: opened =>
      let dispensable := isDispensable rest
      match innermost.index with
      | some index =>
          let text := (whole.drop (innermost.start + 1)).take (position - (innermost.start + 1))
          let group := ⟨index, text, innermost.start, position + 1, dispensable⟩
          some ⟨opened, scan.count, scan.groups ++ [group]⟩
      | none => some ⟨opened, scan.count, relax scan.groups innermost.start dispensable⟩

end Scan

/-- The groups from a position on, or nothing if the parentheses are not balanced. -/
def scanFrom (whole : Text) (position : Nat) (inClass : Bool) (scan : Scan) :
    Text → Option (List CaptureGroup)
  | [] => if scan.opened.isEmpty then some scan.groups else none
  | '\\' :: rest =>
      match rest with
      | [] => if scan.opened.isEmpty then some scan.groups else none
      | _ :: rest => scanFrom whole (position + 2) inClass scan rest
  | character :: rest =>
      if inClass then scanFrom whole (position + 1) (character != ']') scan rest
      else if character == '[' then scanFrom whole (position + 1) true scan rest
      else if character == '(' then
        scanFrom whole (position + 1) false (scan.openGroup position rest) rest
      else if character == ')' then
        match scan.closeGroup whole position rest with
        | some scan => scanFrom whole (position + 1) false scan rest
        | none => none
      else scanFrom whole (position + 1) false scan rest

/-- The numbered groups in order. -/
def all? (text : Text) : Option (List CaptureGroup) :=
  scanFrom text 0 false .start text

def find? (text : Text) (index : Int) : Option CaptureGroup :=
  (all? text).bind fun groups => groups.find? fun group => (group.index : Int) == index

end CaptureGroup

end ItemFilter
