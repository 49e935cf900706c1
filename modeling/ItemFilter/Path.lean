/-
This file defines file paths as they are written: a root and the parts below it. No path is looked
up here.
-/

import ItemFilter.Text.Basic

namespace ItemFilter

/-- A path without a root is relative. -/
structure Path where
  root : Text
  parts : List Text
deriving DecidableEq

namespace Path

/-- Empty parts and those that name the directory itself say nothing. -/
def isNamed (part : Text) : Bool :=
  !part.isEmpty && part != ['.']

/-- Exactly two leading slashes are a root of their own; any other number of them counts as one. -/
def rootOf (text : Text) : Text :=
  match (text.takeWhile (· == '/')).length with
  | 0 => []
  | 2 => ['/', '/']
  | _ => ['/']

def ofText (text : Text) : Path :=
  ⟨rootOf text, (text.pieces '/').filter isNamed⟩

/-- The written form; the empty relative path is a dot. -/
def text (path : Path) : Text :=
  if path.root.isEmpty && path.parts.isEmpty then ['.']
  else path.root ++ ['/'].intercalate path.parts

def isAbsolute (path : Path) : Bool :=
  !path.root.isEmpty

/-- A path taken from a directory. An absolute one stays as it is. -/
def join (directory path : Path) : Path :=
  if path.isAbsolute then path else ⟨directory.root, directory.parts ++ path.parts⟩

/-- A part that names the parent removes the part before it; the root is its own parent. -/
def fold (parts : List Text) : List Text :=
  parts.foldl (fun folded part => if part = ['.', '.'] then folded.dropLast else folded ++ [part]) []

/-- The absolute path without parts that name a parent. -/
def resolve (path workplace : Path) : Path :=
  ⟨['/'], fold (workplace.join path).parts⟩

def parent (path : Path) : Path :=
  ⟨path.root, path.parts.dropLast⟩

/-- The root directory. -/
def top : Path :=
  ⟨['/'], []⟩

/-- Paths are ordered part by part, where the root of an absolute path is its first part. -/
def partsPrecede : List Text → List Text → Bool
  | [], _ => true
  | _ :: _, [] => false
  | left :: lefts, right :: rights =>
      if left = right then partsPrecede lefts rights else left.precedes right

def allParts (path : Path) : List Text :=
  if path.isAbsolute then path.root :: path.parts else path.parts

def precedes (left right : Path) : Bool :=
  partsPrecede left.allParts right.allParts

end Path

end ItemFilter
