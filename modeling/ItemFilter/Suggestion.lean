/-
This file suggests commands for names that a catalog does not know.
-/

import ItemFilter.Catalog
import ItemFilter.EditDistance
import ItemFilter.Text.Lowercase

namespace ItemFilter.Suggestion

/-- Mistakes that are farther from the right name than others. -/
def mistakes : List (Text × Text) :=
  [("settext".toList, "SetTextColor".toList),
   ("setborder".toList, "SetBorderColor".toList),
   ("setbackground".toList, "SetBackgroundColor".toList),
   ("setcolour".toList, "SetTextColor".toList),
   ("settextcolour".toList, "SetTextColor".toList),
   ("setbordercolour".toList, "SetBorderColor".toList),
   ("setbackgroundcolour".toList, "SetBackgroundColor".toList)]

/-- Names are compared without regard to case. -/
def distance (word name : Text) : Nat :=
  EditDistance.distance word.lower name.lower

/-- The names within the distance, nearest first and otherwise in the order of the catalog. -/
def ranked (word : Text) (catalog : Catalog) (most : Int) : List Text :=
  let near := (catalog.names.map fun name => (distance word name, name)).filter fun (apart, _) =>
    decide ((apart : Int) ≤ most)
  (near.mergeSort fun left right => decide (left.1 ≤ right.1)).map (·.2)

/-- The right name for a common mistake, if the catalog has it. -/
def correction? (word : Text) (catalog : Catalog) : Option Text :=
  (mistakes.lookup word.lower).filter catalog.hasName

/-- The correction stands before the near names. -/
def candidates (word : Text) (catalog : Catalog) (most : Int) : List Text :=
  match correction? word catalog with
  | some name => name :: (ranked word catalog most).filter (· != name)
  | none => ranked word catalog most

/-- At most `limit` items; a negative limit leaves out that many at the end. -/
def cut (limit : Int) (names : List Text) : List Text :=
  if 0 ≤ limit then names.take limit.toNat else names.take (names.length - (-limit).toNat)

def suggest (word : Text) (catalog : Catalog) (most limit : Int) : List Text :=
  cut limit (candidates word catalog most)

def named (name : Text) : String :=
  "\"" ++ name.shown ++ "\""

/-- The names as an enumeration. -/
def enumerate (names : List Text) : String :=
  match names.reverse with
  | [] => ""
  | [name] => named name
  | last :: earlier =>
      ", ".intercalate (earlier.reverse.map named) ++ " or " ++ named last

def message (word : Text) (names : List Text) : String :=
  let start := "Unknown command " ++ named word
  if names.isEmpty then start ++ "; no similar command exists"
  else start ++ ". Did you mean " ++ enumerate names ++ "?"

end ItemFilter.Suggestion
