/-
This file defines the edit distance of texts: the least number of characters to insert, delete or
substitute.
-/

import ItemFilter.Text.Basic

namespace ItemFilter.EditDistance

/-- The rest of a row of distances, after the distance `current`, from the row above it. -/
def extendRow (character : Char) (current : Nat) : Text → List Nat → List Nat
  | other :: others, diagonal :: above :: rest =>
      let next := min (min (above + 1) (current + 1))
        (diagonal + if character = other then 0 else 1)
      next :: extendRow character next others (above :: rest)
  | _, _ => []

/-- The distances to all starts of `right` after one more character on the left. -/
def nextRow (right : Text) (row : List Nat) (character : Char) : List Nat :=
  let first := row.headD 0 + 1
  first :: extendRow character first right row

/-- The distances of `left` to all starts of `right`. -/
def lastRow (left right : Text) : List Nat :=
  left.foldl (nextRow right) (List.range (right.length + 1))

/-- Rows are kept for the shorter of the two texts. -/
def distance (left right : Text) : Nat :=
  if left.length < right.length then (lastRow right left).getLastD 0
  else (lastRow left right).getLastD 0

end ItemFilter.EditDistance
