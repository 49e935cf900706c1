/-
This file cuts a text into lines.
-/

import ItemFilter.Text.Basic

namespace ItemFilter.Text

/-- The characters that end a line on their own. -/
def isLineBreak (character : Char) : Bool :=
  let code := character.toNat
  (10 ≤ code && code ≤ 13) || (0x1C ≤ code && code ≤ 0x1E) || code == 0x85 ||
    code == 0x2028 || code == 0x2029

/-- The lines of a text after the reversed start of its first line. A carriage return with a line
feed is one ending, and a text that ends with a line break has no empty last line. -/
def linesFrom (current : Text) : Text → List Text
  | [] => if current.isEmpty then [] else [current.reverse]
  | '\r' :: '\n' :: rest => current.reverse :: linesFrom [] rest
  | character :: rest =>
      if isLineBreak character then current.reverse :: linesFrom [] rest
      else linesFrom (character :: current) rest

def lines (text : Text) : List Text :=
  linesFrom [] text

/-- Every line ending becomes a single line feed. -/
def unifyNewlines : Text → Text
  | [] => []
  | '\r' :: '\n' :: rest => '\n' :: unifyNewlines rest
  | '\r' :: rest => '\n' :: unifyNewlines rest
  | character :: rest => character :: unifyNewlines rest

/-- The byte order mark. -/
def orderMark : Char := Char.ofNat 0xFEFF

/-- One leading byte order mark is dropped. -/
def dropOrderMark : Text → Text
  | [] => []
  | character :: rest => if character = orderMark then rest else character :: rest

end ItemFilter.Text
