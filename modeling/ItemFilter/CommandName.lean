/-
This file extracts the command names from a rule's expression.
-/

import ItemFilter.Text.Blank
import ItemFilter.Text.Word

namespace ItemFilter.CommandName

/-- The text without the given start, if it has it. -/
def dropStart (start text : Text) : Text :=
  if start.isPrefixOf text then text.drop start.length else text

/-- The text without the marks of a line start and of blanks. -/
def dropMarks (text : Text) : Text :=
  dropStart "\\s*".toList (dropStart "^".toList text)

def isNameOrBar (character : Char) : Bool :=
  Text.isWord character || character == '|'

/-- The names in a group at the start of the text. -/
def groupAtStart? : Text → Option Text
  | '(' :: rest =>
      let inner := dropStart "?:".toList rest
      match inner.takeWhile isNameOrBar, inner.dropWhile isNameOrBar with
      | _ :: _, ')' :: _ => some (inner.takeWhile isNameOrBar)
      | _, _ => none
  | _ => none

/-- The names in the first such group anywhere. -/
def groupAnywhere? : Text → Option Text
  | [] => none
  | character :: rest => groupAtStart? (character :: rest) <|> groupAnywhere? rest

/-- A single name, at most with a line end after it. -/
def loneWord? (text : Text) : Option Text :=
  match text.takeWhile Text.isWord, text.dropWhile Text.isWord with
  | _ :: _, [] | _ :: _, ['$'] => some (text.takeWhile Text.isWord)
  | _, _ => none

def namesIn (alternation : Text) : List Text :=
  (alternation.pieces '|').filter (!·.isEmpty)

/-- The names of the first form that has any: a group at the start, a group anywhere, a lone
word. -/
def extract (expression : Text) : List Text :=
  let stripped := (expression.replace "\\b".toList []).strip
  let forms := [groupAtStart? (dropMarks stripped), groupAnywhere? stripped,
    loneWord? (dropMarks stripped)]
  ((forms.filterMap fun form => form.map namesIn).find? (!·.isEmpty)).getD []

end ItemFilter.CommandName
