/-
This file turns the text of a capture group into a matcher for one argument and, where the text is
a list of words, into the words to choose from.
-/

import ItemFilter.Pattern.Matching
import ItemFilter.Pattern.Reader

namespace ItemFilter

/-- A matcher accepts or refuses a whole argument; one newline may follow what is accepted. -/
inductive Matcher where
  | reject
  | quoted
  | equality
  | pattern (source : Text) (tree : Pattern.Node)
deriving DecidableEq

/-- A capture whose pattern can be read may still not be usable. -/
inductive MatcherFault where
  | numeral (fault : NumeralTooLong)
  | tooFarBehind
deriving DecidableEq

def MatcherFault.message : MatcherFault → String
  | .numeral fault => fault.message
  | .tooFarBehind => "invalid SRE code"

namespace Matcher

/-- Runs of blanks, written out or as `\s+`, become one `\s+`. -/
def squeezeBlanks (inRun : Bool) : Text → Text
  | [] => []
  | '\\' :: 's' :: '+' :: rest =>
      if inRun then squeezeBlanks true rest else '\\' :: 's' :: '+' :: squeezeBlanks true rest
  | character :: rest =>
      if character == ' ' || character == '\t' then
        if inRun then squeezeBlanks true rest else '\\' :: 's' :: '+' :: squeezeBlanks true rest
      else character :: squeezeBlanks false rest

/-- Doubled backslashes become single, wrappers become groups and word boundaries are dropped. -/
def normalize (text : Text) : Text :=
  let single := text.replace "\\\\".toList "\\".toList
  let grouped := single.replace "(?:".toList "(".toList
  squeezeBlanks false (grouped.replace "\\b".toList [])

/-- The text is at its end, up to one newline. -/
def isEnd (text : Text) : Bool :=
  text.isEmpty || text == ['\n']

inductive QuotedState where
  | inside
  | closed
  | spaced
deriving DecidableEq

/-- Quoted spans with blanks between them. -/
def isQuotedFrom : QuotedState → Text → Bool
  | .inside, [] => false
  | .inside, character :: rest =>
      isQuotedFrom (if character == '"' then .closed else .inside) rest
  | .closed, [] => true
  | .closed, character :: rest =>
      (character == '\n' && rest.isEmpty) ||
        (Text.isBlank character && isQuotedFrom .spaced rest)
  | .spaced, [] => false
  | .spaced, character :: rest =>
      if character == '"' then isQuotedFrom .inside rest
      else Text.isBlank character && isQuotedFrom .spaced rest

/-- Quoted spans, or a bare word. -/
def isWellQuoted (text : Text) : Bool :=
  match text with
  | '"' :: rest => isQuotedFrom .inside rest
  | _ =>
      let isBare := fun character => !Text.isBlank character && character != '"'
      !(text.takeWhile isBare).isEmpty && isEnd (text.dropWhile isBare)

def isEqualitySign : Text → Bool
  | '=' :: '=' :: rest => isEnd rest
  | '=' :: rest => isEnd rest
  | _ => false

def accepts : Matcher → Text → Bool
  | .reject, _ => false
  | .quoted, text => isWellQuoted text
  | .equality, text => isEqualitySign text
  | .pattern _ tree, text => tree.accepts text

/-- The pattern that says the same. -/
def source : Matcher → Text
  | .reject => "(?!)".toList
  | .quoted => "^(?:\"[^\"]*\"(?:\\s+\"[^\"]*\")*|[^\\s\"]+)$".toList
  | .equality => "^(?:==|=)$".toList
  | .pattern source _ => source

/-- The pattern for a whole argument. -/
def anchored (text : Text) : Text :=
  "^(?:".toList ++ text ++ ")$".toList

/-- A capture that mentions a double quote takes quoted values, and one that is no pattern takes
nothing. -/
def compile [Host] (text : Text) : Except MatcherFault Matcher :=
  if text.contains '"' then .ok .quoted
  else if text.strip = "==|=".toList ∨ text.strip = "=|==".toList then .ok .equality
  else
    let source := anchored (normalize text)
    match Pattern.parse source with
    | .ok tree => .ok (.pattern source tree)
    | .error .malformed => .ok .reject
    | .error (.numeral fault) => .error (.numeral fault)
    | .error .tooFarBehind => .error .tooFarBehind

def leadingCount (character : Char) (text : Text) : Nat :=
  (text.takeWhile (· == character)).length

/-- The text without the parentheses around all of it. -/
def peel (text : Text) : Text :=
  let depth := min (leadingCount '(' text) (leadingCount ')' text.reverse)
  (text.drop depth).take (text.length - 2 * depth)

/-- A word starts with a plain letter; word characters and spaces may follow. -/
def isChoiceWord : Text → Bool
  | [] => false
  | first :: rest =>
      first.isAlpha && rest.all fun character => Text.isWord character || character == ' '

def isAlternation (text : Text) : Bool :=
  (text.pieces '|').all isChoiceWord

/-- The words of a capture that is nothing but words, in order. -/
def choices? (text : Text) : Option (List Text) :=
  let peeled := peel (normalize text).strip
  let body := if peeled.getLast? = some '\n' then peeled.dropLast else peeled
  if isAlternation body then
    some (Text.sortDistinct (((peeled.pieces '|').map Text.strip).filter (!·.isEmpty)))
  else none

end Matcher

end ItemFilter
