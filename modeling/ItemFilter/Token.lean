/-
This file cuts lines into tokens. A comment runs from the first `#` outside double quotes to the end
of the line, and blanks outside double quotes separate the tokens.
-/

import ItemFilter.Document
import ItemFilter.Text.Blank

namespace ItemFilter

/-- A part of a line and the column it starts at. -/
structure Token where
  text : Text
  start : Nat
deriving DecidableEq

namespace Token

def stop (token : Token) : Nat :=
  token.start + token.text.length

def span (token : Token) (line : Nat) : Span :=
  ⟨line, token.start, token.text.length⟩

/-- The text starts with a double quote and ends with another one. -/
def isQuoted (text : Text) : Bool :=
  decide (2 ≤ text.length) && text.head? == some '"' && text.getLast? == some '"'

/-- The text without the double quotes around it. -/
def unquoted (token : Token) : Text :=
  if isQuoted token.text then token.text.tail.dropLast else token.text

/-- The text before the comment. A backslash outside quotes hides the next character. -/
def beforeComment (inQuotes : Bool) : Text → Text
  | [] => []
  | character :: rest =>
      if character == '\\' && !inQuotes then
        match rest with
        | [] => [character]
        | hidden :: rest => character :: hidden :: beforeComment inQuotes rest
      else if character == '"' then character :: beforeComment (!inQuotes) rest
      else if character == '#' && !inQuotes then []
      else character :: beforeComment inQuotes rest

def stripComment (text : Text) : Text :=
  beforeComment false text

/-- The token being read: its characters in reverse, and whether a quote is open. -/
structure Unfinished where
  reversed : Text
  start : Nat
  inQuotes : Bool
deriving DecidableEq

def Unfinished.token (current : Unfinished) : Token :=
  ⟨current.reversed.reverse, current.start⟩

def Unfinished.push (current : Unfinished) (character : Char) : Unfinished :=
  ⟨character :: current.reversed, current.start,
    if character == '"' then !current.inQuotes else current.inQuotes⟩

/-- The tokens of the text from a column on, the first of them possibly begun. -/
def splitFrom (column : Nat) (current : Option Unfinished) : Text → List Token
  | [] => (current.map Unfinished.token).toList
  | character :: rest =>
      match current with
      | none =>
          if Text.isBlank character then splitFrom (column + 1) none rest
          else splitFrom (column + 1) (some (Unfinished.push ⟨[], column, false⟩ character)) rest
      | some begun =>
          if Text.isBlank character && !begun.inQuotes then
            begun.token :: splitFrom (column + 1) none rest
          else splitFrom (column + 1) (some (begun.push character)) rest

def split (text : Text) : List Token :=
  splitFrom 0 none text

end Token

/-- A line that holds a command. -/
structure CodeLine where
  line : Line
  command : Token
  arguments : List Token
deriving DecidableEq

namespace CodeLine

/-- Blank lines and lines that hold only a comment are no code lines. -/
def ofLine? (line : Line) : Option CodeLine :=
  match line.text.strip with
  | [] => none
  | '#' :: _ => none
  | _ :: _ =>
      match Token.split (Token.stripComment line.text) with
      | [] => none
      | command :: arguments => some ⟨line, command, arguments⟩

/-- The command stands alone. -/
def isBare (code : CodeLine) : Bool :=
  code.arguments.isEmpty

/-- The span from the command to the last token. -/
def span (code : CodeLine) : Span :=
  let stop := ((code.arguments.getLast?).getD code.command).stop
  ⟨code.line.number, code.command.start, stop - code.command.start⟩

def commandSpan (code : CodeLine) : Span :=
  code.command.span code.line.number

def argumentTexts (code : CodeLine) : List Text :=
  code.arguments.map Token.text

end CodeLine

end ItemFilter
