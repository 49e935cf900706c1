/-
This file defines quoted texts as they stand in messages. The quote is single unless the text has a
single quote and no double one.
-/

import ItemFilter.Text.Hexadecimal
import ItemFilter.Text.Printable

namespace ItemFilter.Text

/-- One character between the given quotes. -/
def quotedCharacter (mark character : Char) : Text :=
  if character = mark ∨ character = '\\' then ['\\', character]
  else if character = '\n' then ['\\', 'n']
  else if character = '\r' then ['\\', 'r']
  else if character = '\t' then ['\\', 't']
  else if isPrintable character then [character]
  else if character.toNat < 0x100 then '\\' :: 'x' :: hexadecimal 2 character.toNat
  else if character.toNat < 0x10000 then '\\' :: 'u' :: hexadecimal 4 character.toNat
  else '\\' :: 'U' :: hexadecimal 8 character.toNat

def quoteMark (text : Text) : Char :=
  if text.contains '\x27' && !text.contains '"' then '"' else '\x27'

def quoted (text : Text) : Text :=
  quoteMark text :: text.flatMap (quotedCharacter (quoteMark text)) ++ [quoteMark text]

end ItemFilter.Text
