/-
This file cuts a pattern into symbols: a backslash and the character after it belong together.
-/

import ItemFilter.Pattern.Syntax
import ItemFilter.Text.Hexadecimal
import ItemFilter.Text.Numeral

namespace ItemFilter.Pattern

inductive Symbol where
  | plain (character : Char)
  | escaped (character : Char)
deriving DecidableEq

/-- A pattern is refused as malformed, for a repetition count with too many digits or for a look
behind that starts too far back. -/
inductive Fault where
  | malformed
  | numeral (fault : NumeralTooLong)
  | tooFarBehind
deriving DecidableEq

/-- The symbols of a text; a backslash at its end is refused. -/
def symbols? : Text → Option (List Symbol)
  | [] => some []
  | '\\' :: character :: rest => (symbols? rest).map (.escaped character :: ·)
  | character :: rest =>
      if character = '\\' then none else (symbols? rest).map (.plain character :: ·)

/-- The characters of the longest start of at most `count` plain symbols with the property, and the
symbols after it. -/
def takePlain (wanted : Char → Bool) : Nat → List Symbol → Text × List Symbol
  | count + 1, .plain character :: rest =>
      if wanted character then
        let (taken, after) := takePlain wanted count rest
        (character :: taken, after)
      else ([], .plain character :: rest)
  | _, symbols => ([], symbols)

/-- All plain symbols with the property at the start. -/
def takeAllPlain (wanted : Char → Bool) (symbols : List Symbol) : Text × List Symbol :=
  takePlain wanted symbols.length symbols

/-- The name before the closing character, which is dropped. -/
def takeName? (closing : Char) (symbols : List Symbol) : Option (Text × List Symbol) :=
  match takeAllPlain (· != closing) symbols with
  | (_ :: _, []) | ([], _) | (_, .escaped _ :: _) => none
  | (name, .plain _ :: rest) => some (name, rest)

def isHexDigit (character : Char) : Bool :=
  (Text.hexValue? character).isSome

def isOctalDigit (character : Char) : Bool :=
  '0' ≤ character && character ≤ '7'

def octalValue (digits : Text) : Nat :=
  digits.foldl (fun value character => value * 8 + (character.toNat - 0x30)) 0

/-- The code point written with exactly `count` hexadecimal digits. -/
def readHex (count : Nat) (symbols : List Symbol) : Except Fault (Nat × List Symbol) :=
  let (digits, rest) := takePlain isHexDigit count symbols
  match Text.hexRun? digits with
  | some code =>
      if digits.length = count ∧ code ≤ 0x10FFFF then .ok (code, rest) else .error .malformed
  | none => .error .malformed

/-- The code point of the character whose name stands in braces. -/
def readNamed [Host] (symbols : List Symbol) : Except Fault (Nat × List Symbol) :=
  match symbols with
  | .plain '{' :: rest =>
      match takeName? '}' rest with
      | some (name, rest) =>
          match Host.named? name with
          | some code => .ok (code, rest)
          | none => .error .malformed
      | none => .error .malformed
  | _ => .error .malformed

/-- Octal codes end at 255. -/
def octalCode (digits : Text) : Except Fault Nat :=
  if octalValue digits ≤ 0o377 then .ok (octalValue digits) else .error .malformed

/-- The control characters that have a letter of their own. -/
def controlCode? : Char → Option Nat
  | 'a' => some 7
  | 'f' => some 12
  | 'n' => some 10
  | 'r' => some 13
  | 't' => some 9
  | 'v' => some 11
  | '\\' => some 0x5C
  | _ => none

def categoryOf? : Char → Option (Category × Bool)
  | 'd' => some (.digit, false)
  | 'D' => some (.digit, true)
  | 's' => some (.blank, false)
  | 'S' => some (.blank, true)
  | 'w' => some (.word, false)
  | 'W' => some (.word, true)
  | _ => none

/-- The code of an escape that means the same inside and outside brackets. Letters without a meaning
are refused, and every other character stands for itself. -/
def readCode [Host] (character : Char) (rest : List Symbol) : Except Fault (Nat × List Symbol) :=
  match controlCode? character with
  | some code => .ok (code, rest)
  | none =>
      if character = 'x' then readHex 2 rest
      else if character = 'u' then readHex 4 rest
      else if character = 'U' then readHex 8 rest
      else if character = 'N' then readNamed rest
      else if character.isAlpha || Text.isPlainDigit character then .error .malformed
      else .ok (character.toNat, rest)

end ItemFilter.Pattern
