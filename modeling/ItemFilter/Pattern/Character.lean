/-
This file says which characters a leaf matches. Two characters that differ only in case are told
apart unless case is ignored; then a character counts through its lower-case form and through the
lower-case forms of the same letter.
-/

import ItemFilter.Pattern.Syntax
import ItemFilter.Text.Blank
import ItemFilter.Text.Case
import ItemFilter.Text.Digit
import ItemFilter.Text.Word

namespace ItemFilter.Pattern

def isAsciiLetter (code : Nat) : Bool :=
  (0x41 ≤ code && code ≤ 0x5A) || (0x61 ≤ code && code ≤ 0x7A)

def lowerAscii (code : Nat) : Nat :=
  if 0x41 ≤ code ∧ code ≤ 0x5A then code + 0x20 else code

def isAsciiWord (character : Char) : Bool :=
  isAsciiLetter character.toNat || Text.isPlainDigit character || character == '_'

def isAsciiBlank (character : Char) : Bool :=
  character == ' ' || (9 ≤ character.toNat && character.toNat ≤ 13)

def Category.contains (ascii : Bool) (character : Char) : Category → Bool
  | .digit => if ascii then Text.isPlainDigit character else Text.isDigit character
  | .blank => if ascii then isAsciiBlank character else Text.isBlank character
  | .word => if ascii then isAsciiWord character else Text.isWord character

/-- The lower-case form under the modes. -/
def Modes.lower (modes : Modes) (code : Nat) : Nat :=
  if modes.ascii then lowerAscii code else Text.lowerCode code

/-- The character has another case form under the modes. -/
def Modes.isCased (modes : Modes) (code : Nat) : Bool :=
  if modes.ascii then isAsciiLetter code else Text.isCasedCode code

/-- The other lower-case forms of the same letter under the modes. -/
def Modes.siblings (modes : Modes) (code : Nat) : List Nat :=
  if modes.ascii then [] else Text.caseSiblings code

/-- The code points with this lower-case form under the modes. -/
def Modes.origins (modes : Modes) (code : Nat) : List Nat :=
  if modes.ascii then
    (if 0x61 ≤ code ∧ code ≤ 0x7A then [code, code - 0x20]
    else if 0x41 ≤ code ∧ code ≤ 0x5A then []
    else [code])
  else Text.lowerOrigins code

/-- Whether some code point of the range has another case form. -/
def Modes.anyCased (modes : Modes) (first last : Nat) : Bool :=
  if modes.ascii then
    (first ≤ 0x5A && 0x41 ≤ last) || (first ≤ 0x7A && 0x61 ≤ last)
  else
    Text.lowerRuns.any (fun run => run.meets first last) ||
      Text.upperRuns.any (fun run => run.meets first last)

def Member.contains (modes : Modes) (character : Char) : Member → Bool
  | .single code => character.toNat == code
  | .range first last => first ≤ character.toNat && character.toNat ≤ last
  | .category kind negated => kind.contains modes.ascii character != negated

/-- The first code point outside the basic plane. -/
def astral : Nat := 0x10000

/-- The member makes its class depend on case. -/
def Member.isCased (modes : Modes) : Member → Bool
  | .single code => modes.isCased code || astral ≤ modes.lower code
  | .range first last => astral ≤ last || modes.anyCased first last
  | .category _ _ => false

/-- Whether a lower-case form belongs to a member when case is ignored. Outside the basic plane a
single character counts only as it is written, and a range through both case forms. -/
def Member.containsFolded (modes : Modes) (folded : Nat) : Member → Bool
  | .single code =>
      let lowered := modes.lower code
      if lowered < astral then folded == lowered || (modes.siblings lowered).contains folded
      else folded == code
  | .range first last =>
      let origins := (folded :: modes.siblings folded).flatMap modes.origins
      origins.any (fun origin => first ≤ origin && origin ≤ last && origin < astral) ||
        (astral ≤ last &&
          ((first ≤ folded && folded ≤ last) ||
            (first ≤ Text.upperCode folded && Text.upperCode folded ≤ last)))
  | .category kind negated => kind.contains modes.ascii (Char.ofNat folded) != negated

/-- Whether a single character is the written one under the modes. -/
def Modes.equates (modes : Modes) (code : Nat) (character : Char) : Bool :=
  if modes.ignoreCase && modes.isCased code then
    let lowered := modes.lower code
    let folded := modes.lower character.toNat
    folded == lowered || (modes.siblings lowered).contains folded
  else character.toNat == code

def Atom.accepts (modes : Modes) (character : Char) : Atom → Bool
  | .any => modes.dotAll || character != '\n'
  | .literal code negated => modes.equates code character != negated
  | .oneOf members negated =>
      if modes.ignoreCase && members.any (Member.isCased modes) then
        members.any (Member.containsFolded modes (modes.lower character.toNat)) != negated
      else members.any (Member.contains modes character) != negated

end ItemFilter.Pattern
