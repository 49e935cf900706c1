/-
This file reads bracketed classes of characters.
-/

import ItemFilter.Pattern.Symbol

namespace ItemFilter.Pattern

/-- A member before it is known whether it starts a range. -/
def readMember [Host] (symbol : Symbol) (rest : List Symbol) :
    Except Fault (Member × List Symbol) :=
  match symbol with
  | .plain character => .ok (.single character.toNat, rest)
  | .escaped character =>
      match categoryOf? character with
      | some (kind, negated) => .ok (.category kind negated, rest)
      | none =>
          if character = 'b' then .ok (.single 8, rest)
          else if isOctalDigit character then do
            let (digits, rest) := takePlain isOctalDigit 2 rest
            return (.single (← octalCode (character :: digits)), rest)
          else do
            let (code, rest) ← readCode character rest
            return (.single code, rest)

/-- A range runs between two single characters in order. -/
def rangeOf : Member → Member → Except Fault Member
  | .single first, .single last =>
      if first ≤ last then .ok (.range first last) else .error .malformed
  | _, _ => .error .malformed

/-- The members after those already read, last one first. The closing bracket counts only after a
member. -/
def readMembers [Host] :
    Nat → List Member → List Symbol → Except Fault (List Member × List Symbol)
  | 0, _, _ => .error .malformed
  | _, _, [] => .error .malformed
  | room + 1, members, symbol :: rest =>
      if symbol = .plain ']' ∧ members ≠ [] then .ok (members.reverse, rest)
      else do
        let (member, rest) ← readMember symbol rest
        match rest with
        | .plain '-' :: .plain ']' :: rest =>
            return ((.single '-'.toNat :: member :: members).reverse, rest)
        | .plain '-' :: last :: rest =>
            let (last, rest) ← readMember last rest
            readMembers room ((← rangeOf member last) :: members) rest
        | [.plain '-'] => .error .malformed
        | rest => readMembers room (member :: members) rest

/-- A class with one character is that character. -/
def classAtom (members : List Member) (negated : Bool) : Atom :=
  match members.eraseDups with
  | [.single code] => .literal code negated
  | members => .oneOf members negated

/-- The class after its opening bracket. -/
def readBracket [Host] (symbols : List Symbol) : Except Fault (Atom × List Symbol) :=
  match symbols with
  | .plain '^' :: rest => do
      let (members, rest) ← readMembers (rest.length + 1) [] rest
      return (classAtom members true, rest)
  | _ => do
      let (members, rest) ← readMembers (symbols.length + 1) [] symbols
      return (classAtom members false, rest)

end ItemFilter.Pattern
