/-
This file puts the branches of a group together. Leaves that all branches start with stand before
the choice, and branches of one character each become one class.
-/

import ItemFilter.Pattern.Syntax

namespace ItemFilter.Pattern

/-- A leaf is known by what it matches; two groups are never the same. -/
def Node.isLeaf : Node → Bool
  | .atom _ _ | .anchor _ _ | .reference _ _ => true
  | _ => false

namespace Alternation

/-- The leaves that the first branch and all others start with, and what remains of the branches. -/
def splitShared : List Node → List (List Node) → List Node × List (List Node)
  | [], others => ([], [] :: others)
  | item :: rest, others =>
      if item.isLeaf && others.all (fun branch => branch.head? == some item) then
        let (shared, branches) := splitShared rest (others.map List.tail)
        (item :: shared, branches)
      else ([], (item :: rest) :: others)

/-- The members of a branch that is one character or one class. -/
def members? : List Node → Option (List Member)
  | [.atom _ (.literal code false)] => some [.single code]
  | [.atom _ (.oneOf members false)] => some members
  | _ => none

/-- The items that stand for the branches, which are given in order of preference. -/
def items (modes : Modes) : List (List Node) → List Node
  | [] => []
  | [branch] => branch
  | first :: others =>
      let (shared, branches) := splitShared first others
      match branches.mapM members? with
      | some members => shared ++ [.atom modes (.oneOf members.flatten.eraseDups false)]
      | none => shared ++ [.choiceOf (branches.map Node.sequenceOf)]

end Alternation

end ItemFilter.Pattern
