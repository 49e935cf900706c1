/-
This file defines the trees of patterns. The modes in force stand at the leaves they affect.
-/

import ItemFilter.Host

namespace ItemFilter.Pattern

inductive Category where
  | digit
  | blank
  | word
deriving DecidableEq

/-- A member of a bracketed class. -/
inductive Member where
  | single (code : Nat)
  | range (first last : Nat)
  | category (kind : Category) (negated : Bool)
deriving DecidableEq

/-- In a template nothing may be repeated. -/
structure Modes where
  ignoreCase : Bool
  multiLine : Bool
  dotAll : Bool
  verbose : Bool
  ascii : Bool
  template : Bool
deriving DecidableEq

/-- No mode is on. -/
def Modes.none : Modes :=
  ⟨false, false, false, false, false, false⟩

/-- A leaf that matches one character. -/
inductive Atom where
  | any
  | literal (code : Nat) (negated : Bool)
  | oneOf (members : List Member) (negated : Bool)
deriving DecidableEq

/-- A leaf that matches a place between characters. -/
inductive Anchor where
  | lineStart
  | lineEnd
  | textStart
  | textEnd
  | boundary
  | interior
deriving DecidableEq

inductive Greed where
  | greedy
  | reluctant
  | possessive
deriving DecidableEq

/-- A look behind starts at a fixed distance. -/
inductive Direction where
  | ahead
  | behind (width : Nat)
deriving DecidableEq

inductive Node where
  | empty
  | atom (modes : Modes) (atom : Atom)
  | anchor (modes : Modes) (kind : Anchor)
  | reference (modes : Modes) (group : Nat)
  | sequence (first second : Node)
  | choice (first second : Node)
  | enclosed (body : Node)
  | capture (group : Nat) (body : Node)
  | look (direction : Direction) (negated : Bool) (body : Node)
  | atomic (body : Node)
  | conditional (group : Nat) (present absent : Node)
  | repeated (greed : Greed) (least : Nat) (most : Option Nat) (body : Node)
deriving DecidableEq

/-- The least and the greatest number of characters that a tree can match. -/
structure Width where
  least : Nat
  most : Nat
deriving DecidableEq

/-- The width as far as the host measures it. -/
def Width.clip [Host] (width : Width) : Width :=
  ⟨min width.least Host.leastWidth, min width.most Host.mostWidth⟩

/-- The width of a tree whose references go to groups of the given widths. -/
def Node.width [Host] (groups : List (Nat × Width)) : Node → Width
  | .empty => ⟨0, 0⟩
  | .atom _ _ => ⟨1, 1⟩
  | .anchor _ _ => ⟨0, 0⟩
  | .reference _ group => (groups.lookup group).getD ⟨0, 0⟩
  | .sequence first second =>
      let left := first.width groups
      let right := second.width groups
      Width.clip ⟨left.least + right.least, left.most + right.most⟩
  | .choice first second =>
      let left := first.width groups
      let right := second.width groups
      ⟨min left.least right.least, max left.most right.most⟩
  | .enclosed body => body.width groups
  | .capture _ body => body.width groups
  | .look _ _ _ => ⟨0, 0⟩
  | .atomic body => body.width groups
  | .conditional _ present absent =>
      let left := present.width groups
      let right := absent.width groups
      ⟨min left.least right.least, max left.most right.most⟩
  | .repeated _ least most body =>
      let inner := body.width groups
      Width.clip ⟨inner.least * least, inner.most * most.getD Host.mostWidth⟩

/-- The number of branches, groups and repetitions around the innermost leaf. Branches side by side
count once. -/
def Node.depth : Node → Nat
  | .empty | .atom _ _ | .anchor _ _ | .reference _ _ => 0
  | .sequence first second => max first.depth second.depth
  | .choice first second =>
      match second with
      | .choice _ _ => max (first.depth + 1) second.depth
      | _ => max first.depth second.depth + 1
  | .enclosed body | .capture _ body | .look _ _ body | .atomic body | .repeated _ _ _ body =>
      body.depth + 1
  | .conditional _ present absent => max present.depth absent.depth + 1

/-- Some part of the tree is repeated. -/
def Node.repeats : Node → Bool
  | .empty | .atom _ _ | .anchor _ _ | .reference _ _ => false
  | .sequence first second | .choice first second => first.repeats || second.repeats
  | .enclosed body | .capture _ body | .look _ _ body | .atomic body => body.repeats
  | .conditional _ present absent => present.repeats || absent.repeats
  | .repeated _ _ _ _ => true

/-- The items one after the other. -/
def Node.sequenceOf : List Node → Node
  | [] => .empty
  | [item] => item
  | item :: rest => .sequence item (sequenceOf rest)

/-- The branches in order of preference. -/
def Node.choiceOf : List Node → Node
  | [] => .empty
  | [branch] => branch
  | branch :: rest => .choice branch (choiceOf rest)

end ItemFilter.Pattern
