/-
This file defines how blocks follow each other.
-/

import ItemFilter.UnknownName

namespace ItemFilter

/-- One block may follow another, or every block after the first is nested in it. -/
inductive BlockMode where
  | sequential
  | single
deriving DecidableEq

namespace BlockMode

def name : BlockMode → String
  | .sequential => "sequential"
  | .single => "single"

def all : List BlockMode :=
  [.sequential, .single]

def ofName? (text : Text) : Option BlockMode :=
  all.find? fun mode => mode.name.toList == text

def read (name : Text) : Except UnknownName BlockMode :=
  readName ofName? "BlockMode" name

end BlockMode

/-- A block is only opened until a rule stands in it. -/
inductive BlockState where
  | outside
  | opened
  | inside
deriving DecidableEq

namespace BlockState

def name : BlockState → String
  | .outside => "outside-block"
  | .opened => "block-opened"
  | .inside => "inside-block"

def all : List BlockState :=
  [.outside, .opened, .inside]

def ofName? (text : Text) : Option BlockState :=
  all.find? fun state => state.name.toList == text

def read (name : Text) : Except UnknownName BlockState :=
  readName ofName? "BlockState" name

/-- The state after a line that opens a block or is a rule. -/
def next (state : BlockState) (opensBlock : Bool) : BlockState :=
  match opensBlock, state with
  | true, _ => .opened
  | false, .opened => .inside
  | false, state => state

/-- A block that is opened in this state is nested. -/
def nests (mode : BlockMode) : BlockState → Bool
  | .outside => false
  | .opened => true
  | .inside => mode == .single

/-- The state after a line, and whether the line opened a nested block. -/
def advance (mode : BlockMode) (state : BlockState) (opensBlock : Bool) : Bool × BlockState :=
  (opensBlock && state.nests mode, state.next opensBlock)

end BlockState

end ItemFilter
