/-
This file reads patterns. Open groups stand on a stack; every step takes at least one symbol.
-/

import ItemFilter.Pattern.Alternation
import ItemFilter.Pattern.Bracket
import ItemFilter.Pattern.Character
import ItemFilter.Text.Blank
import ItemFilter.Text.Identifier

namespace ItemFilter.Pattern

/-- What an opening parenthesis started. -/
inductive Opening where
  | whole
  | plain
  | enclosed
  | capture (group : Nat)
  | ahead (negated : Bool)
  | behind (negated outermost : Bool)
  | atomic
  | conditional (group : Nat)
deriving DecidableEq

/-- An item of a branch. A plain group gives its items to the branch around it. -/
inductive Item where
  | single (node : Node)
  | plain (nodes : List Node)
deriving DecidableEq

def Item.nodes : Item → List Node
  | .single node => [node]
  | .plain nodes => nodes

/-- An open group: its finished branches and the items of the current one, last ones first. -/
structure Frame where
  opening : Opening
  modes : Modes
  branches : List (List Node)
  items : List Item
deriving DecidableEq

def Frame.start (opening : Opening) (modes : Modes) : Frame :=
  ⟨opening, modes, [], []⟩

def Frame.push (frame : Frame) (item : Item) : Frame :=
  { frame with items := item :: frame.items }

def Frame.branch (frame : Frame) : List Node :=
  frame.items.reverse.flatMap Item.nodes

def Frame.nodes (frame : Frame) : List Node :=
  Alternation.items frame.modes (frame.branch :: frame.branches).reverse

def Frame.node (frame : Frame) : Node :=
  .sequenceOf frame.nodes

/-- What is known about the symbols read so far. -/
structure Progress where
  top : Frame
  below : List Frame
  groups : Nat
  names : List (Text × Nat)
  closed : List (Nat × Width)
  lookbehind : Option Nat
  conditions : List Nat
  isLoose : Bool
  isFar : Bool
deriving DecidableEq

namespace Progress

/-- Nothing has been read. -/
def start : Progress :=
  ⟨.start .whole .none, [], 0, [], [], none, [], false, false⟩

def push (progress : Progress) (node : Node) : Progress :=
  { progress with top := progress.top.push (.single node) }

def openFrame (progress : Progress) (opening : Opening) (modes : Modes) : Progress :=
  { progress with top := .start opening modes, below := progress.top :: progress.below }

def modes (progress : Progress) : Modes :=
  progress.top.modes

def isClosed (progress : Progress) (group : Nat) : Bool :=
  (progress.closed.lookup group).isSome

/-- A look behind refers only to groups that were closed before it. -/
def mayRefer (progress : Progress) (group : Nat) : Bool :=
  match progress.lookbehind with
  | none => true
  | some earlier => progress.isClosed group && decide (group ≤ earlier)

def refer (progress : Progress) (group : Nat) : Except Fault Progress :=
  if progress.isClosed group && progress.mayRefer group then
    .ok (progress.push (.reference progress.modes group))
  else .error .malformed

/-- Groups are numbered from one in the order of their opening parentheses. -/
def openCapture (progress : Progress) : Progress :=
  { progress with groups := progress.groups + 1 }.openFrame (.capture (progress.groups + 1))
    progress.modes

def openNamed (progress : Progress) (name : Text) : Except Fault Progress :=
  if Text.isIdentifier name && (progress.names.lookup name).isNone then
    .ok { progress with names := (name, progress.groups + 1) :: progress.names }.openCapture
  else .error .malformed

/-- A second branch starts, or a further one; a conditional has at most two. -/
def alternate (progress : Progress) : Except Fault Progress :=
  match progress.top.opening, progress.top.branches with
  | .conditional _, _ :: _ => .error .malformed
  | _, _ =>
      .ok { progress with
        top := { progress.top with
          branches := progress.top.branch :: progress.top.branches, items := [] } }

/-- The innermost group becomes an item of the one around it. -/
def close [Host] (progress : Progress) : Except Fault Progress :=
  match progress.below with
  | [] => .error .malformed
  | outer :: below =>
      let body := progress.top.node
      let width := body.width progress.closed
      let outside := { progress with top := outer, below := below }
      match progress.top.opening with
      | .whole => .error .malformed
      | .plain => .ok { outside with top := outer.push (.plain progress.top.nodes) }
      | .enclosed => .ok (outside.push (.enclosed body))
      | .capture group =>
          .ok { outside.push (.capture group body) with
            closed := (group, width) :: progress.closed }
      | .ahead negated => .ok (outside.push (.look .ahead negated body))
      | .behind negated outermost =>
          .ok { outside.push (.look (.behind width.least) negated body) with
            lookbehind := if outermost then none else progress.lookbehind,
            isLoose := progress.isLoose || width.least != width.most ||
              decide (Host.lookReach < width.least),
            isFar := progress.isFar || Host.lookStop?.any (· ≤ width.least) }
      | .atomic => .ok (outside.push (.atomic body))
      | .conditional group =>
          let last : Node := .sequenceOf progress.top.branch
          match progress.top.branches with
          | [] => .ok (outside.push (.conditional group last .empty))
          | present :: _ => .ok (outside.push (.conditional group (.sequenceOf present) last))

/-- The item before a repetition mark is replaced by its repetition. Places between characters and
repetitions cannot be repeated. -/
def repeatLast (progress : Progress) (greed : Greed) (least : Nat) (most : Option Nat) :
    Except Fault Progress :=
  match progress.top.items with
  | [] | .single (.anchor _ _) :: _ | .single (.repeated _ _ _ _) :: _ => .error .malformed
  | item :: items =>
      let node : Node := .repeated greed least most (.sequenceOf item.nodes)
      .ok { progress with top := { progress.top with items := .single node :: items } }

end Progress

/-- Counts from here on are refused. -/
def countLimit : Nat := 4294967295

def readCount (digits : Text) : Except Fault (Option Nat) :=
  if digits.isEmpty then .ok none
  else match Text.readDigits digits with
    | .error fault => .error (.numeral fault)
    | .ok count => if count < countLimit then .ok (some count) else .error .malformed

/-- The counts after an opening brace, or nothing if the brace stands for itself. -/
def readCounts (symbols : List Symbol) :
    Except Fault (Option (Nat × Option Nat × List Symbol)) :=
  match symbols with
  | .plain '}' :: _ => .ok none
  | _ =>
      let (least, rest) := takeAllPlain Text.isPlainDigit symbols
      let (most, rest) :=
        match rest with
        | .plain ',' :: rest => takeAllPlain Text.isPlainDigit rest
        | _ => (least, rest)
      match rest with
      | .plain '}' :: rest => do
          let least := (← readCount least).getD 0
          let most ← readCount most
          if most.any (· < least) then .error .malformed
          else return some (least, most, rest)
      | _ => .ok none

/-- The mark after a repetition. -/
def readGreed : List Symbol → Greed × List Symbol
  | .plain '?' :: rest => (.reluctant, rest)
  | .plain '+' :: rest => (.possessive, rest)
  | rest => (.greedy, rest)

def readRepetition (progress : Progress) (least : Nat) (most : Option Nat) (rest : List Symbol) :
    Except Fault (Progress × List Symbol) := do
  let (greed, rest) := readGreed rest
  return (← progress.repeatLast greed least most, rest)

/-- A reference has one or two digits; three octal digits are a code point. -/
def readReference (progress : Progress) (digit : Char) (rest : List Symbol) :
    Except Fault (Progress × List Symbol) :=
  let literal (code : Nat) := progress.push (.atom progress.modes (.literal code false))
  match takePlain Text.isPlainDigit 1 rest with
  | ([second], after) =>
      match isOctalDigit digit && isOctalDigit second, takePlain isOctalDigit 1 after with
      | true, ([third], after) => do
          return (literal (← octalCode [digit, second, third]), after)
      | _, _ => do return (← progress.refer (Text.digitsValue [digit, second]), after)
  | _ => do return (← progress.refer (Text.digitsValue [digit]), rest)

def anchorOf? : Char → Option Anchor
  | 'A' => some .textStart
  | 'Z' => some .textEnd
  | 'b' => some .boundary
  | 'B' => some .interior
  | _ => none

def readEscape [Host] (progress : Progress) (character : Char) (rest : List Symbol) :
    Except Fault (Progress × List Symbol) :=
  match anchorOf? character, categoryOf? character with
  | some kind, _ => .ok (progress.push (.anchor progress.modes kind), rest)
  | none, some (kind, negated) =>
      .ok (progress.push (.atom progress.modes (.oneOf [.category kind negated] false)), rest)
  | none, none =>
      if character = '0' then do
        let (digits, rest) := takePlain isOctalDigit 2 rest
        let code ← octalCode digits
        return (progress.push (.atom progress.modes (.literal code false)), rest)
      else if Text.isPlainDigit character then readReference progress character rest
      else do
        let (code, rest) ← readCode character rest
        return (progress.push (.atom progress.modes (.literal code false)), rest)

/-- The modes that letters turn on or off. The letters for the two alphabets exclude each other and
cannot be turned off, and only the whole pattern can be a template. -/
structure ModeChange where
  ignoreCase : Bool
  multiLine : Bool
  dotAll : Bool
  verbose : Bool
  ascii : Bool
  full : Bool
  template : Bool
deriving DecidableEq

def ModeChange.none : ModeChange :=
  ⟨false, false, false, false, false, false, false⟩

def ModeChange.add? (change : ModeChange) : Char → Option ModeChange
  | 'i' => some { change with ignoreCase := true }
  | 'm' => some { change with multiLine := true }
  | 's' => some { change with dotAll := true }
  | 'x' => some { change with verbose := true }
  | 'a' => if change.full then Option.none else some { change with ascii := true }
  | 'u' => if change.ascii then Option.none else some { change with full := true }
  | 't' => some { change with template := true }
  | _ => Option.none

def ModeChange.addAll? (letters : Text) : Option ModeChange :=
  letters.foldlM ModeChange.add? .none

def ModeChange.meets (on off : ModeChange) : Bool :=
  (on.ignoreCase && off.ignoreCase) || (on.multiLine && off.multiLine) ||
    (on.dotAll && off.dotAll) || (on.verbose && off.verbose)

def Modes.change (modes : Modes) (on off : ModeChange) : Modes :=
  ⟨(modes.ignoreCase || on.ignoreCase) && !off.ignoreCase,
    (modes.multiLine || on.multiLine) && !off.multiLine,
    (modes.dotAll || on.dotAll) && !off.dotAll,
    (modes.verbose || on.verbose) && !off.verbose,
    (modes.ascii || on.ascii) && !on.full,
    modes.template || on.template⟩

def isModeLetter (character : Char) : Bool :=
  "imsxaut".toList.contains character

/-- The modes for a group, or for the whole pattern at its very start. -/
def readModes (progress : Progress) (symbols : List Symbol) :
    Except Fault (Progress × List Symbol) :=
  let (on, rest) := takeAllPlain isModeLetter symbols
  match ModeChange.addAll? on with
  | none => .error .malformed
  | some on =>
      match rest with
      | .plain ':' :: rest =>
          if on = .none || on.template then .error .malformed
          else .ok (progress.openFrame .enclosed (progress.modes.change on .none), rest)
      | .plain ')' :: rest =>
          let atStart := progress.below.isEmpty && progress.top.branches.isEmpty &&
            progress.top.items.isEmpty
          if on = .none || !atStart then .error .malformed
          else
            .ok ({ progress with
              top := { progress.top with modes := progress.modes.change on .none } }, rest)
      | .plain '-' :: rest =>
          let (off, rest) := takeAllPlain isModeLetter rest
          match ModeChange.addAll? off, rest with
          | some off, .plain ':' :: rest =>
              if off = .none || off.ascii || off.full || on.template || off.template ||
                  on.meets off then .error .malformed
              else .ok (progress.openFrame .enclosed (progress.modes.change on off), rest)
          | _, _ => .error .malformed
      | _ => .error .malformed

/-- An underscore may stand between two digits. -/
def looseDigits? (previousIsDigit : Bool) : Text → Option Text
  | [] => if previousIsDigit then some [] else none
  | character :: rest =>
      if Text.isDigit character then (looseDigits? true rest).map (character :: ·)
      else if character = '_' ∧ previousIsDigit then
        match rest with
        | [] => none
        | next :: rest =>
            if Text.isDigit next then (looseDigits? true rest).map (next :: ·) else none
      else none

/-- A group number with blanks around it, a plus sign or underscores. -/
def groupNumber? (text : Text) : Option Nat :=
  let (sign, digits) := Text.splitSign text.strip
  match sign, looseDigits? false digits with
  | .plus, some digits => (Text.readDigits digits).toOption
  | _, _ => none

/-- The group that a condition tests; a number may name a group that is still to come. -/
def readCondition (progress : Progress) (name : Text) : Except Fault Progress :=
  let test (group : Nat) (progress : Progress) : Except Fault Progress :=
    if progress.mayRefer group then
      .ok (progress.openFrame (.conditional group) progress.modes)
    else .error .malformed
  if Text.isIdentifier name then
    match progress.names.lookup name with
    | some group => test group progress
    | none => .error .malformed
  else
    match groupNumber? name with
    | some (group + 1) =>
        test (group + 1) { progress with conditions := (group + 1) :: progress.conditions }
    | _ => .error .malformed

def openBehind (progress : Progress) (negated : Bool) : Progress :=
  let opened := progress.openFrame (.behind negated progress.lookbehind.isNone) progress.modes
  { opened with lookbehind := some (progress.lookbehind.getD progress.groups) }

/-- A group after its opening parenthesis. -/
def readGroup (progress : Progress) (symbols : List Symbol) :
    Except Fault (Progress × List Symbol) :=
  match symbols with
  | .plain '?' :: rest =>
      match rest with
      | .plain ':' :: rest => .ok (progress.openFrame .plain progress.modes, rest)
      | .plain '=' :: rest => .ok (progress.openFrame (.ahead false) progress.modes, rest)
      | .plain '!' :: rest => .ok (progress.openFrame (.ahead true) progress.modes, rest)
      | .plain '<' :: .plain '=' :: rest => .ok (openBehind progress false, rest)
      | .plain '<' :: .plain '!' :: rest => .ok (openBehind progress true, rest)
      | .plain '>' :: rest => .ok (progress.openFrame .atomic progress.modes, rest)
      | .plain '#' :: rest =>
          match rest.dropWhile (· != .plain ')') with
          | [] => .error .malformed
          | _ :: rest => .ok (progress, rest)
      | .plain '(' :: rest =>
          match takeName? ')' rest with
          | some (name, rest) => do return (← readCondition progress name, rest)
          | none => .error .malformed
      | .plain 'P' :: .plain '<' :: rest =>
          match takeName? '>' rest with
          | some (name, rest) => do return (← progress.openNamed name, rest)
          | none => .error .malformed
      | .plain 'P' :: .plain '=' :: rest =>
          match takeName? ')' rest with
          | some (name, rest) =>
              match Text.isIdentifier name, progress.names.lookup name with
              | true, some group => do return (← progress.refer group, rest)
              | _, _ => .error .malformed
          | none => .error .malformed
      | _ => readModes progress rest
  | _ => .ok (progress.openCapture, symbols)

/-- In verbose mode blanks are skipped, and so is all from a number sign to the end of its line. -/
def readPlain [Host] (progress : Progress) (character : Char) (rest : List Symbol) :
    Except Fault (Progress × List Symbol) :=
  match character with
  | '|' => do return (← progress.alternate, rest)
  | ')' => do return (← progress.close, rest)
  | _ =>
      if progress.modes.verbose && isAsciiBlank character then .ok (progress, rest)
      else if progress.modes.verbose && character == '#' then
        .ok (progress, (rest.dropWhile (· != .plain '\n')).drop 1)
      else match character with
        | '[' => do
            let (atom, rest) ← readBracket rest
            return (progress.push (.atom progress.modes atom), rest)
        | '.' => .ok (progress.push (.atom progress.modes .any), rest)
        | '^' => .ok (progress.push (.anchor progress.modes .lineStart), rest)
        | '$' => .ok (progress.push (.anchor progress.modes .lineEnd), rest)
        | '(' => readGroup progress rest
        | '?' => readRepetition progress 0 (some 1) rest
        | '*' => readRepetition progress 0 none rest
        | '+' => readRepetition progress 1 none rest
        | '{' => do
            match ← readCounts rest with
            | some (least, most, rest) => readRepetition progress least most rest
            | none =>
                return (progress.push (.atom progress.modes (.literal '{'.toNat false)), rest)
        | _ =>
            .ok (progress.push (.atom progress.modes (.literal character.toNat false)), rest)

def readSymbol [Host] (progress : Progress) (symbol : Symbol) (rest : List Symbol) :
    Except Fault (Progress × List Symbol) :=
  match symbol with
  | .plain character => readPlain progress character rest
  | .escaped character => readEscape progress character rest

/-- What an open group adds to the depth of the reading. -/
def Opening.depth : Opening → Nat
  | .whole => 0
  | .conditional _ => 1
  | _ => 2

def Progress.depth (progress : Progress) : Nat :=
  (progress.top :: progress.below).foldr (fun frame depth => frame.opening.depth + depth) 0

/-- All symbols are read when there is room for one step each. Nothing may be nested deeper than
the limit. -/
def readSymbols [Host] (limit : Nat) : Nat → Progress → List Symbol → Except Fault Progress
  | _, progress, [] => .ok progress
  | 0, _, _ :: _ => .error .malformed
  | room + 1, progress, symbol :: rest => do
      let (progress, rest) ← readSymbol progress symbol rest
      if limit < progress.depth then .error .malformed
      else readSymbols limit room progress rest

/-- A pattern is complete when every group is closed, every tested group exists, every look behind
has a fixed width within reach, nothing is nested too deep, and nothing is repeated in a template.
Only then is it asked whether the looks behind can be used. -/
def Progress.finish (limit : Nat) (progress : Progress) : Except Fault Node :=
  let node := progress.top.node
  if progress.below.isEmpty && progress.conditions.all (· ≤ progress.groups) &&
      !progress.isLoose && decide (node.depth ≤ limit) &&
      !(progress.modes.template && node.repeats) then
    if progress.isFar then .error .tooFarBehind else .ok node
  else .error .malformed

def readProgress [Host] (limit : Nat) (text : Text) : Except Fault Progress :=
  match symbols? text with
  | none => .error .malformed
  | some symbols => readSymbols limit symbols.length .start symbols

/-- The tree of a pattern that is not nested deeper than the limit. -/
def parseWithin [Host] (limit : Nat) (text : Text) : Except Fault Node := do
  (← readProgress limit text).finish limit

/-- The tree of a pattern. -/
def parse [Host] (text : Text) : Except Fault Node :=
  parseWithin Host.patternDepth text

/-- The number of capturing groups of a pattern. -/
def groupCount [Host] (text : Text) : Except Fault Nat := do
  let progress ← readProgress Host.patternDepth text
  let _ ← progress.finish Host.patternDepth
  return progress.groups

end ItemFilter.Pattern
