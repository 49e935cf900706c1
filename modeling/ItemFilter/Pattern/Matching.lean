/-
This file matches patterns against texts. Of several ways to match, the first in order of
preference that lets the rest of the pattern match is taken. An attempt that fails may leave marks
of the groups it went through; which of them are taken back depends on where the next attempt
starts.
-/

import ItemFilter.Pattern.Character

namespace ItemFilter.Pattern

/-- How many characters were left when groups were opened and closed, two numbers for each group in
order. Groups beyond the end were not reached. -/
abbrev Marks := List (Option Nat)

/-- Groups that are passed over on the way to the new mark count as not reached. -/
def Marks.put (marks : Marks) (slot left : Nat) : Marks :=
  if slot < marks.length then marks.set slot (some left)
  else marks ++ List.replicate (slot - marks.length) none ++ [some left]

/-- A place in a text, with the text before it in reverse, the length of the text after it, the
marks of the groups, and whether it is reached within a turn of a repetition. -/
structure Place where
  behind : Text
  ahead : Text
  left : Nat
  marks : Marks
  inTurn : Bool
deriving DecidableEq

namespace Place

/-- The start of a text. -/
def start (text : Text) : Place :=
  ⟨[], text, text.length, [], false⟩

def subject (place : Place) : Text :=
  place.behind.reverse ++ place.ahead

/-- The place is closer to the end than the earlier one. -/
def isBeyond (place earlier : Place) : Bool :=
  decide (place.left < earlier.left)

/-- Groups are numbered from one. -/
def openGroup (place : Place) (group : Nat) : Place :=
  { place with marks := place.marks.put (2 * (group - 1)) place.left }

def closeGroup (place : Place) (group : Nat) : Place :=
  { place with marks := place.marks.put (2 * (group - 1) + 1) place.left }

/-- The text of a group between its two marks. -/
def captured? (place : Place) (group : Nat) : Option Text :=
  match place.marks[2 * (group - 1)]?, place.marks[2 * (group - 1) + 1]? with
  | some (some first), some (some stop) =>
      if stop ≤ first then
        some ((place.subject.drop (place.behind.length + place.left - first)).take (first - stop))
      else none
  | _, _ => none

/-- The place `width` characters earlier. -/
def back? (place : Place) (width : Nat) : Option Place :=
  let passed := place.behind.take width
  if passed.length = width then
    some { place with
      behind := place.behind.drop width,
      ahead := passed.reverse ++ place.ahead,
      left := width + place.left }
  else none

/-- The place after an attempt from it has failed. Within a turn all marks are taken back, and
elsewhere those of the groups that were not reached before. -/
def recover (place : Place) (marks : Marks) : Place :=
  { place with marks := if place.inTurn then place.marks else marks.take place.marks.length }

def step? (place : Place) (accepts : Char → Bool) : Option Place :=
  match place.ahead with
  | [] => none
  | character :: rest =>
      if accepts character then
        some { place with
          behind := character :: place.behind, ahead := rest, left := place.left - 1 }
      else none

/-- The place after the given text, read with the comparison. -/
def skip? (same : Char → Char → Bool) : Text → Place → Option Place
  | [], place => some place
  | wanted :: rest, place => (place.step? (same wanted)).bind (skip? same rest)

end Place

def Modes.isWord (modes : Modes) (character : Char) : Bool :=
  Category.contains modes.ascii character .word

/-- Whether the characters before and after a place differ in being part of a word. -/
def Modes.divides (modes : Modes) (place : Place) : Bool :=
  place.behind.head?.any modes.isWord != place.ahead.head?.any modes.isWord

/-- No place of the empty text is a boundary, or within a word. -/
def Anchor.holds (modes : Modes) (place : Place) : Anchor → Bool
  | .lineStart => place.behind.isEmpty || (modes.multiLine && place.behind.head? == some '\n')
  | .lineEnd =>
      place.ahead.isEmpty || place.ahead == ['\n'] ||
        (modes.multiLine && place.ahead.head? == some '\n')
  | .textStart => place.behind.isEmpty
  | .textEnd => place.ahead.isEmpty
  | .boundary => !(place.behind.isEmpty && place.ahead.isEmpty) && modes.divides place
  | .interior => !(place.behind.isEmpty && place.ahead.isEmpty) && !modes.divides place

/-- Characters of a repeated group are compared by their lower-case forms when case is ignored. -/
def Modes.sameCharacter (modes : Modes) (left right : Char) : Bool :=
  if modes.ignoreCase then modes.lower left.toNat == modes.lower right.toNat else left == right

/-- An attempt finds the end of a match, or fails and leaves its marks. -/
inductive Outcome where
  | found (place : Place)
  | failed (marks : Marks)
deriving DecidableEq

namespace Outcome

def isFound : Outcome → Bool
  | .found _ => true
  | .failed _ => false

/-- What is tried after a failure, with the marks that it leaves. -/
def orElse (outcome : Outcome) (next : Marks → Outcome) : Outcome :=
  match outcome with
  | .found place => .found place
  | .failed marks => next marks

end Outcome

/-- What remains to be matched after a part of a pattern. -/
abbrev Rest := Place → Outcome

/-- A part of a pattern, told what remains to be matched after it. -/
abbrev Part := Rest → Rest

namespace Rest

/-- The attempt, from which the place recovers. -/
def attempt (rest : Rest) (place : Place) : Outcome :=
  (rest place).orElse fun marks => .failed (place.recover marks).marks

/-- The first way, or else the second from the place as it recovers. -/
def either (first second : Rest) : Rest := fun place =>
  (first place).orElse fun marks => second.attempt (place.recover marks)

/-- The rest after a move that may be impossible. -/
def after (rest : Rest) (move? : Place → Option Place) : Rest := fun place =>
  match move? place with
  | some next => rest next
  | none => .failed place.marks

end Rest

namespace Part

/-- The part exactly `count` times. -/
def times (part : Part) : Nat → Part
  | 0, rest, place => rest place
  | count + 1, rest, place => part (fun after => times part count rest after) place

/-- The part as often as possible. A turn that does not advance is the last one, so there are no
more turns than `room` for characters and one. A turn that leads nowhere leaves no marks. -/
def greedily (part : Part) : Nat → Option Nat → Part
  | _, some 0, rest, place => rest place
  | 0, _, rest, place => (part rest place).orElse fun _ => rest place
  | room + 1, most, rest, place =>
      (part (fun after =>
        if after.isBeyond place then greedily part room (most.map (· - 1)) rest after
        else rest after) place).orElse fun _ => rest place

/-- The part as seldom as possible. A further turn starts with the marks that are left. -/
def reluctantly (part : Part) : Nat → Option Nat → Part
  | _, some 0, rest, place => rest place
  | 0, _, rest, place =>
      (rest place).orElse fun marks => part rest { place with marks := marks }
  | room + 1, most, rest, place =>
      (rest place).orElse fun marks =>
        part (fun after =>
          if after.isBeyond place then reluctantly part room (most.map (· - 1)) rest after
          else rest after) { place with marks := marks }

/-- The first way to match, which is not taken back. -/
def committed (part : Part) : Part := fun rest place =>
  match part .found place with
  | .found after => rest after
  | .failed marks => .failed marks

/-- The part as often as possible, where no turn is taken back. -/
def possessively (part : Part) : Nat → Option Nat → Part
  | _, some 0, rest, place => rest place
  | room, most, rest, place =>
      match part .found place, room with
      | .failed _, _ => rest place
      | .found after, 0 => rest after
      | .found after, room + 1 =>
          if after.isBeyond place then possessively part room (most.map (· - 1)) rest after
          else rest after

/-- Turns of the part, `least` of them at first. What comes after the turns is outside of them. -/
def turns (part : Part) (greed : Greed) (least : Nat) (further : Option Nat) : Part :=
  fun rest place =>
    let leave : Rest := fun after => rest { after with inTurn := place.inTurn }
    let inside := { place with inTurn := true }
    match greed with
    | .greedy =>
        part.times least (fun after => part.greedily after.left further leave after) inside
    | .reluctant =>
        let leave : Rest := fun after => rest.attempt { after with inTurn := place.inTurn }
        part.times least (fun after => part.reluctantly after.left further leave after)
          inside
    | .possessive =>
        part.committed.times least
          (fun after => part.possessively after.left further rest after) place

/-- A run of characters, as long as possible and then shorter. -/
def longest (step? : Place → Option Place) : Nat → Option Nat → Part
  | room + 1, most, rest, place =>
      match most, step? place with
      | some 0, _ | _, none => rest.attempt place
      | _, some next =>
          Rest.either (fun _ => longest step? room (most.map (· - 1)) rest next) rest place
  | 0, _, rest, place => rest.attempt place

/-- A run of characters, as short as possible and then longer. -/
def shortest (step? : Place → Option Place) : Nat → Option Nat → Part
  | room + 1, most, rest, place =>
      (rest.attempt place).orElse fun marks =>
        match most, step? place with
        | some 0, _ | _, none => .failed marks
        | _, some next => shortest step? room (most.map (· - 1)) rest { next with marks := marks }
  | 0, _, rest, place => rest.attempt place

/-- A run of single characters, `least` of them at first. It is not begun when too few are left. -/
def run (step? : Place → Option Place) (greed : Greed) (least : Nat) (further : Option Nat) : Part :=
  fun rest place =>
    let single : Part := fun rest => rest.after step?
    let onward : Rest := fun after =>
      match greed with
      | .greedy => longest step? after.left further rest after
      | .reluctant => shortest step? after.left further rest after
      | .possessive => single.possessively after.left further rest after
    if place.left < least then .failed place.marks else single.times least onward place

/-- A look at another place comes back with the groups it went through, or, negated, when there is
nothing to be seen. -/
def looking (part : Part) (negated : Bool) (from? : Place → Option Place) : Part :=
  fun rest place =>
    match (from? place).map (part .found), negated with
    | none, false => .failed place.marks
    | none, true => rest place
    | some (.found seen), false => rest { place with marks := seen.marks }
    | some (.found seen), true => .failed seen.marks
    | some (.failed marks), false => .failed marks
    | some (.failed marks), true => rest (place.recover marks)

end Part

/-- The character test of a tree that is one leaf, perhaps in a group with modes of its own. -/
def Node.test? : Node → Option (Char → Bool)
  | .atom modes leaf => some fun character => leaf.accepts modes character
  | .enclosed body => body.test?
  | _ => none

/-- The way a tree matches. -/
def Node.part : Node → Part
  | .empty, rest, place => rest place
  | .atom modes leaf, rest, place =>
      rest.after (·.step? fun character => leaf.accepts modes character) place
  | .anchor modes kind, rest, place =>
      if kind.holds modes place then rest place else .failed place.marks
  | .reference modes group, rest, place =>
      match place.captured? group with
      | some text => rest.after (Place.skip? modes.sameCharacter text) place
      | none => .failed place.marks
  | .sequence first second, rest, place => first.part (fun after => second.part rest after) place
  | .choice first second, rest, place =>
      Rest.either (fun here => first.part rest here) (fun here => second.part rest here) place
  | .enclosed body, rest, place => body.part rest place
  | .capture group body, rest, place =>
      body.part (fun after => rest (after.closeGroup group)) (place.openGroup group)
  | .look .ahead negated body, rest, place => Part.looking body.part negated some rest place
  | .look (.behind width) negated body, rest, place =>
      Part.looking body.part negated (·.back? width) rest place
  | .atomic body, rest, place => Part.committed body.part rest place
  | .conditional group present absent, rest, place =>
      if (place.captured? group).isSome then present.part rest place else absent.part rest place
  | .repeated greed least most body, rest, place =>
      let further := most.map (· - least)
      match body.test? with
      | some accepts => Part.run (·.step? accepts) greed least further rest place
      | none => Part.turns body.part greed least further rest place

/-- The pattern matches at the start of the text. -/
def Node.accepts (node : Node) (text : Text) : Bool :=
  (node.part .found (.start text)).isFound

end ItemFilter.Pattern
