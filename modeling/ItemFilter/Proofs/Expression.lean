/-
This file writes match expressions as trees and says which of their groups are captures: those that
capture and have only wrappers around them, from left to right.
-/

import ItemFilter.CaptureGroup
import Mathlib.Data.Bool.AllAny

namespace ItemFilter

/-- A character that stands for itself outside of classes. -/
def IsOrdinary (character : Char) : Prop :=
  character ≠ '\\' ∧ character ≠ '[' ∧ character ≠ '(' ∧ character ≠ ')'

instance (character : Char) : Decidable (IsOrdinary character) :=
  inferInstanceAs (Decidable (_ ∧ _))

/-- A part of a bracketed class. -/
inductive ClassPart where
  | single (character : Char) (inside : character ≠ '\\' ∧ character ≠ ']')
  | escaped (character : Char)

def ClassPart.text : ClassPart → Text
  | .single character _ => [character]
  | .escaped character => ['\\', character]

/-- The name of a group, up to its closing angle bracket. -/
structure GroupName where
  text : Text
  ordinary : ∀ character ∈ text, IsOrdinary character ∧ character ≠ '>'

/-- What an opening parenthesis is followed by: nothing, a name in one of two spellings, the mark of
a wrapper, or the question mark of any other form. -/
inductive Mark where
  | bare
  | named (name : GroupName)
  | shortNamed (name : GroupName)
      (noLook : name.text.head? ≠ some '=' ∧ name.text.head? ≠ some '!')
  | wrapper
  | other

namespace Mark

def text : Mark → Text
  | .bare => []
  | .named name => "?P<".toList ++ name.text ++ ['>']
  | .shortNamed name _ => "?<".toList ++ name.text ++ ['>']
  | .wrapper => "?:".toList
  | .other => ['?']

/-- What a group is for. -/
inductive Role where
  | capture
  | wrapper
  | other
deriving DecidableEq

def role : Mark → Role
  | .bare | .named _ | .shortNamed _ _ => .capture
  | .wrapper => .wrapper
  | .other => .other

/-- The text behind the mark does not turn it into another one. -/
def Fits (inner : Text) : Mark → Prop
  | .bare => inner.head? ≠ some '?'
  | .other => ¬ [':'] <+: inner ∧ ¬ ['P', '<'] <+: inner ∧
      (['<'] <+: inner → ['<', '='] <+: inner ∨ ['<', '!'] <+: inner)
  | _ => True

end Mark

/-- A match expression, item by item. -/
inductive Expression where
  | empty
  | single (character : Char) (ordinary : IsOrdinary character) (rest : Expression)
  | escaped (character : Char) (rest : Expression)
  | bracket (parts : List ClassPart) (rest : Expression)
  | group (mark : Mark) (inner rest : Expression)

/-- The text lets the group right before it be left out. -/
def MayBeLeftOut (after : Text) : Prop :=
  ['?'] <+: after ∨ ['*'] <+: after ∨ ['{', '0'] <+: after

instance (after : Text) : Decidable (MayBeLeftOut after) :=
  inferInstanceAs (Decidable (_ ∨ _))

namespace Expression

def text : Expression → Text
  | .empty => []
  | .single character _ rest => character :: rest.text
  | .escaped character rest => '\\' :: character :: rest.text
  | .bracket parts rest => '[' :: parts.flatMap ClassPart.text ++ ']' :: rest.text
  | .group mark inner rest => '(' :: mark.text ++ inner.text ++ ')' :: rest.text

/-- Every mark is read as it is meant. -/
def WellFormed : Expression → Prop
  | .empty => True
  | .single _ _ rest => rest.WellFormed
  | .escaped _ rest => rest.WellFormed
  | .bracket _ rest => rest.WellFormed
  | .group mark inner rest => mark.Fits inner.text ∧ inner.WellFormed ∧ rest.WellFormed

/-- A group that captures: its mark, the text behind the mark, the columns of its parentheses with
all between them, and whether it may be left out. -/
structure Capture where
  mark : Mark
  inner : Text
  start : Nat
  stop : Nat
  optional : Bool

/-- What a group at the column adds to the captures: itself, or as a wrapper those inside it. -/
def groupCaptures (mark : Mark) (column : Nat) (inner : Text) (optional : Bool)
    (inside : List Capture) : List Capture :=
  match mark.role with
  | .capture =>
      [⟨mark, inner, column, column + mark.text.length + inner.length + 2, optional⟩]
  | .wrapper =>
      inside.map fun capture => { capture with optional := capture.optional || optional }
  | .other => []

/-- The capturing groups with only wrappers around them, from left to right, of an expression that
starts at the column and is followed by the text. -/
def capturesFrom (column : Nat) (after : Text) : Expression → List Capture
  | .empty => []
  | .single _ _ rest => rest.capturesFrom (column + 1) after
  | .escaped _ rest => rest.capturesFrom (column + 2) after
  | .bracket parts rest =>
      rest.capturesFrom (column + (parts.flatMap ClassPart.text).length + 2) after
  | .group mark inner rest =>
      let behind := rest.text ++ after
      groupCaptures mark column inner.text (decide (MayBeLeftOut behind))
          (inner.capturesFrom (column + mark.text.length + 1) (')' :: behind)) ++
        rest.capturesFrom (column + mark.text.length + inner.text.length + 2) after

def captures (expression : Expression) : List Capture :=
  expression.capturesFrom 0 []

/-- The group as it is found under its number. -/
def Capture.group (capture : Capture) (index : Nat) : CaptureGroup :=
  ⟨index, capture.mark.text ++ capture.inner, capture.start, capture.stop, capture.optional⟩

/-- The groups under the numbers after `count`. -/
def numbered (count : Nat) : List Capture → List CaptureGroup
  | [] => []
  | capture :: rest => capture.group (count + 1) :: numbered (count + 1) rest

theorem numbered_append (count : Nat) (first second : List Capture) :
    numbered count (first ++ second) =
      numbered count first ++ numbered (count + first.length) second := by
  induction first generalizing count with
  | nil => rfl
  | cons capture rest ih =>
      rw [List.cons_append, numbered, numbered, ih, List.length_cons, Nat.add_right_comm,
        Nat.add_assoc]
      rfl

theorem exists_of_mem_numbered {count : Nat} {captures : List Capture} {group : CaptureGroup}
    (member : group ∈ numbered count captures) :
    ∃ capture ∈ captures, group.start = capture.start := by
  induction captures generalizing count with
  | nil => cases member
  | cons capture rest ih =>
      rcases List.mem_cons.mp member with rfl | later
      · exact ⟨capture, List.mem_cons_self, rfl⟩
      · obtain ⟨other, listed, same⟩ := ih later
        exact ⟨other, List.mem_cons_of_mem capture listed, same⟩

/-- What a group adds to the captures starts within its parentheses, if what is inside it does. -/
theorem start_of_mem_groupCaptures {mark : Mark} {column : Nat} {inner : Text} {optional : Bool}
    {inside : List Capture}
    (within : ∀ capture ∈ inside, column + mark.text.length + 1 ≤ capture.start ∧
      capture.start < column + mark.text.length + 1 + inner.length)
    {capture : Capture} (member : capture ∈ groupCaptures mark column inner optional inside) :
    column ≤ capture.start ∧ capture.start < column + mark.text.length + inner.length + 2 := by
  unfold groupCaptures at member
  split at member
  · obtain rfl := List.mem_singleton.mp member
    simp only
    omega
  · obtain ⟨found, listed, rfl⟩ := List.mem_map.mp member
    have := within found listed
    simp only
    omega
  · cases member

/-- A capture starts within the columns of its expression. -/
theorem start_of_mem_capturesFrom {expression : Expression} {column : Nat} {after : Text}
    {capture : Capture} (member : capture ∈ expression.capturesFrom column after) :
    column ≤ capture.start ∧ capture.start < column + expression.text.length := by
  induction expression generalizing column after capture with
  | empty => cases member
  | single character ordinary rest ih =>
      have := ih member
      simp only [text, List.length_cons]
      omega
  | escaped character rest ih =>
      have := ih member
      simp only [text, List.length_cons]
      omega
  | bracket parts rest ih =>
      have := ih member
      simp only [text, List.length_cons, List.length_append]
      omega
  | group mark inner rest ihInner ihRest =>
      simp only [text, List.length_cons, List.length_append]
      rcases List.mem_append.mp member with here | later
      · have := start_of_mem_groupCaptures (fun found listed => ihInner listed) here
        omega
      · have := ihRest later
        omega

end Expression

theorem Mark.ordinary (mark : Mark) : ∀ character ∈ mark.text, IsOrdinary character := by
  have named : ∀ (start : Text) (name : GroupName),
      (∀ character ∈ start, IsOrdinary character) →
        ∀ character ∈ start ++ name.text ++ ['>'], IsOrdinary character := by
    intro start name ordinary
    rw [List.forall_mem_append, List.forall_mem_append]
    exact ⟨⟨ordinary, fun character member => (name.ordinary character member).1⟩,
      List.all_iff_forall_prop.mp (by decide)⟩
  cases mark with
  | bare => exact List.all_iff_forall_prop.mp (by decide)
  | named name => exact named "?P<".toList name (List.all_iff_forall_prop.mp (by decide))
  | shortNamed name noLook =>
      exact named "?<".toList name (List.all_iff_forall_prop.mp (by decide))
  | wrapper => exact List.all_iff_forall_prop.mp (by decide)
  | other => exact List.all_iff_forall_prop.mp (by decide)

end ItemFilter
