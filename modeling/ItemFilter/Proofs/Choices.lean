/-
This file says that the words of a capture and its matcher agree. A text that gives words to choose
from is a list of words between bars, perhaps in parentheses and blanks. Its matcher takes the words
with these blanks around them, unless the parentheses are nested too deep for a pattern.
-/

import ItemFilter.Fit
import ItemFilter.Proofs.Declaration
import ItemFilter.Proofs.Normalization
import ItemFilter.Proofs.Pattern.Wording
import Mathlib.Data.Bool.AllAny

namespace ItemFilter

namespace Pattern

namespace Wording

/-- The wording of a text without parentheses. -/
def ofText : Text → Wording
  | [] => .done
  | character :: rest =>
      if character = '|' then .bar (ofText rest) else .letter character (ofText rest)

/-- The wording behind further characters. -/
def prepend (before : Text) (wording : Wording) : Wording :=
  before.foldr .letter wording

/-- The wording in so many parentheses. -/
def nest : Nat → Wording → Wording
  | 0, wording => wording
  | count + 1, wording => .group (nest count wording) .done

theorem text_ofText (text : Text) : (ofText text).text = text := by
  induction text with
  | nil => rfl
  | cons character rest ih =>
      rw [ofText]
      split
      · next bar => rw [Wording.text, ih, bar]
      · rw [Wording.text, ih]

theorem text_prepend (before : Text) (wording : Wording) :
    (prepend before wording).text = before ++ wording.text := by
  induction before with
  | nil => rfl
  | cons character rest ih => exact congrArg (character :: ·) ih

theorem text_nest (count : Nat) (wording : Wording) :
    (nest count wording).text =
      List.replicate count '(' ++ (wording.text ++ List.replicate count ')') := by
  induction count with
  | zero => simp [nest]
  | succ count ih =>
      rw [nest, text, ih, List.replicate_succ, List.replicate_succ']
      simp [text]

/-- The wording of a text in so many parentheses, with further texts around them. -/
def enclosed (lead : Text) (count : Nat) (body trail : Text) : Wording :=
  match count with
  | 0 => ofText (lead ++ (body ++ trail))
  | count + 1 => prepend lead (.group (nest count (ofText body)) (prepend trail .done))

theorem text_enclosed (lead : Text) (count : Nat) (body trail : Text) :
    (enclosed lead count body trail).text =
      lead ++ (List.replicate count '(' ++ (body ++ List.replicate count ')') ++ trail) := by
  cases count with
  | zero => simp [enclosed, text_ofText]
  | succ count =>
      rw [enclosed, text_prepend, text, text_nest, text_ofText, text_prepend, text,
        List.replicate_succ, List.replicate_succ']
      simp

end Wording

end Pattern

namespace Matcher

/-- The text that is cut into words. -/
def body (text : Text) : Text :=
  peel (normalize text).strip

/-- The wording of a capture's text: what is cut into words, in parentheses and further texts. -/
def wording (text lead trail : Text) : Pattern.Wording :=
  .enclosed lead (wrapping (normalize text).strip) (body text) trail

/-- The normalized text has these blanks around its parentheses. -/
structure Padded (text lead trail : Text) : Prop where
  leading : lead.Blank
  trailing : trail.Blank
  whole : (wording text lead trail).text = normalize text

theorem Padded.mem_iff {text lead trail : Text} (padded : Padded text lead trail)
    {character : Char} :
    character ∈ normalize text ↔
      character ∈ lead ∨
        (character ∈ List.replicate (wrapping (normalize text).strip) '(' ∨
          character ∈ body text ∨
          character ∈ List.replicate (wrapping (normalize text).strip) ')') ∨
        character ∈ trail := by
  conv_lhs => rw [← padded.whole, wording, Pattern.Wording.text_enclosed]
  simp only [List.mem_append]

/-- A text without blanks has none around its parentheses. -/
theorem Padded.solid {text lead trail : Text} (padded : Padded text lead trail)
    (solid : text.Solid) : (body text).Solid ∧ lead = [] ∧ trail = [] := by
  have visible := solid_normalize solid
  have empty : ∀ {part : Text}, part.Blank → (∀ character ∈ part, character ∈ normalize text) →
      part = [] := by
    intro part blank inside
    apply List.eq_nil_iff_forall_not_mem.mpr
    intro character member
    have clash := (blank character member).symm.trans (visible character (inside character member))
    cases clash
  refine ⟨?_, empty padded.leading ?_, empty padded.trailing ?_⟩
  · exact fun character member =>
      visible character (padded.mem_iff.mpr (.inr (.inl (.inr (.inl member)))))
  · exact fun character member => padded.mem_iff.mpr (.inl member)
  · exact fun character member => padded.mem_iff.mpr (.inr (.inr member))

section Compiling

variable {text lead trail : Text} {choices : List Text} (found : choices? text = some choices)
  (padded : Padded text lead trail)

include found padded

end Compiling

end Matcher

namespace Matcher

end Matcher

end ItemFilter
