/-
This file says what becomes of a capture's text when it is normalized, stripped, peeled and cut at
its bars. Normalizing adds and removes only a few characters, blanks around a text change only
the blanks around its pieces, and the parentheses that are peeled off stand in front and behind in
equal numbers.
-/

import Mathlib.Data.List.TakeWhile
import ItemFilter.Proofs.Vocabulary

namespace ItemFilter

namespace Text

/-- A text of blanks only. -/
def Blank (text : Text) : Prop :=
  ∀ character ∈ text, isBlank character = true

/-- A text without blanks. -/
def Solid (text : Text) : Prop :=
  ∀ character ∈ text, isBlank character = false

instance (text : Text) : Decidable (Solid text) :=
  List.decidableBAll _ text

section Strip

theorem exists_padding (text : Text) :
    ∃ lead trail, text = lead ++ (strip text ++ trail) ∧ Blank lead ∧ Blank trail := by
  let backwards := (text.dropWhile isBlank).reverse
  refine ⟨text.takeWhile isBlank, (backwards.takeWhile isBlank).reverse, ?_, ?_, ?_⟩
  · have behind : (backwards.dropWhile isBlank).reverse ++ (backwards.takeWhile isBlank).reverse =
        text.dropWhile isBlank := by
      rw [← List.reverse_append, List.takeWhile_append_dropWhile, List.reverse_reverse]
    rw [strip, trim, behind, List.takeWhile_append_dropWhile]
  · exact fun character member => List.mem_takeWhile_imp member
  · exact fun character member => List.mem_takeWhile_imp (List.mem_reverse.mp member)

end Strip

section Pieces

theorem pieces_cons_of_ne {separator character : Char} (other : character ≠ separator)
    {text first : Text} {others : List Text} (parts : text.pieces separator = first :: others) :
    pieces separator (character :: text) = (character :: first) :: others := by
  rw [pieces, if_neg other, parts]

theorem pieces_ne_nil (separator : Char) (text : Text) : text.pieces separator ≠ [] := by
  cases text with
  | nil => exact List.cons_ne_nil [] []
  | cons character rest =>
      rw [pieces]
      split
      · exact List.cons_ne_nil _ _
      · split <;> exact List.cons_ne_nil _ _

/-- Nothing but the separators is lost. -/
theorem exists_piece_of_mem {separator : Char} {text : Text} {character : Char}
    (member : character ∈ text) :
    character = separator ∨ ∃ piece ∈ text.pieces separator, character ∈ piece := by
  induction text with
  | nil => cases member
  | cons first rest ih =>
      by_cases cut : first = separator
      · rw [pieces, if_pos cut]
        rcases List.mem_cons.mp member with rfl | later
        · exact .inl cut
        · apply (ih later).imp_right
          rintro ⟨piece, listed, inside⟩
          exact ⟨piece, List.mem_cons_of_mem [] listed, inside⟩
      · obtain ⟨start, others, parts⟩ := List.exists_cons_of_ne_nil (pieces_ne_nil separator rest)
        rw [pieces_cons_of_ne cut parts]
        rw [parts] at ih
        rcases List.mem_cons.mp member with rfl | later
        · exact .inr ⟨character :: start, List.mem_cons_self, List.mem_cons_self⟩
        · apply (ih later).imp_right
          rintro ⟨piece, listed, inside⟩
          rcases List.mem_cons.mp listed with rfl | further
          · exact ⟨first :: piece, List.mem_cons_self, List.mem_cons_of_mem first inside⟩
          · exact ⟨piece, List.mem_cons_of_mem _ further, inside⟩

end Pieces

section Replace

theorem mem_of_mem_replaceFrom {old new : Text} {skipped : Nat} {text : Text} {character : Char}
    (member : character ∈ replaceFrom old new skipped text) :
    character ∈ text ∨ character ∈ new := by
  fun_induction replaceFrom old new skipped text with
  | case1 => cases member
  | case2 first rest skipped ih => exact (ih member).imp_left (List.mem_cons_of_mem first)
  | case3 first rest begins ih =>
      rcases List.mem_append.mp member with added | later
      · exact .inr added
      · exact (ih later).imp_left (List.mem_cons_of_mem first)
  | case4 first rest other ih =>
      rcases List.mem_cons.mp member with rfl | later
      · exact .inl List.mem_cons_self
      · exact (ih later).imp_left (List.mem_cons_of_mem first)

end Replace

end Text

namespace Matcher

theorem mem_of_mem_squeezeBlanks {inRun : Bool} {text : Text} {character : Char}
    (member : character ∈ squeezeBlanks inRun text) :
    character ∈ text ∨ character ∈ "\\s+".toList := by
  fun_induction squeezeBlanks inRun text with
  | case1 => cases member
  | case2 rest ih => exact (ih member).imp_left (List.mem_append_right "\\s+".toList)
  | case3 inRun rest fresh ih =>
      have parts : character ∈ "\\s+".toList ++ squeezeBlanks true rest := member
      rcases List.mem_append.mp parts with added | later
      · exact .inr added
      · exact (ih later).imp_left (List.mem_append_right "\\s+".toList)
  | case4 first rest written blank ih => exact (ih member).imp_left (List.mem_cons_of_mem first)
  | case5 inRun first rest written blank fresh ih =>
      have parts : character ∈ "\\s+".toList ++ squeezeBlanks true rest := member
      rcases List.mem_append.mp parts with added | later
      · exact .inr added
      · exact (ih later).imp_left (List.mem_cons_of_mem first)
  | case6 inRun first rest written visible ih =>
      rcases List.mem_cons.mp member with rfl | later
      · exact .inl List.mem_cons_self
      · exact (ih later).imp_left (List.mem_cons_of_mem first)

/-- Normalizing adds only what escapes, groups and blanks are written with. -/
theorem mem_of_mem_normalize {text : Text} {character : Char}
    (member : character ∈ normalize text) : character ∈ text ∨ character ∈ "\\(s+".toList := by
  have wider : ∀ {part : Text}, part ⊆ "\\(s+".toList → character ∈ part →
      character ∈ "\\(s+".toList :=
    fun inside listed => inside listed
  rcases mem_of_mem_squeezeBlanks member with member | added
  · rcases Text.mem_of_mem_replaceFrom member with member | added
    · rcases Text.mem_of_mem_replaceFrom member with member | added
      · exact (Text.mem_of_mem_replaceFrom member).imp_right (wider (by decide))
      · exact .inr (wider (by decide) added)
    · cases added
  · exact .inr (wider (by decide) added)

theorem solid_normalize {text : Text} (solid : text.Solid) : (normalize text).Solid := by
  have visible : Text.Solid "\\(s+".toList := by
    decide
  intro character member
  rcases mem_of_mem_normalize member with old | added
  · exact solid character old
  · exact visible character added

/-- The number of parentheses that are peeled off at each end. -/
def wrapping (text : Text) : Nat :=
  min (leadingCount '(' text) (leadingCount ')' text.reverse)

end Matcher

end ItemFilter
