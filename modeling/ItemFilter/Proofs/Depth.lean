/-
This file defines how deep in parentheses a place of a text is, which parentheses enclose it and
which belong together. Parentheses behind a backslash and in classes do not count, so such
characters are covered first. A stack of open parentheses follows the text character by character.
-/

import Mathlib.Data.List.Forall2
import ItemFilter.CaptureGroup

namespace ItemFilter.CaptureGroup

/-- The text with a space for each character that is hidden: a backslash and what it escapes, and a
class with its brackets. -/
def cover (inClass : Bool) : Text → Text
  | [] => []
  | '\\' :: rest =>
      match rest with
      | [] => [' ']
      | _ :: rest => ' ' :: ' ' :: cover inClass rest
  | character :: rest =>
      if inClass then ' ' :: cover (character != ']') rest
      else if character == '[' then ' ' :: cover true rest
      else character :: cover false rest

/-- What of the text is neither escaped nor in a class, at its place. -/
def exposed (text : Text) : Text :=
  cover false text

/-- The number of parentheses that are open at the index. It is negative if too many were closed. -/
def depth (text : Text) (index : Nat) : Int :=
  (text.take index).count '(' - (text.take index).count ')'

/-- No parenthesis is closed that is not open, and none is left open. -/
structure Balanced (text : Text) : Prop where
  nonnegative : ∀ index ≤ text.length, 0 ≤ depth text index
  closed : depth text text.length = 0

instance (text : Text) : Decidable (Balanced text) :=
  decidable_of_iff ((∀ index ≤ text.length, 0 ≤ depth text index) ∧ depth text text.length = 0)
    ⟨fun parts => ⟨parts.1, parts.2⟩, fun balanced => ⟨balanced.nonnegative, balanced.closed⟩⟩

/-- A parenthesis that is opened at the start is still open at the index: from there on, it is
deeper than before. -/
def Encloses (text : Text) (start index : Nat) : Prop :=
  start < index ∧ ∀ between ≤ index, start < between → depth text start < depth text between

instance (text : Text) (start index : Nat) : Decidable (Encloses text start index) :=
  inferInstanceAs (Decidable (_ ∧ ∀ between ≤ index, _))

/-- The parenthesis that is opened at the start is the one that is closed before the stop. -/
structure Pairs (text : Text) (start stop : Nat) : Prop where
  opens : text[start]? = some '('
  closes : text[stop - 1]? = some ')'
  encloses : Encloses text start (stop - 1)
  back : depth text stop = depth text start

/-- The open parentheses are those that enclose the place, the innermost one first. -/
structure Stacked (seen : Text) (opened : List Opened) : Prop where
  nonnegative : ∀ index ≤ seen.length, 0 ≤ depth seen index
  height : depth seen seen.length = opened.length
  opens : ∀ parenthesis ∈ opened, seen[parenthesis.start]? = some '('
  encloses : ∀ parenthesis ∈ opened, Encloses seen parenthesis.start seen.length
  depths : opened.map (fun parenthesis => depth seen parenthesis.start) =
    (List.range opened.length).reverse.map Nat.cast

section Covering

/-- Each character shows as it is or is covered. -/
theorem forall₂_cover (inClass : Bool) (text : Text) :
    List.Forall₂ (fun shown character => shown = ' ' ∨ shown = character) (cover inClass text)
      text := by
  fun_induction cover inClass text with
  | case1 => exact .nil
  | case2 => exact .cons (.inl rfl) .nil
  | case3 inClass hidden rest ih => exact .cons (.inl rfl) (.cons (.inl rfl) ih)
  | case4 character rest _ ih => exact .cons (.inl rfl) ih
  | case5 _ character rest _ _ _ ih => exact .cons (.inl rfl) ih
  | case6 _ character rest _ _ _ ih => exact .cons (.inr rfl) ih

theorem length_cover (inClass : Bool) (text : Text) :
    (cover inClass text).length = text.length :=
  (forall₂_cover inClass text).length_eq

/-- A parenthesis that shows stands in the text. -/
theorem getElem?_of_exposed {text : Text} {index : Nat} {character : Char}
    (shows : (exposed text)[index]? = some character) (visible : character ≠ ' ') :
    text[index]? = some character := by
  obtain ⟨within, rfl⟩ := List.getElem?_eq_some_iff.mp shows
  have there : index < text.length := length_cover false text ▸ within
  have same := (List.forall₂_iff_get.mp (forall₂_cover false text)).2 index within there
  rw [List.getElem?_eq_getElem there]
  exact congrArg some (same.resolve_left visible).symm

end Covering

section Depths

variable {text : Text} {start stop index : Nat}

/-- What follows an index does not change its depth. -/
theorem depth_append (within : index ≤ text.length) (more : Text) :
    depth (text ++ more) index = depth text index := by
  rw [depth, depth, List.take_append_of_le_length within]

theorem depth_concat (text : Text) (character : Char) :
    depth (text ++ [character]) (text.length + 1) =
      depth text text.length + (if character = '(' then 1 else 0) -
        if character = ')' then 1 else 0 := by
  have whole : (text ++ [character]).take (text.length + 1) = text ++ [character] :=
    List.take_of_length_le (by simp)
  rw [depth, depth, whole, List.take_length, List.count_append, List.count_append,
    List.count_singleton, List.count_singleton]
  simp only [beq_iff_eq]
  split <;> split <;> push_cast <;> omega

theorem encloses_append (within : index ≤ text.length) (more : Text) :
    Encloses (text ++ more) start index ↔ Encloses text start index := by
  apply and_congr_right
  intro before
  apply forall₂_congr
  intro between upper
  rw [depth_append (by omega), depth_append (by omega)]

theorem Encloses.concat (encloses : Encloses text start text.length) {character : Char}
    (deeper : depth text start < depth (text ++ [character]) (text.length + 1)) :
    Encloses (text ++ [character]) start (text.length + 1) := by
  obtain ⟨before, inside⟩ := encloses
  refine ⟨by omega, fun between upper lower => ?_⟩
  rw [depth_append (Nat.le_of_lt before)]
  rcases Nat.le_or_eq_of_le_succ upper with within | rfl
  · rw [depth_append within]
    exact inside between within lower
  · exact deeper

/-- Parentheses that enclose the same place are told apart by their depth. -/
theorem Encloses.eq_of_depth_eq {other : Nat} (encloses : Encloses text start index)
    (also : Encloses text other index) (same : depth text start = depth text other) :
    start = other := by
  rcases Nat.lt_trichotomy start other with before | equal | after
  · have := encloses.2 other (Nat.le_of_lt also.1) before
    omega
  · exact equal
  · have := also.2 start (Nat.le_of_lt encloses.1) after
    omega

theorem Pairs.append (pairs : Pairs text start stop) (within : stop ≤ text.length) (more : Text) :
    Pairs (text ++ more) start stop := by
  have := pairs.encloses.1
  refine ⟨?_, ?_, ?_, ?_⟩
  · rw [List.getElem?_append_left (by omega)]
    exact pairs.opens
  · rw [List.getElem?_append_left (by omega)]
    exact pairs.closes
  · rw [encloses_append (by omega)]
    exact pairs.encloses
  · rw [depth_append within, depth_append (by omega)]
    exact pairs.back

end Depths

section Stacks

variable {seen : Text} {character : Char} {opened kept : List Opened} {innermost : Opened}

theorem lt_length_of_depths {measure : Opened → Int}
    (depths : opened.map measure = (List.range opened.length).reverse.map Nat.cast)
    {parenthesis : Opened} (member : parenthesis ∈ opened) :
    measure parenthesis < opened.length := by
  have listed := List.mem_map_of_mem (f := measure) member
  rw [depths, List.mem_map] at listed
  obtain ⟨height, within, equal⟩ := listed
  rw [List.mem_reverse, List.mem_range] at within
  omega

/-- No other parentheses enclose the place. -/
theorem Stacked.mem_of_encloses (stacked : Stacked seen opened) {start : Nat}
    (encloses : Encloses seen start seen.length) :
    ∃ parenthesis ∈ opened, parenthesis.start = start := by
  have lower := stacked.nonnegative start (Nat.le_of_lt encloses.1)
  have upper := encloses.2 seen.length (Nat.le_refl _) encloses.1
  rw [stacked.height] at upper
  have listed : depth seen start ∈ (List.range opened.length).reverse.map Nat.cast :=
    List.mem_map.mpr ⟨(depth seen start).toNat, by simp; omega, by omega⟩
  rw [← stacked.depths, List.mem_map] at listed
  obtain ⟨parenthesis, member, same⟩ := listed
  exact ⟨parenthesis, member, (stacked.encloses parenthesis member).eq_of_depth_eq encloses same⟩

theorem Stacked.depth_concat_start (stacked : Stacked seen opened) {parenthesis : Opened}
    (member : parenthesis ∈ opened) :
    depth (seen ++ [character]) parenthesis.start = depth seen parenthesis.start :=
  depth_append (Nat.le_of_lt (stacked.encloses parenthesis member).1) _

theorem Stacked.nonnegative_concat (stacked : Stacked seen opened)
    (next : 0 ≤ depth (seen ++ [character]) (seen.length + 1)) :
    ∀ index ≤ (seen ++ [character]).length, 0 ≤ depth (seen ++ [character]) index := by
  intro index upper
  rw [List.length_append, List.length_singleton] at upper
  rcases Nat.le_or_eq_of_le_succ upper with within | rfl
  · rw [depth_append within]
    exact stacked.nonnegative index within
  · exact next

theorem Stacked.opens_concat (stacked : Stacked seen opened) {parenthesis : Opened}
    (member : parenthesis ∈ opened) :
    (seen ++ [character])[parenthesis.start]? = some '(' := by
  rw [List.getElem?_append_left (stacked.encloses parenthesis member).1]
  exact stacked.opens parenthesis member

theorem Stacked.push (stacked : Stacked seen opened) (index : Option Nat) (isWrapper : Bool) :
    Stacked (seen ++ ['(']) (⟨seen.length, index, isWrapper⟩ :: opened) := by
  have deeper : depth (seen ++ ['(']) (seen.length + 1) = opened.length + 1 := by
    rw [depth_concat, stacked.height]
    simp
  refine ⟨stacked.nonnegative_concat (by omega), ?_, ?_, ?_, ?_⟩
  · simpa using deeper
  · exact List.forall_mem_cons.mpr ⟨List.getElem?_concat_length, fun _ => stacked.opens_concat⟩
  · rw [List.length_append, List.length_singleton]
    refine List.forall_mem_cons.mpr ⟨⟨Nat.lt_succ_self _, fun between upper lower => ?_⟩, ?_⟩
    · obtain rfl : between = seen.length + 1 := Nat.le_antisymm upper lower
      rw [deeper, depth_append (Nat.le_refl _), stacked.height]
      omega
    · intro parenthesis member
      have := lt_length_of_depths stacked.depths member
      exact (stacked.encloses parenthesis member).concat (by omega)
  · rw [List.map_cons, List.length_cons, List.range_succ, List.reverse_append, List.map_append,
      List.map_congr_left fun _ => stacked.depth_concat_start, stacked.depths,
      depth_append (Nat.le_refl _), stacked.height]
    rfl

/-- The parentheses that are kept are as many as the place is deep. -/
theorem Stacked.keep (stacked : Stacked seen (opened ++ kept))
    (height : depth (seen ++ [character]) (seen.length + 1) = kept.length) :
    Stacked (seen ++ [character]) kept := by
  have included : ∀ parenthesis ∈ kept, parenthesis ∈ opened ++ kept :=
    fun _ => List.mem_append_right opened
  have depths : kept.map (fun parenthesis => depth seen parenthesis.start) =
      (List.range kept.length).reverse.map Nat.cast := by
    have parts := congrArg (List.drop opened.length) stacked.depths
    rw [List.map_append, List.drop_left' (List.length_map _), List.length_append, ← List.map_drop,
      List.drop_reverse, List.length_range, List.take_range] at parts
    rw [parts]
    congr 3
    omega
  refine ⟨stacked.nonnegative_concat (by omega), ?_, ?_, ?_, ?_⟩
  · simpa using height
  · exact fun parenthesis member => stacked.opens_concat (included parenthesis member)
  · intro parenthesis member
    have := lt_length_of_depths depths member
    rw [List.length_append, List.length_singleton]
    exact (stacked.encloses parenthesis (included parenthesis member)).concat (by omega)
  · rw [← depths]
    exact List.map_congr_left fun parenthesis member =>
      stacked.depth_concat_start (included parenthesis member)

theorem Stacked.skip (stacked : Stacked seen opened) (noOpening : character ≠ '(')
    (noClosing : character ≠ ')') : Stacked (seen ++ [character]) opened := by
  have all : Stacked seen ([] ++ opened) := stacked
  apply all.keep
  rw [depth_concat, stacked.height]
  simp [noOpening, noClosing]

theorem Stacked.pop (stacked : Stacked seen (innermost :: opened)) :
    Stacked (seen ++ [')']) opened := by
  have split : Stacked seen ([innermost] ++ opened) := stacked
  apply split.keep
  rw [depth_concat, stacked.height]
  simp

/-- What is closed is what was opened last. -/
theorem Stacked.pairs (stacked : Stacked seen (innermost :: opened)) :
    Pairs (seen ++ [')']) innermost.start (seen.length + 1) := by
  have member : innermost ∈ innermost :: opened := List.mem_cons_self
  refine ⟨stacked.opens_concat member, List.getElem?_concat_length, ?_, ?_⟩
  · rw [Nat.add_sub_cancel, encloses_append (Nat.le_refl _)]
    exact stacked.encloses innermost member
  · have deepest : depth seen innermost.start = opened.length := by
      have depths := stacked.depths
      rw [List.map_cons, List.length_cons, List.range_succ, List.reverse_append] at depths
      exact (List.cons.inj depths).1
    rw [stacked.depth_concat_start member, deepest, depth_concat, stacked.height]
    simp

end Stacks

end ItemFilter.CaptureGroup
