/-
This file says that the distance of two texts is the least number of edits that turn the one into
the other. Edits may be made anywhere and undo each other; an alignment writes the two texts below
each other and goes from left to right, as the rows of distances do.
-/

import Mathlib.Order.Lattice.Nat
import ItemFilter.EditDistance

namespace ItemFilter.EditDistance

/-- One character of a text is inserted, deleted or substituted. -/
inductive Edit : Text → Text → Prop where
  | insert (before : Text) (character : Char) (after : Text) :
      Edit (before ++ after) (before ++ character :: after)
  | delete (before : Text) (character : Char) (after : Text) :
      Edit (before ++ character :: after) (before ++ after)
  | substitute (before : Text) (old new : Char) (after : Text) :
      Edit (before ++ old :: after) (before ++ new :: after)

/-- The number of edits, one after the other, that turn a text into another. -/
inductive Edits : Nat → Text → Text → Prop where
  | none (text : Text) : Edits 0 text text
  | more {count : Nat} {left middle right : Text} (first : Edit left middle)
      (others : Edits count middle right) : Edits (count + 1) left right

theorem Edit.symm {left right : Text} (edit : Edit left right) : Edit right left := by
  cases edit with
  | insert before character after => exact .delete before character after
  | delete before character after => exact .insert before character after
  | substitute before old new after => exact .substitute before new old after

theorem Edit.cons {left right : Text} (edit : Edit left right) (character : Char) :
    Edit (character :: left) (character :: right) := by
  cases edit with
  | insert before inserted after => exact .insert (character :: before) inserted after
  | delete before deleted after => exact .delete (character :: before) deleted after
  | substitute before old new after => exact .substitute (character :: before) old new after

namespace Edits

theorem append {first second : Nat} {left middle right : Text} (begun : Edits first left middle)
    (finished : Edits second middle right) : Edits (first + second) left right := by
  induction begun with
  | none text => rwa [Nat.zero_add]
  | more edit others ih =>
      rw [Nat.add_right_comm]
      exact .more edit (ih finished)

theorem single {left right : Text} (edit : Edit left right) : Edits 1 left right :=
  .more edit (.none right)

theorem symm {count : Nat} {left right : Text} (edits : Edits count left right) :
    Edits count right left := by
  induction edits with
  | none text => exact .none text
  | more edit others ih => exact ih.append (single edit.symm)

theorem cons {count : Nat} {left right : Text} (edits : Edits count left right)
    (character : Char) : Edits count (character :: left) (character :: right) := by
  induction edits with
  | none text => exact .none (character :: text)
  | more edit others ih => exact .more (edit.cons character) ih

theorem zero_iff {left right : Text} : Edits 0 left right ↔ left = right := by
  constructor
  · intro edits
    cases edits
    rfl
  · rintro rfl
    exact .none left

end Edits

/-- The texts are written below each other in columns, with gaps. The cost counts the columns that
do not hold the same character twice. -/
inductive Aligned : Nat → Text → Text → Prop where
  | nil : Aligned 0 [] []
  | keep {cost : Nat} {left right : Text} (character : Char) (rest : Aligned cost left right) :
      Aligned cost (character :: left) (character :: right)
  | substitute {cost : Nat} {left right : Text} (old new : Char)
      (rest : Aligned cost left right) : Aligned (cost + 1) (old :: left) (new :: right)
  | delete {cost : Nat} {left right : Text} (character : Char) (rest : Aligned cost left right) :
      Aligned (cost + 1) (character :: left) right
  | insert {cost : Nat} {left right : Text} (character : Char) (rest : Aligned cost left right) :
      Aligned (cost + 1) left (character :: right)

namespace Aligned

theorem refl (text : Text) : Aligned 0 text text := by
  induction text with
  | nil => exact .nil
  | cons character rest ih => exact .keep character ih

theorem symm {cost : Nat} {left right : Text} (aligned : Aligned cost left right) :
    Aligned cost right left := by
  induction aligned with
  | nil => exact .nil
  | keep character rest ih => exact .keep character ih
  | substitute old new rest ih => exact .substitute new old ih
  | delete character rest ih => exact .insert character ih
  | insert character rest ih => exact .delete character ih

theorem append {first second : Nat} {left right left' right' : Text}
    (front : Aligned first left right) (back : Aligned second left' right') :
    Aligned (first + second) (left ++ left') (right ++ right') := by
  induction front with
  | nil => rwa [Nat.zero_add]
  | keep character rest ih => exact .keep character ih
  | substitute old new rest ih =>
      rw [Nat.add_right_comm]
      exact .substitute old new ih
  | delete character rest ih =>
      rw [Nat.add_right_comm]
      exact .delete character ih
  | insert character rest ih =>
      rw [Nat.add_right_comm]
      exact .insert character ih

theorem reverse {cost : Nat} {left right : Text} (aligned : Aligned cost left right) :
    Aligned cost left.reverse right.reverse := by
  induction aligned with
  | nil => exact .nil
  | keep character rest ih =>
      rw [List.reverse_cons, List.reverse_cons]
      exact ih.append (.refl [character])
  | substitute old new rest ih =>
      rw [List.reverse_cons, List.reverse_cons]
      exact ih.append (.substitute old new .nil)
  | delete character rest ih =>
      rw [List.reverse_cons]
      simpa using ih.append (.delete character .nil)
  | insert character rest ih =>
      rw [List.reverse_cons]
      simpa using ih.append (.insert character .nil)

/-- The columns may be cut wherever the upper text is cut. -/
theorem split {cost : Nat} {before after right : Text}
    (aligned : Aligned cost (before ++ after) right) :
    ∃ first second front back, cost = first + second ∧ right = front ++ back ∧
      Aligned first before front ∧ Aligned second after back := by
  induction before generalizing cost right with
  | nil => exact ⟨0, cost, [], right, (Nat.zero_add cost).symm, rfl, .nil, aligned⟩
  | cons character before ih =>
      generalize whole : character :: before ++ after = left at aligned
      induction aligned with
      | nil => cases whole
      | keep kept rest _ =>
          obtain ⟨rfl, rfl⟩ := List.cons.inj whole
          obtain ⟨first, second, front, back, rfl, rfl, upper, lower⟩ := ih rest
          exact ⟨first, second, character :: front, back, rfl, rfl, .keep character upper, lower⟩
      | substitute old new rest _ =>
          obtain ⟨rfl, rfl⟩ := List.cons.inj whole
          obtain ⟨first, second, front, back, rfl, rfl, upper, lower⟩ := ih rest
          exact ⟨first + 1, second, new :: front, back, by omega, rfl,
            .substitute character new upper, lower⟩
      | delete deleted rest _ =>
          obtain ⟨rfl, rfl⟩ := List.cons.inj whole
          obtain ⟨first, second, front, back, rfl, rfl, upper, lower⟩ := ih rest
          exact ⟨first + 1, second, front, back, by omega, rfl, .delete character upper, lower⟩
      | insert inserted rest later =>
          obtain ⟨first, second, front, back, rfl, rfl, upper, lower⟩ := later whole
          exact ⟨first + 1, second, inserted :: front, back, by omega, rfl,
            .insert inserted upper, lower⟩

/-- A character less on the left costs at most one more. -/
theorem tail {cost : Nat} {character : Char} {left right : Text}
    (aligned : Aligned cost (character :: left) right) :
    ∃ other ≤ cost + 1, Aligned other left right := by
  generalize whole : character :: left = upper at aligned
  induction aligned with
  | nil => cases whole
  | keep kept rest _ =>
      obtain ⟨rfl, rfl⟩ := List.cons.inj whole
      exact ⟨_, le_refl _, .insert character rest⟩
  | substitute old new rest _ =>
      obtain ⟨rfl, rfl⟩ := List.cons.inj whole
      exact ⟨_, Nat.le_succ _, .insert new rest⟩
  | delete deleted rest _ =>
      obtain ⟨rfl, rfl⟩ := List.cons.inj whole
      exact ⟨_, by omega, rest⟩
  | insert inserted rest ih =>
      obtain ⟨other, bound, rest⟩ := ih whole
      exact ⟨other + 1, by omega, .insert inserted rest⟩

/-- Another character on the left costs at most one more. -/
theorem replace {cost : Nat} {old : Char} {left right : Text}
    (aligned : Aligned cost (old :: left) right) (new : Char) :
    ∃ other ≤ cost + 1, Aligned other (new :: left) right := by
  generalize whole : old :: left = upper at aligned
  induction aligned with
  | nil => cases whole
  | keep kept rest _ =>
      obtain ⟨rfl, rfl⟩ := List.cons.inj whole
      exact ⟨_, le_refl _, .substitute new old rest⟩
  | substitute replaced lower rest _ =>
      obtain ⟨rfl, rfl⟩ := List.cons.inj whole
      exact ⟨_, Nat.le_succ _, .substitute new lower rest⟩
  | delete deleted rest _ =>
      obtain ⟨rfl, rfl⟩ := List.cons.inj whole
      exact ⟨_, Nat.le_succ _, .delete new rest⟩
  | insert inserted rest ih =>
      obtain ⟨other, bound, rest⟩ := ih whole
      exact ⟨other + 1, by omega, .insert inserted rest⟩

/-- An edit of the upper text costs at most one more. -/
theorem of_edit {cost : Nat} {left middle right : Text} (edit : Edit left middle)
    (aligned : Aligned cost middle right) : ∃ other ≤ cost + 1, Aligned other left right := by
  -- The columns before the edit stay; only the ones from the edited character on are looked at.
  cases edit with
  | insert before character after =>
      obtain ⟨first, second, front, back, rfl, rfl, upper, lower⟩ := aligned.split
      obtain ⟨other, bound, lower⟩ := lower.tail
      exact ⟨first + other, by omega, upper.append lower⟩
  | delete before character after =>
      obtain ⟨first, second, front, back, rfl, rfl, upper, lower⟩ := aligned.split
      exact ⟨first + (second + 1), by omega, upper.append (.delete character lower)⟩
  | substitute before old new after =>
      obtain ⟨first, second, front, back, rfl, rfl, upper, lower⟩ := aligned.split
      obtain ⟨other, bound, lower⟩ := lower.replace old
      exact ⟨first + other, by omega, upper.append lower⟩

/-- No sequence of edits is shorter than the cheapest alignment. -/
theorem of_edits {count : Nat} {left right : Text} (edits : Edits count left right) :
    ∃ cost ≤ count, Aligned cost left right := by
  induction edits with
  | none text => exact ⟨0, le_refl 0, .refl text⟩
  | more edit others ih =>
      obtain ⟨cost, bound, aligned⟩ := ih
      obtain ⟨other, further, aligned⟩ := of_edit edit aligned
      exact ⟨other, by omega, aligned⟩

/-- The columns of an alignment can be edited one by one. -/
theorem edits {cost : Nat} {left right : Text} (aligned : Aligned cost left right) :
    Edits cost left right := by
  induction aligned with
  | nil => exact .none []
  | keep character rest ih => exact ih.cons character
  | substitute old new rest ih => exact .more (.substitute [] old new _) (ih.cons new)
  | delete character rest ih => exact .more (.delete [] character _) ih
  | insert character rest ih => exact .more (.insert [] character _) (ih.cons character)

/-- The last column holds a character of both texts or of one of them. -/
theorem concat_cases {cost : Nat} {left right : Text} {old new : Char}
    (aligned : Aligned cost (left ++ [old]) (right ++ [new])) :
    (∃ other, cost = other + 1 ∧ Aligned other left (right ++ [new])) ∨
      (∃ other, cost = other + 1 ∧ Aligned other (left ++ [old]) right) ∨
      ∃ other, other + (if old = new then 0 else 1) ≤ cost ∧ Aligned other left right := by
  have mirrored := aligned.reverse
  rw [List.reverse_concat, List.reverse_concat] at mirrored
  cases mirrored with
  | keep character rest =>
      exact .inr (.inr ⟨cost, by simp, by simpa using rest.reverse⟩)
  | @substitute other _ _ _ _ rest =>
      exact .inr (.inr ⟨other, by split <;> omega, by simpa using rest.reverse⟩)
  | @delete other _ _ _ rest => exact .inl ⟨other, rfl, by simpa using rest.reverse⟩
  | @insert other _ _ _ rest => exact .inr (.inl ⟨other, rfl, by simpa using rest.reverse⟩)

end Aligned

/-- The cost of the cheapest alignment. -/
noncomputable def leastCost (left right : Text) : Nat :=
  sInf {cost | Aligned cost left right}

theorem aligned_leastCost (left right : Text) : Aligned (leastCost left right) left right := by
  have deleted : Aligned left.length left [] := by
    induction left with
    | nil => exact .nil
    | cons character rest ih => exact .delete character ih
  have inserted : Aligned right.length [] right := by
    induction right with
    | nil => exact .nil
    | cons character rest ih => exact .insert character ih
  have aligned : Aligned (left.length + right.length) left right := by
    simpa using deleted.append inserted
  have inhabited : {cost | Aligned cost left right}.Nonempty := ⟨_, aligned⟩
  exact Nat.sInf_mem inhabited

theorem leastCost_le {cost : Nat} {left right : Text} (aligned : Aligned cost left right) :
    leastCost left right ≤ cost :=
  Nat.sInf_le aligned

theorem leastCost_comm (left right : Text) : leastCost left right = leastCost right left :=
  le_antisymm (leastCost_le (aligned_leastCost right left).symm)
    (leastCost_le (aligned_leastCost left right).symm)

theorem leastCost_nil_left (right : Text) : leastCost [] right = right.length := by
  have exactly : ∀ {cost : Nat}, Aligned cost [] right → cost = right.length := by
    induction right with
    | nil =>
        intro cost aligned
        cases aligned
        rfl
    | cons character rest ih =>
        intro cost aligned
        cases aligned with
        | insert _ others => rw [ih others, List.length_cons]
  exact exactly (aligned_leastCost [] right)

theorem leastCost_nil_right (left : Text) : leastCost left [] = left.length := by
  rw [leastCost_comm, leastCost_nil_left]

/-- The cheapest alignment is cheapest up to its last column. -/
theorem leastCost_concat (left right : Text) (old new : Char) :
    leastCost (left ++ [old]) (right ++ [new]) =
      min (min (leastCost left (right ++ [new]) + 1) (leastCost (left ++ [old]) right + 1))
        (leastCost left right + if old = new then 0 else 1) := by
  apply le_antisymm
  · apply le_min
    · apply le_min
      · apply leastCost_le
        simpa using (aligned_leastCost left (right ++ [new])).append (.delete old .nil)
      · apply leastCost_le
        simpa using (aligned_leastCost (left ++ [old]) right).append (.insert new .nil)
    · apply leastCost_le
      have shorter := aligned_leastCost left right
      split
      · next same =>
          subst same
          exact shorter.append (.refl [old])
      · exact shorter.append (.substitute old new .nil)
  · rcases (aligned_leastCost (left ++ [old]) (right ++ [new])).concat_cases with
      ⟨other, cost, rest⟩ | ⟨other, cost, rest⟩ | ⟨other, bound, rest⟩
    · have := leastCost_le rest
      omega
    · have := leastCost_le rest
      omega
    · have := leastCost_le rest
      omega

/-- The least costs for the starts of a text from a place in it on. -/
noncomputable def costsFrom (left before : Text) : Text → List Nat
  | [] => [leastCost left before]
  | character :: rest => leastCost left before :: costsFrom left (before ++ [character]) rest

theorem costsFrom_eq_cons (left before after : Text) :
    ∃ others, costsFrom left before after = leastCost left before :: others := by
  cases after with
  | nil => exact ⟨_, rfl⟩
  | cons character rest => exact ⟨_, rfl⟩

theorem getLastD_costsFrom (left before after : Text) :
    (costsFrom left before after).getLastD 0 = leastCost left (before ++ after) := by
  induction after generalizing before with
  | nil => rw [List.append_nil]; rfl
  | cons character rest ih =>
      obtain ⟨others, costs⟩ := costsFrom_eq_cons left (before ++ [character]) rest
      have last := ih (before ++ [character])
      rw [List.append_assoc, costs] at last
      rw [costsFrom, costs]
      exact last

/-- The first row counts the characters to insert. -/
theorem range_eq_costsFrom (before after : Text) :
    List.range' before.length (after.length + 1) = costsFrom [] before after := by
  induction after generalizing before with
  | nil => rw [costsFrom, leastCost_nil_left]; rfl
  | cons character rest ih =>
      have next := ih (before ++ [character])
      rw [List.length_append, List.length_singleton] at next
      rw [List.length_cons, List.range'_succ, next, costsFrom, leastCost_nil_left]

/-- A row of least costs is extended to the row of least costs for one more character. -/
theorem extendRow_costsFrom (left before after : Text) (character : Char) :
    leastCost (left ++ [character]) before ::
        extendRow character (leastCost (left ++ [character]) before) after
          (costsFrom left before after) =
      costsFrom (left ++ [character]) before after := by
  induction after generalizing before with
  | nil => rfl
  | cons other rest ih =>
      obtain ⟨others, costs⟩ := costsFrom_eq_cons left (before ++ [other]) rest
      have next := ih (before ++ [other])
      rw [leastCost_concat, costs] at next
      rw [costsFrom, costsFrom, costs, extendRow, next]

theorem nextRow_costsFrom (left right : Text) (character : Char) :
    nextRow right (costsFrom left [] right) character =
      costsFrom (left ++ [character]) [] right := by
  obtain ⟨others, costs⟩ := costsFrom_eq_cons left [] right
  have first : (costsFrom left [] right).headD 0 + 1 = leastCost (left ++ [character]) [] := by
    rw [costs, List.headD_cons, leastCost_nil_right, leastCost_nil_right, List.length_append,
      List.length_singleton]
  rw [nextRow, first]
  exact extendRow_costsFrom left [] right character

/-- Every row holds least costs, so the last one holds those of the whole text. -/
theorem foldl_nextRow (before after right : Text) :
    after.foldl (nextRow right) (costsFrom before [] right) =
      costsFrom (before ++ after) [] right := by
  induction after generalizing before with
  | nil => rw [List.append_nil]; rfl
  | cons character rest ih =>
      rw [List.foldl_cons, nextRow_costsFrom, ih, List.append_assoc, List.singleton_append]

theorem getLastD_lastRow (left right : Text) :
    (lastRow left right).getLastD 0 = leastCost left right := by
  have first : List.range (right.length + 1) = costsFrom [] [] right := by
    rw [List.range_eq_range']
    exact range_eq_costsFrom [] right
  rw [lastRow, first, foldl_nextRow, getLastD_costsFrom]
  rfl

theorem distance_eq_leastCost (left right : Text) : distance left right = leastCost left right := by
  unfold distance
  split
  · rw [getLastD_lastRow, leastCost_comm]
  · exact getLastD_lastRow left right

theorem edits_distance (left right : Text) : Edits (distance left right) left right := by
  rw [distance_eq_leastCost]
  exact (aligned_leastCost left right).edits

theorem distance_le_of_edits {count : Nat} {left right : Text} (edits : Edits count left right) :
    distance left right ≤ count := by
  obtain ⟨cost, bound, aligned⟩ := Aligned.of_edits edits
  rw [distance_eq_leastCost]
  exact le_trans (leastCost_le aligned) bound

/-- The distance is the least number of edits that turn the one text into the other. So it is the
same in both directions, only equal texts have none, and a detour is never shorter. -/
theorem distance_isLeast (left right : Text) :
    IsLeast {count | Edits count left right} (distance left right) ∧
      distance left right = distance right left ∧
      (distance left right = 0 ↔ left = right) ∧
      ∀ middle, distance left right ≤ distance left middle + distance middle right := by
  have symmetric : ∀ first second, distance first second ≤ distance second first :=
    fun first second => distance_le_of_edits (edits_distance second first).symm
  refine ⟨⟨edits_distance left right, fun count edits => distance_le_of_edits edits⟩,
    le_antisymm (symmetric left right) (symmetric right left), ⟨?_, ?_⟩, fun middle => ?_⟩
  · intro zero
    apply Edits.zero_iff.mp
    rw [← zero]
    exact edits_distance left right
  · intro same
    apply Nat.le_zero.mp
    exact distance_le_of_edits (Edits.zero_iff.mpr same)
  · apply distance_le_of_edits
    exact (edits_distance left middle).append (edits_distance middle right)

end ItemFilter.EditDistance
