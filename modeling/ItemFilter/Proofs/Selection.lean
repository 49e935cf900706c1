/-
This file says which signature is chosen for a line, and when the choice reports an error although
another signature takes the arguments.
-/

import Mathlib.Order.Bounds.Defs
import ItemFilter.Proofs.Fit
import ItemFilter.Proofs.Traversal

namespace ItemFilter

namespace Parameter

theorem scoreIf_bounds (fits : Bool) : -1 ≤ scoreIf fits ∧ scoreIf fits ≤ 1 := by
  cases fits <;> decide

theorem scoreByKind_bounds {kind : ParameterKind} {argument : Text} {value : Int}
    (scored : scoreByKind kind argument = .ok value) : -1 ≤ value ∧ value ≤ 1 := by
  cases kind with
  | rgbColor =>
      by_cases numeral : Text.isPlainNumeral argument = true
      · simp only [scoreByKind, numeral, if_true] at scored
        obtain ⟨component, _, scored⟩ := exists_of_bind_ok scored
        obtain rfl := Except.ok.inj scored
        exact scoreIf_bounds _
      · simp only [scoreByKind, numeral] at scored
        obtain rfl := Except.ok.inj scored
        decide
  | enumeration | unknown =>
      obtain rfl := Except.ok.inj scored
      decide
  | _ =>
      obtain rfl := Except.ok.inj scored
      exact scoreIf_bounds _

/-- An argument counts for one at most, and against one at most. -/
theorem score_bounds {parameter : Parameter} {argument : Text} {value : Int}
    (scored : parameter.score argument = .ok value) : -1 ≤ value ∧ value ≤ 1 := by
  unfold score at scored
  obtain ⟨kindScore, byKind, scored⟩ := exists_of_bind_ok scored
  cases choices : parameter.choices with
  | none =>
      rw [choices] at scored
      obtain rfl := Except.ok.inj scored
      exact scoreByKind_bounds byKind
  | some words =>
      rw [choices] at scored
      obtain rfl := Except.ok.inj scored
      split
      · exact scoreIf_bounds _
      · exact scoreByKind_bounds byKind

end Parameter

namespace Signature

/-- The best place splits the items: what stands before it has fewer points, and what stands behind
it has no more. -/
theorem bestIndex?_map_split {α : Type} (points : α → Int) {items : List α}
    (nonempty : items ≠ []) :
    ∃ before best after, items = before ++ best :: after ∧
      bestIndex? (items.map points) = some before.length ∧
      (∀ item ∈ before, points item < points best) ∧
      ∀ item ∈ after, points item ≤ points best := by
  induction items with
  | nil => exact absurd rfl nonempty
  | cons first rest ih =>
      cases rest with
      | nil => exact ⟨[], first, [], rfl, rfl, by simp, by simp⟩
      | cons second others =>
          obtain ⟨before, best, after, split, place, fewer, noMore⟩ := ih (by simp)
          have there : ((second :: others).map points)[before.length]? = some (points best) := by
            simp [split]
          have step : bestIndex? ((first :: second :: others).map points) =
              if points first < points best then some (before.length + 1) else some 0 := by
            rw [List.map_cons, bestIndex?, place]
            simp only [there, Option.any_some, decide_eq_true_eq]
          -- Only a better item further on beats the first one, so the first of equals wins.
          by_cases less : points first < points best
          · refine ⟨first :: before, best, after, by rw [split]; rfl, ?_, ?_, noMore⟩
            · rw [step, if_pos less]
              rfl
            · intro item member
              rcases List.mem_cons.mp member with rfl | member
              · exact less
              · exact fewer item member
          · refine ⟨[], first, second :: others, rfl, ?_, by simp, ?_⟩
            · rw [step, if_neg less]
              rfl
            · intro item member
              rw [split, List.mem_append, List.mem_cons] at member
              rcases member with earlier | rfl | later
              · have := fewer item earlier
                omega
              · omega
              · have := noMore item later
                omega

/-- The chosen signature scores higher than those declared before it and no lower than those
declared after it. -/
theorem select_split {signatures : List Signature} {arguments : List Text}
    {points : Signature → Int}
    (scored : ∀ signature ∈ signatures, signature.score arguments = .ok (points signature))
    (nonempty : signatures ≠ []) :
    ∃ before chosen after, signatures = before ++ chosen :: after ∧
      select signatures arguments = .ok (some chosen) ∧
      (∀ rival ∈ before, points rival < points chosen) ∧
      ∀ rival ∈ after, points rival ≤ points chosen := by
  obtain ⟨before, chosen, after, split, place, fewer, noMore⟩ :=
    bestIndex?_map_split points nonempty
  refine ⟨before, chosen, after, split, ?_, fewer, noMore⟩
  have there : signatures[before.length]? = some chosen := by simp [split]
  rw [select, mapM_of_forall_ok scored]
  change Except.ok ((bestIndex? (signatures.map points)).bind (signatures[·]?)) = _
  rw [place, Option.bind_some, there]

/-- The scores of the arguments sum up to one for each of them at most, and to minus one at least. -/
theorem sum_scores_bounds {pairs : List (Parameter × Text)} {scores : List Int}
    (scored : pairs.map (fun pair => pair.1.score pair.2) = scores.map .ok) :
    -(pairs.length : Int) ≤ scores.foldr (· + ·) 0 ∧
      scores.foldr (· + ·) 0 ≤ (pairs.length : Int) ∧
      (scores.foldr (· + ·) 0 = (pairs.length : Int) ↔
        ∀ pair ∈ pairs, pair.1.score pair.2 = .ok 1) := by
  induction pairs generalizing scores with
  | nil =>
      obtain rfl : [] = scores := (List.map_eq_nil_iff.mp scored.symm).symm
      simp
  | cons pair rest ih =>
      cases scores with
      | nil => cases scored
      | cons score others =>
          obtain ⟨first, tail⟩ := List.cons.inj scored
          dsimp only at first
          have own := Parameter.score_bounds first
          obtain ⟨least, most, full⟩ := ih tail
          rw [List.forall_mem_cons, ← full, first, Except.ok.injEq, List.length_cons,
            List.foldr_cons]
          omega

/-- The number of arguments that have a parameter. -/
def covered (signature : Signature) (arguments : List Text) : Nat :=
  min signature.length arguments.length

/-- The arguments that have a parameter count for one or against one at most. Only if all of them
speak for their parameters, the score is the greatest possible. -/
theorem score_bounds {signature : Signature} {arguments : List Text} {value : Int}
    (scored : signature.score arguments = .ok value) :
    -(signature.covered arguments : Int) ≤ value ∧ value ≤ signature.covered arguments ∧
      (value = signature.covered arguments ↔
        ∀ pair ∈ signature.zip arguments, pair.1.score pair.2 = .ok 1) := by
  unfold score at scored
  obtain ⟨scores, read, scored⟩ := exists_of_bind_ok scored
  obtain rfl := Except.ok.inj scored
  rw [covered, ← List.length_zip]
  exact sum_scores_bounds (map_of_mapM_ok read)

/-- Every argument has a parameter and speaks for it. -/
def SpokenFor (signature : Signature) (arguments : List Text) : Prop :=
  arguments.length ≤ signature.length ∧
    ∀ pair ∈ signature.zip arguments, pair.1.score pair.2 = .ok 1

/-- Only a signature that all arguments speak for scores as much as there are arguments. -/
theorem score_le_length {signature : Signature} {arguments : List Text} {value : Int}
    (scored : signature.score arguments = .ok value) :
    value ≤ arguments.length ∧ (value = arguments.length ↔ signature.SpokenFor arguments) := by
  obtain ⟨-, bound, full⟩ := score_bounds scored
  rw [SpokenFor, ← full]
  unfold covered at bound ⊢
  omega

/-- A signature takes the arguments of a line if it refuses none of them and needs no more. -/
theorem check_eq_nil_iff (signature : Signature) (code : CodeLine) :
    signature.check code = [] ↔
      (∀ pair ∈ signature.zip code.arguments, pair.1.accepts pair.2.text = true) ∧
        ∀ parameter ∈ signature.drop code.arguments.length, ¬ parameter.required = true := by
  rw [check, checkFrom_eq, List.append_eq_nil_iff]
  simp

/-- Of two places in a list, one stands before the other unless they are the same. -/
theorem places_cases {α : Type} {before after before' after' : List α} {item other : α}
    (same : before ++ item :: after = before' ++ other :: after') :
    item = other ∨ (item ∈ before' ∧ other ∈ after) ∨ (other ∈ before ∧ item ∈ after') := by
  rcases List.append_eq_append_iff.mp same with ⟨between, split, rest⟩ | ⟨between, split, rest⟩
  · cases between with
    | nil => exact .inl (List.cons.inj rest).1
    | cons first others =>
        obtain ⟨rfl, rfl⟩ := List.cons.inj rest
        exact .inr (.inl ⟨by simp [split], by simp⟩)
  · cases between with
    | nil => exact .inl (List.cons.inj rest).1.symm
    | cons first others =>
        obtain ⟨rfl, rfl⟩ := List.cons.inj rest
        exact .inr (.inr ⟨by simp [split], by simp⟩)

/-- If all arguments speak for some signature, they all speak for the chosen one. -/
theorem spokenFor_of_split {before after : List Signature} {chosen signature : Signature}
    {arguments : List Text} {points : Signature → Int}
    (scored : ∀ rival ∈ before ++ chosen :: after,
      rival.score arguments = .ok (points rival))
    (fewer : ∀ rival ∈ before, points rival < points chosen)
    (noMore : ∀ rival ∈ after, points rival ≤ points chosen)
    (member : signature ∈ before ++ chosen :: after) (spoken : signature.SpokenFor arguments) :
    chosen.SpokenFor arguments := by
  have least : points signature ≤ points chosen := by
    rw [List.mem_append, List.mem_cons] at member
    rcases member with earlier | rfl | later
    · exact Int.le_of_lt (fewer signature earlier)
    · exact Int.le_refl _
    · exact noMore signature later
  have full := (score_le_length (scored signature member)).2.mpr spoken
  obtain ⟨bound, spoken_iff⟩ := score_le_length (scored chosen (by simp))
  exact spoken_iff.mp (by omega)

/-- A signature that all arguments speak for takes them, refuses one of them all the same or needs
more. -/
theorem check_of_spokenFor {signature : Signature} {code : CodeLine}
    (spoken : signature.SpokenFor code.argumentTexts) :
    signature.check code = [] ∨
      (∃ pair ∈ signature.zip code.arguments,
        pair.1.score pair.2.text = .ok 1 ∧ pair.1.accepts pair.2.text = false) ∨
      ∃ parameter ∈ signature.drop code.arguments.length, parameter.required = true := by
  by_cases refused : ∃ pair ∈ signature.zip code.arguments, pair.1.accepts pair.2.text = false
  · obtain ⟨pair, member, refuses⟩ := refused
    have scoredPair : (pair.1, pair.2.text) ∈ signature.zip code.argumentTexts := by
      rw [CodeLine.argumentTexts, List.zip_map_right]
      exact List.mem_map_of_mem member
    exact .inr (.inl ⟨pair, member, spoken.2 _ scoredPair, refuses⟩)
  · by_cases short : ∃ parameter ∈ signature.drop code.arguments.length,
        parameter.required = true
    · exact .inr (.inr short)
    · refine .inl ((check_eq_nil_iff signature code).mpr ⟨fun pair member => ?_, ?_⟩)
      · apply Decidable.byContradiction
        intro refuses
        exact refused ⟨pair, member, by simpa using refuses⟩
      · intro parameter member required
        exact short ⟨parameter, member, required⟩

/-- Where some signature takes the arguments, the chosen one takes them exactly when such a
signature comes out ahead of all that do not. If all arguments speak for some signature, a chosen
one that does not take them refuses an argument that speaks for it or needs more of them. -/
theorem check_select_eq_nil_iff (command : Command) (code : CodeLine) (points : Signature → Int)
    (scored : ∀ signature ∈ command.signatures,
      signature.score code.argumentTexts = .ok (points signature))
    (taken : ∃ signature ∈ command.signatures, signature.check code = []) :
    ∃ chosen, select command.signatures code.argumentTexts = .ok (some chosen) ∧
      (chosen.check code = [] ↔
        ∃ before signature after, command.signatures = before ++ signature :: after ∧
          signature.check code = [] ∧
          (∀ rival ∈ before, rival.check code ≠ [] → points rival < points signature) ∧
          ∀ rival ∈ after, rival.check code ≠ [] → points rival ≤ points signature) ∧
      ((∃ signature ∈ command.signatures, signature.SpokenFor code.argumentTexts) →
        chosen.check code = [] ∨
          (∃ pair ∈ chosen.zip code.arguments,
            pair.1.score pair.2.text = .ok 1 ∧ pair.1.accepts pair.2.text = false) ∨
          ∃ parameter ∈ chosen.drop code.arguments.length, parameter.required = true) := by
  obtain ⟨_, member, _⟩ := taken
  obtain ⟨before, chosen, after, split, selected, fewer, noMore⟩ :=
    select_split scored (List.ne_nil_of_mem member)
  refine ⟨chosen, selected, ⟨fun fits => ?_, ?_⟩, ?_⟩
  · exact ⟨before, chosen, after, split, fits, fun rival earlier _ => fewer rival earlier,
      fun rival later _ => noMore rival later⟩
  · rintro ⟨before', signature, after', split', fits, ahead, level⟩
    apply Decidable.byContradiction
    intro refuses
    -- Both places are the best of something: whichever comes first, the points contradict it.
    rcases places_cases (split.symm.trans split') with rfl | ⟨earlier, later⟩ | ⟨earlier, later⟩
    · exact refuses fits
    · have := ahead chosen earlier refuses
      have := noMore signature later
      omega
    · have := level chosen later refuses
      have := fewer signature earlier
      omega
  · rintro ⟨signature, declared, spoken⟩
    have chosenSpoken : chosen.SpokenFor code.argumentTexts := by
      rw [split] at scored declared
      exact spokenFor_of_split scored fewer noMore declared spoken
    exact check_of_spokenFor chosenSpoken

/-- The signature for a quoted value is chosen over the one for an equality sign. -/
theorem check_select_eq_nil_iff_quoted :
    let operator : Signature := [⟨.operator, true, some .equality, none, none⟩]
    let value : Signature := [⟨.string, true, some .quoted, none, none⟩]
    let command : Command := ⟨['B'], .conditions, [operator, value]⟩
    let code : CodeLine := ⟨⟨0, ['B', ' ', '"', 'x', '"']⟩, ⟨['B'], 0⟩, [⟨['"', 'x', '"'], 2⟩]⟩
    let points (signature : Signature) : Int := if signature = operator then -1 else 1
    CodeLine.ofLine? code.line = some code ∧
      (∀ signature ∈ command.signatures,
        signature.score code.argumentTexts = .ok (points signature)) ∧
      (∃ signature ∈ command.signatures, signature.check code = []) ∧
      ∃ chosen, select command.signatures code.argumentTexts = .ok (some chosen) ∧
        chosen.check code = [] := by
  intro operator value command code points
  have scored : ∀ signature ∈ command.signatures,
      signature.score code.argumentTexts = .ok (points signature) := by
    intro signature member
    simp only [command, List.mem_cons, List.not_mem_nil, or_false] at member
    rcases member with rfl | rfl <;> rfl
  have fits : value.check code = [] := by decide
  have taken : ∃ signature ∈ command.signatures, signature.check code = [] :=
    ⟨value, by simp [command], fits⟩
  obtain ⟨chosen, selected, fits_iff, _⟩ := check_select_eq_nil_iff command code points scored taken
  refine ⟨by decide, scored, taken, chosen, selected, fits_iff.mpr ?_⟩
  exact ⟨[operator], value, [], rfl, fits, by decide, by simp⟩

/-- A bare word before a quoted one: the signature for values alone takes the line, but the one that
starts with an equality sign scores higher and refuses the word. -/
theorem refused_select_of_bare_word :
    let operator : Parameter := ⟨.operator, true, some .equality, some "==|=".toList, none⟩
    let value : Parameter := ⟨.string, true, some .quoted, some "\"[^\"]*\"".toList, none⟩
    let command : Command := ⟨"BaseType".toList, .conditions, [[value], [operator, value]]⟩
    ∃ code, CodeLine.ofLine? ⟨0, "BaseType Gold \"Ring\"".toList⟩ = some code ∧
      (∃ signature ∈ command.signatures, signature.check code = []) ∧
      ∃ chosen, select command.signatures code.argumentTexts = .ok (some chosen) ∧
        chosen.check code ≠ [] := by
  intro operator value command
  let code : CodeLine := ⟨⟨0, "BaseType Gold \"Ring\"".toList⟩, ⟨"BaseType".toList, 0⟩,
    [⟨"Gold".toList, 9⟩, ⟨"\"Ring\"".toList, 14⟩]⟩
  refine ⟨code, by decide +kernel, ⟨[value], by simp [command], by decide +kernel⟩,
    [operator, value], rfl, by decide +kernel⟩

/-- The signature at the place scores no less than any other. -/
def ScoresBest (signatures : List Signature) (points : Signature → Int) (place : Nat) : Prop :=
  ∃ signature, signatures[place]? = some signature ∧
    ∀ rival ∈ signatures, points rival ≤ points signature

/-- The place that splits the signatures into worse ones and ones that are no better is the first of
the best places. -/
theorem isLeast_scoresBest {before after : List Signature} {chosen : Signature}
    {points : Signature → Int} (fewer : ∀ rival ∈ before, points rival < points chosen)
    (noMore : ∀ rival ∈ after, points rival ≤ points chosen) :
    IsLeast {place | ScoresBest (before ++ chosen :: after) points place} before.length := by
  constructor
  · refine ⟨chosen, by simp, ?_⟩
    intro rival member
    rw [List.mem_append, List.mem_cons] at member
    rcases member with earlier | rfl | later
    · exact Int.le_of_lt (fewer rival earlier)
    · exact Int.le_refl _
    · exact noMore rival later
  · rintro place ⟨signature, here, best⟩
    apply Nat.le_of_not_lt
    intro sooner
    rw [List.getElem?_append_left sooner] at here
    have worse := fewer signature (List.mem_of_getElem? here)
    have noWorse := best chosen (by simp)
    omega

/-- If all signatures can be scored, none is chosen exactly if there is none. Otherwise it is the
first of those that score best, also where all of them score below zero. -/
theorem select_scoresBest (signatures : List Signature) (arguments : List Text)
    (points : Signature → Int)
    (scored : ∀ signature ∈ signatures, signature.score arguments = .ok (points signature)) :
    ∃ choice, select signatures arguments = .ok choice ∧ (choice = none ↔ signatures = []) ∧
      (signatures ≠ [] → ∃ place, IsLeast {place | ScoresBest signatures points place} place ∧
        choice = signatures[place]?) ∧
      ∀ signature ∈ signatures,
        -(signature.covered arguments : Int) ≤ points signature ∧
          points signature ≤ signature.covered arguments ∧
          (points signature = signature.covered arguments ↔
            ∀ pair ∈ signature.zip arguments, pair.1.score pair.2 = .ok 1) := by
  have bounds := fun signature member => score_bounds (scored signature member)
  by_cases nothing : signatures = []
  · subst nothing
    exact ⟨none, rfl, by simp, fun some => absurd rfl some, bounds⟩
  · obtain ⟨before, chosen, after, rfl, selected, fewer, noMore⟩ := select_split scored nothing
    refine ⟨some chosen, selected, by simp, fun _ => ⟨before.length, ?_, by simp⟩, bounds⟩
    exact isLeast_scoresBest fewer noMore

/-- All signatures score below zero: the longest one scores least, and of the other two the first is
chosen. -/
theorem select_scoresBest_negative :
    let number : Parameter := ⟨.number, true, none, none, none⟩
    let operator : Parameter := ⟨.operator, true, none, none, none⟩
    let signatures : List Signature := [[number, number], [number], [operator]]
    let arguments : List Text := ["x".toList, "y".toList]
    let points (signature : Signature) : Int := -signature.length
    (∀ signature ∈ signatures, signature.score arguments = .ok (points signature)) ∧
      select signatures arguments = .ok (some [number]) := by
  intro number operator signatures arguments points
  have scored : ∀ signature ∈ signatures, signature.score arguments = .ok (points signature) := by
    intro signature member
    simp only [signatures, List.mem_cons, List.not_mem_nil, or_false] at member
    rcases member with rfl | rfl | rfl <;> rfl
  refine ⟨scored, ?_⟩
  obtain ⟨choice, selected, -, chosen, -⟩ := select_scoresBest signatures arguments points scored
  obtain ⟨place, ⟨⟨signature, here, best⟩, least⟩, rfl⟩ := chosen (by simp [signatures])
  have second : ScoresBest signatures points 1 :=
    ⟨[number], rfl, by simp [signatures, points]⟩
  have notFirst : place ≠ 0 := by
    rintro rfl
    obtain rfl : [number, number] = signature := Option.some.inj here
    exact absurd (best [number] (by simp [signatures])) (by decide)
  obtain rfl : place = 1 := by
    have := least second
    omega
  exact selected

end Signature

end ItemFilter
