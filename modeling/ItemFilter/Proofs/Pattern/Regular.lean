/-
This file gives the searches for regular trees their languages. What a tree of characters,
sequences, branches and greedy repetitions finds depends only on the text ahead, and a repetition
finds the texts that are made of any number of those it repeats.
-/

import Mathlib.Computability.Language
import ItemFilter.Proofs.Pattern.Language
import ItemFilter.Proofs.Pattern.Loosening

namespace ItemFilter.Pattern

open scoped Computability

/-- Whether the search succeeds depends only on the text ahead: it has to be in the language. -/
def Search.Decides (search : Search) (language : Language Char) : Prop :=
  ∀ place : Place, place.Counted → ((search place).isSome = true ↔ place.ahead ∈ language)

/-- The way leads over the texts of the language, whatever comes after them. -/
def Way.Reads (way : Way) (language : Language Char) : Prop :=
  ∀ ⦃search : Search⦄ ⦃rest : Language Char⦄, search.Decides rest →
    (way search).Decides (language * rest)

namespace Way

variable {way other : Way} {language second : Language Char}

theorem reads_atom (modes : Modes) (leaf : Atom) :
    (Node.atom modes leaf).search.Reads
      (characterLanguage fun character => leaf.accepts modes character) := by
  intro search rest decides place counted
  rw [mem_characterLanguage_mul, Node.search]
  cases ahead : place.ahead with
  | nil => simp [Place.step?, ahead]
  | cons character others =>
      by_cases accepted : leaf.accepts modes character = true
      · have steps : place.step? (fun character => leaf.accepts modes character) =
            some { place with
              behind := character :: place.behind, ahead := others, left := place.left - 1 } := by
          simp [Place.step?, ahead, accepted]
        have next := decides _ (counted.step? steps).1
        simp [steps, next, accepted]
      · simp [Place.step?, ahead, accepted]

theorem Reads.sequence (reads : way.Reads language) (readsOther : other.Reads second) :
    Way.Reads (fun rest => way (other rest)) (language * second) := by
  intro search rest decides
  rw [mul_assoc]
  exact reads (readsOther decides)

theorem Reads.choice (reads : way.Reads language) (readsOther : other.Reads second) :
    Way.Reads (fun rest place => (way rest place).or (other rest place)) (language + second) := by
  intro search rest decides place counted
  rw [add_mul, Language.mem_add, ← reads decides place counted,
    ← readsOther decides place counted, Option.isSome_or, Bool.or_eq_true]

theorem Reads.times (reads : way.Reads language) (count : Nat) :
    (way.times count).Reads (language ^ count) := by
  induction count with
  | zero =>
      intro search rest decides
      rw [pow_zero, one_mul]
      exact decides
  | succ count ih =>
      rw [pow_succ']
      exact reads.sequence ih

end Way

theorem kstar_mul_eq (language rest : Language Char) :
    language∗ * rest = rest + language * (language∗ * rest) := by
  conv_lhs => rw [← Language.one_add_self_mul_kstar_eq_kstar, add_mul, one_mul, mul_assoc]

/-- A text of turns has none of them, or the first one that advances can be told. -/
theorem mem_kstar_mul_iff {language rest : Language Char} {text : Text} :
    text ∈ language∗ * rest ↔
      text ∈ rest ∨ ∃ first others, first ++ others = text ∧ first ∈ language ∧
        others.length < text.length ∧ others ∈ language∗ * rest := by
  constructor
  · intro member
    obtain ⟨turns, repeated, last, ends, rfl⟩ := Language.mem_mul.mp member
    obtain ⟨pieces, rfl, inside⟩ := Language.mem_kstar_iff_exists_nonempty.mp repeated
    cases pieces with
    | nil => exact .inl ends
    | cons piece others =>
        obtain ⟨⟨listed, advances⟩, later⟩ := List.forall_mem_cons.mp inside
        have remaining : others.flatten ∈ language∗ :=
          Language.join_mem_kstar fun turn member => (later turn member).1
        refine .inr ⟨piece, others.flatten ++ last, by simp, listed, ?_, ?_⟩
        · have := List.length_pos_iff.mpr advances
          simp only [List.flatten_cons, List.append_assoc, List.length_append]
          omega
        · exact Language.mem_mul.mpr ⟨_, remaining, last, ends, rfl⟩
  · intro cases
    rw [kstar_mul_eq, Language.mem_add]
    apply cases.imp_right
    rintro ⟨first, others, parts, listed, -, remaining⟩
    exact Language.mem_mul.mpr ⟨first, listed, others, remaining, parts⟩

/-- What may follow a turn of a text of this length: further turns if it advances, and only the rest
if it does not. -/
def afterTurn (language rest : Language Char) (length : Nat) : Language Char :=
  {text | if text.length < length then text ∈ language∗ * rest else text ∈ rest}

theorem mem_afterTurn_of_lt {language rest : Language Char} {length : Nat} {text : Text}
    (shorter : text.length < length) :
    text ∈ afterTurn language rest length ↔ text ∈ language∗ * rest :=
  iff_of_eq (if_pos shorter)

theorem mem_afterTurn_of_not_lt {language rest : Language Char} {length : Nat} {text : Text}
    (asLong : ¬ text.length < length) : text ∈ afterTurn language rest length ↔ text ∈ rest :=
  iff_of_eq (if_neg asLong)

/-- It is enough to take another turn after one that advances. -/
theorem mem_kstar_mul_iff_afterTurn {language rest : Language Char} {text : Text} :
    text ∈ language∗ * rest ↔
      text ∈ language * afterTurn language rest text.length ∨ text ∈ rest := by
  constructor
  · intro member
    rcases mem_kstar_mul_iff.mp member with
      ended | ⟨first, others, parts, listed, shorter, remaining⟩
    · exact .inr ended
    · exact .inl (Language.mem_mul.mpr
        ⟨first, listed, others, (mem_afterTurn_of_lt shorter).mpr remaining, parts⟩)
  · rintro (turned | ended)
    · obtain ⟨first, listed, others, member, parts⟩ := Language.mem_mul.mp turned
      have remaining : others ∈ language∗ * rest := by
        by_cases shorter : others.length < text.length
        · exact (mem_afterTurn_of_lt shorter).mp member
        · exact mem_kstar_mul_iff.mpr (.inl ((mem_afterTurn_of_not_lt shorter).mp member))
      rw [kstar_mul_eq, Language.mem_add]
      exact .inr (Language.mem_mul.mpr ⟨first, listed, others, remaining, parts⟩)
    · exact mem_kstar_mul_iff.mpr (.inl ended)

namespace Way

variable {way : Way} {language : Language Char}

theorem Reads.greedily (reads : way.Reads language) {search : Search} {rest : Language Char}
    (decides : search.Decides rest) {room : Nat} {place : Place} (counted : place.Counted)
    (enough : place.left ≤ room) :
    (way.greedily room none search place).isSome = true ↔ place.ahead ∈ language∗ * rest := by
  have ends := decides place counted
  have length : place.left = place.ahead.length := counted
  rw [mem_kstar_mul_iff_afterTurn, ← length]
  induction room generalizing place with
  | zero =>
      -- Nothing is left, so no turn advances.
      have continues : search.Decides (afterTurn language rest place.left) := by
        intro after there
        rw [mem_afterTurn_of_not_lt (by omega)]
        exact decides after there
      rw [Way.greedily, if_neg (Option.some_ne_none 0).symm, Option.isSome_or, Bool.or_eq_true,
        reads continues place counted, ends]
  | succ room ih =>
      have continues : Search.Decides (fun after =>
          if after.isBeyond place then way.greedily room none search after else search after)
          (afterTurn language rest place.left) := by
        intro after there
        have lengthAfter : after.left = after.ahead.length := there
        by_cases beyond : after.left < place.left
        · rw [mem_afterTurn_of_lt (by omega), mem_kstar_mul_iff_afterTurn, ← lengthAfter]
          simp only [Place.isBeyond, beyond, decide_true, if_true]
          exact ih there (by omega) (decides after there) lengthAfter
        · rw [mem_afterTurn_of_not_lt (by omega)]
          simp only [Place.isBeyond, beyond, decide_false]
          exact decides after there
      rw [Way.greedily, if_neg (Option.some_ne_none 0).symm, Option.isSome_or, Bool.or_eq_true,
        ends]
      exact or_congr_left (reads continues place counted)

theorem Reads.turns (reads : way.Reads language) (least : Nat) :
    (way.turns .greedy least none).Reads (language ^ least * language∗) := by
  intro search rest decides
  rw [mul_assoc]
  apply reads.times least
  intro place counted
  exact reads.greedily decides counted (Nat.le_refl _)

end Way

end ItemFilter.Pattern
