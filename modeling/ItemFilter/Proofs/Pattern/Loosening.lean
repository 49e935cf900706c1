/-
This file compares ways: one is looser than another if it leads on wherever the other does. Most
constructs keep this order of their parts. Those that take the first match for good or ask for what
is not there keep only equality.
-/

import ItemFilter.Proofs.Pattern.Branches

namespace ItemFilter.Pattern

/-- The second search succeeds wherever the first one does. -/
def Search.Le (first second : Search) : Prop :=
  ∀ place : Place, place.Counted → (first place).isSome = true → (second place).isSome = true

/-- The second way leads on wherever the first one does, whatever comes after them. -/
def Way.Le (first second : Way) : Prop :=
  ∀ ⦃rest search : Search⦄, rest.Le search → (first rest).Le (second search)

/-- What the way finds is found from a place it comes to. -/
def Way.Leads (way : Way) : Prop :=
  ∀ ⦃rest : Search⦄ ⦃place found : Place⦄, place.Counted → way rest place = some found →
    ∃ after : Place, after.Counted ∧ rest after = some found

section Searches

variable {first second third fourth : Search}

theorem Search.Le.refl (search : Search) : search.Le search :=
  fun _ _ found => found

theorem Search.Le.orElse (left : first.Le second) (right : third.Le fourth) :
    (first.orElse third).Le (second.orElse fourth) := by
  intro place counted found
  rw [Search.orElse, Option.isSome_or, Bool.or_eq_true] at found ⊢
  exact found.imp (left place counted) (right place counted)

/-- What is done after a turn, when it may be the last one. -/
theorem Search.Le.ifBeyond (onward : first.Le second) (rest : third.Le fourth) (place : Place) :
    Search.Le (fun after => if after.isBeyond place then first after else third after)
      fun after => if after.isBeyond place then second after else fourth after := by
  intro after counted found
  dsimp only at found ⊢
  split at found
  · next beyond =>
      rw [if_pos beyond]
      exact onward after counted found
  · next stays =>
      rw [if_neg stays]
      exact rest after counted found

end Searches

section Order

variable {way other : Way}

theorem Way.Le.times (le : way.Le other) (count : Nat) :
    (way.times count).Le (other.times count) := by
  intro rest search rests
  induction count with
  | zero => exact rests
  | succ count ih => exact le ih

theorem Way.Le.greedily (le : way.Le other) (room : Nat) (most : Option Nat) :
    (way.greedily room most).Le (other.greedily room most) := by
  intro rest search rests
  induction room generalizing most with
  | zero =>
      intro place counted found
      rw [Way.greedily] at found ⊢
      split at found
      · next none =>
          rw [if_pos none]
          exact rests place counted found
      · next some =>
          rw [if_neg some]
          exact (le rests).orElse rests place counted found
  | succ room ih =>
      intro place counted found
      rw [Way.greedily] at found ⊢
      split at found
      · next none =>
          rw [if_pos none]
          exact rests place counted found
      · next some =>
          rw [if_neg some]
          have turn := (ih (most.map (· - 1))).ifBeyond rests place
          exact (le turn).orElse rests place counted found

theorem Way.Le.reluctantly (le : way.Le other) (room : Nat) (most : Option Nat) :
    (way.reluctantly room most).Le (other.reluctantly room most) := by
  intro rest search rests
  induction room generalizing most with
  | zero =>
      intro place counted found
      rw [Way.reluctantly] at found ⊢
      split at found
      · next none =>
          rw [if_pos none]
          exact rests place counted found
      · next some =>
          rw [if_neg some]
          exact rests.orElse (le rests) place counted found
  | succ room ih =>
      intro place counted found
      rw [Way.reluctantly] at found ⊢
      split at found
      · next none =>
          rw [if_pos none]
          exact rests place counted found
      · next some =>
          rw [if_neg some]
          have turn := (ih (most.map (· - 1))).ifBeyond rests place
          exact rests.orElse (le turn) place counted found

/-- Turns that may be taken back are as loose as the way. -/
theorem Way.Le.turns (le : way.Le other) {greed : Greed} (yielding : greed ≠ .possessive)
    (least : Nat) (further : Option Nat) :
    (way.turns greed least further).Le (other.turns greed least further) := by
  intro rest search rests
  cases greed with
  | greedy =>
      apply le.times least
      intro after
      exact le.greedily after.left further rests after
  | reluctant =>
      apply le.times least
      intro after
      exact le.reluctantly after.left further rests after
  | possessive => exact absurd rfl yielding

theorem Way.Le.looking (le : way.Le other) :
    (way.looking false some).Le (other.looking false some) := by
  intro rest search rests place counted found
  rw [Way.looking] at found ⊢
  split at found
  · cases found
  · next seen =>
      have before : (way some place).isSome = true := Bool.not_eq_false _ ▸ seen
      have after : (other some place).isSome = true :=
        le (Search.Le.refl some) place counted before
      rw [if_neg (by simp [after])]
      exact rests place counted found

end Order

section Leading

variable {way : Way}

theorem Way.Leads.times (leads : way.Leads) (count : Nat) : (way.times count).Leads := by
  intro rest place found counted finds
  induction count generalizing place with
  | zero => exact ⟨place, counted, finds⟩
  | succ count ih =>
      obtain ⟨after, there, onward⟩ := leads counted finds
      exact ih there onward

/-- What is found after a turn is found from a place that comes after it. -/
theorem leads_ifBeyond {rest onward : Search} {place after found : Place} (there : after.Counted)
    (leads : onward after = some found →
      ∃ last : Place, last.Counted ∧ rest last = some found)
    (finds : (if after.isBeyond place then onward after else rest after) = some found) :
    ∃ last : Place, last.Counted ∧ rest last = some found := by
  split at finds
  · exact leads finds
  · exact ⟨after, there, finds⟩

theorem Way.Leads.greedily (leads : way.Leads) (room : Nat) (most : Option Nat) :
    (way.greedily room most).Leads := by
  intro rest place found counted finds
  induction room generalizing most place with
  | zero =>
      rw [Way.greedily] at finds
      split at finds
      · exact ⟨place, counted, finds⟩
      rcases Option.or_eq_some_iff.mp finds with finds | ⟨-, finds⟩
      · exact leads counted finds
      · exact ⟨place, counted, finds⟩
  | succ room ih =>
      rw [Way.greedily] at finds
      split at finds
      · exact ⟨place, counted, finds⟩
      rcases Option.or_eq_some_iff.mp finds with finds | ⟨-, finds⟩
      · obtain ⟨after, there, onward⟩ := leads counted finds
        exact leads_ifBeyond there (ih _ there) onward
      · exact ⟨place, counted, finds⟩

theorem Way.Leads.reluctantly (leads : way.Leads) (room : Nat) (most : Option Nat) :
    (way.reluctantly room most).Leads := by
  intro rest place found counted finds
  induction room generalizing most place with
  | zero =>
      rw [Way.reluctantly] at finds
      split at finds
      · exact ⟨place, counted, finds⟩
      rcases Option.or_eq_some_iff.mp finds with finds | ⟨-, finds⟩
      · exact ⟨place, counted, finds⟩
      · exact leads counted finds
  | succ room ih =>
      rw [Way.reluctantly] at finds
      split at finds
      · exact ⟨place, counted, finds⟩
      rcases Option.or_eq_some_iff.mp finds with finds | ⟨-, finds⟩
      · exact ⟨place, counted, finds⟩
      · obtain ⟨after, there, onward⟩ := leads counted finds
        exact leads_ifBeyond there (ih _ there) onward

/-- The place that the way comes to first. -/
theorem Way.Leads.counted (leads : way.Leads) {place after : Place} (counted : place.Counted)
    (comes : way some place = some after) : after.Counted := by
  obtain ⟨same, there, found⟩ := leads counted comes
  exact Option.some.inj found ▸ there

theorem Way.Leads.committed (leads : way.Leads) : way.committed.Leads := by
  intro rest place found counted finds
  obtain ⟨after, comes, onward⟩ := Option.bind_eq_some_iff.mp finds
  exact ⟨after, leads.counted counted comes, onward⟩

theorem Way.Leads.possessively (leads : way.Leads) (room : Nat) (most : Option Nat) :
    (way.possessively room most).Leads := by
  intro rest place found counted finds
  induction room generalizing most place with
  | zero =>
      rw [Way.possessively] at finds
      split at finds
      · exact ⟨place, counted, finds⟩
      · cases comes : way some place with
        | none =>
            rw [comes] at finds
            exact ⟨place, counted, finds⟩
        | some after =>
            rw [comes] at finds
            exact ⟨after, leads.counted counted comes, finds⟩
  | succ room ih =>
      rw [Way.possessively] at finds
      split at finds
      · exact ⟨place, counted, finds⟩
      · cases comes : way some place with
        | none =>
            rw [comes] at finds
            exact ⟨place, counted, finds⟩
        | some after =>
            have there := leads.counted counted comes
            rw [comes] at finds
            exact leads_ifBeyond there (ih _ there) finds

theorem Way.Leads.turns (leads : way.Leads) (greed : Greed) (least : Nat) (further : Option Nat) :
    (way.turns greed least further).Leads := by
  intro rest place found counted finds
  cases greed with
  | greedy =>
      obtain ⟨after, there, onward⟩ := leads.times least counted finds
      exact leads.greedily after.left further there onward
  | reluctant =>
      obtain ⟨after, there, onward⟩ := leads.times least counted finds
      exact leads.reluctantly after.left further there onward
  | possessive =>
      obtain ⟨after, there, onward⟩ := leads.committed.times least counted finds
      exact leads.possessively after.left further there onward

theorem Way.leads_looking (way : Way) (negated : Bool) (from? : Place → Option Place) :
    (way.looking negated from?).Leads := by
  intro rest place found counted finds
  rw [Way.looking] at finds
  split at finds
  · cases finds
  · exact ⟨place, counted, finds⟩

theorem Node.search_leads (node : Node) : node.search.Leads := by
  induction node with
  | empty => exact fun rest place found counted finds => ⟨place, counted, finds⟩
  | atom modes leaf =>
      intro rest place found counted finds
      obtain ⟨next, steps, onward⟩ := Option.bind_eq_some_iff.mp finds
      exact ⟨next, (counted.step? steps).1, onward⟩
  | anchor modes kind =>
      intro rest place found counted finds
      rw [Node.search] at finds
      dsimp only at finds
      split at finds
      · exact ⟨place, counted, finds⟩
      · cases finds
  | reference modes group =>
      intro rest place found counted finds
      cases finds
  | sequence first second left right =>
      intro rest place found counted finds
      obtain ⟨after, there, onward⟩ := left counted finds
      exact right there onward
  | choice first second left right =>
      intro rest place found counted finds
      rcases Option.or_eq_some_iff.mp finds with finds | ⟨-, finds⟩
      · exact left counted finds
      · exact right counted finds
  | enclosed body ih => exact ih
  | capture group body ih => exact ih
  | look direction negated body ih =>
      cases direction with
      | ahead => exact Way.leads_looking body.search negated some
      | behind width => exact Way.leads_looking body.search negated (·.back? width)
  | atomic body ih => exact ih.committed
  | conditional group present absent left right =>
      intro rest place found counted finds
      cases finds
  | repeated greed least most body ih => exact ih.turns greed least (most.map (· - least))

end Leading

section Monotone

variable {way : Way}

theorem Way.Leads.committed_le (leads : way.Leads) : way.committed.Le way.committed := by
  intro rest search rests place counted found
  rw [Way.committed] at found ⊢
  cases comes : way some place with
  | none =>
      rw [comes] at found
      cases found
  | some after =>
      rw [comes] at found
      exact rests after (leads.counted counted comes) found

theorem Way.Leads.possessively_le (leads : way.Leads) (room : Nat) (most : Option Nat) :
    (way.possessively room most).Le (way.possessively room most) := by
  intro rest search rests
  induction room generalizing most with
  | zero =>
      intro place counted found
      rw [Way.possessively] at found ⊢
      split at found
      · next none =>
          rw [if_pos none]
          exact rests place counted found
      · next some =>
          rw [if_neg some]
          cases comes : way .some place with
          | none =>
              rw [comes] at found
              exact rests place counted found
          | some after =>
              rw [comes] at found
              exact rests after (leads.counted counted comes) found
  | succ room ih =>
      intro place counted found
      rw [Way.possessively] at found ⊢
      split at found
      · next none =>
          rw [if_pos none]
          exact rests place counted found
      · next some =>
          rw [if_neg some]
          cases comes : way .some place with
          | none =>
              rw [comes] at found
              exact rests place counted found
          | some after =>
              rw [comes] at found
              have there := leads.counted counted comes
              exact (ih (most.map (· - 1))).ifBeyond rests place after there found

theorem Way.Le.turns_self (le : way.Le way) (leads : way.Leads) (greed : Greed) (least : Nat)
    (further : Option Nat) :
    (way.turns greed least further).Le (way.turns greed least further) := by
  by_cases yielding : greed = .possessive
  · subst yielding
    intro rest search rests
    apply leads.committed_le.times least
    intro after
    exact leads.possessively_le after.left further rests after
  · exact le.turns yielding least further

theorem Way.looking_le (way : Way) (negated : Bool) (from? : Place → Option Place) :
    (way.looking negated from?).Le (way.looking negated from?) := by
  intro rest search rests place counted found
  rw [Way.looking] at found ⊢
  split at found
  · cases found
  · next seen =>
      rw [if_neg seen]
      exact rests place counted found

/-- A tree leads on wherever more of what comes after it does. -/
theorem Node.search_le (node : Node) : node.search.Le node.search := by
  induction node with
  | empty => exact fun rest search rests => rests
  | atom modes leaf =>
      intro rest search rests place counted found
      obtain ⟨last, finds⟩ := Option.isSome_iff_exists.mp found
      obtain ⟨next, steps, onward⟩ := Option.bind_eq_some_iff.mp finds
      rw [Node.search]
      dsimp only
      rw [steps]
      exact rests next (counted.step? steps).1 (Option.isSome_iff_exists.mpr ⟨last, onward⟩)
  | anchor modes kind =>
      intro rest search rests place counted found
      rw [Node.search] at found ⊢
      dsimp only at found ⊢
      split at found
      · next holds =>
          rw [if_pos holds]
          exact rests place counted found
      · cases found
  | reference modes group =>
      intro rest search rests place counted found
      cases found
  | sequence first second left right => exact fun rest search rests => left (right rests)
  | choice first second left right =>
      exact fun rest search rests => (left rests).orElse (right rests)
  | enclosed body ih => exact ih
  | capture group body ih => exact ih
  | look direction negated body ih =>
      cases direction with
      | ahead => exact Way.looking_le body.search negated some
      | behind width => exact Way.looking_le body.search negated (·.back? width)
  | atomic body ih => exact body.search_leads.committed_le
  | conditional group present absent left right =>
      intro rest search rests place counted found
      cases found
  | repeated greed least most body ih =>
      exact ih.turns_self body.search_leads greed least (most.map (· - least))

theorem searchAll_le (nodes : List Node) : (searchAll nodes).Le (searchAll nodes) := by
  induction nodes with
  | nil => exact fun rest search rests => rests
  | cons node others ih => exact fun rest search rests => node.search_le (ih rests)

theorem searchAll_append_le {left right newLeft newRight : List Node}
    (first : (searchAll left).Le (searchAll newLeft))
    (second : (searchAll right).Le (searchAll newRight)) :
    (searchAll (left ++ right)).Le (searchAll (newLeft ++ newRight)) := by
  intro rest search rests
  rw [searchAll_append, searchAll_append]
  exact first (second rests)

theorem searchBranches_le {branches others : List (List Node)}
    (le : List.Forall₂ (fun old new => (searchAll old).Le (searchAll new)) branches others) :
    (searchBranches branches).Le (searchBranches others) := by
  induction le with
  | nil => exact fun rest search rests => rests
  | @cons old new olds news here later ih =>
      cases later with
      | nil => exact here
      | cons next more => exact fun rest search rests => (here rests).orElse (ih rests)

end Monotone

section Runs

/-- The last place is reached over characters with the property, perhaps over none. -/
inductive Place.Runs (accepts : Char → Bool) : Place → Place → Prop
  | refl (place : Place) : Runs accepts place place
  | step {place next last : Place} (steps : place.step? accepts = some next)
      (runs : Runs accepts next last) : Runs accepts place last

variable {accepts : Char → Bool} {rest : Search} {place next last : Place}

theorem Place.Runs.trans {middle : Place} (runs : place.Runs accepts middle)
    (more : middle.Runs accepts last) : place.Runs accepts last := by
  induction runs with
  | refl place => exact more
  | step steps runs ih => exact .step steps (ih more)

theorem Place.Runs.counted (runs : place.Runs accepts last) (counted : place.Counted) :
    last.Counted := by
  induction runs with
  | refl place => exact counted
  | step steps runs ih => exact ih (counted.step? steps).1

/-- The way over one character is a turn that advances. -/
theorem isBeyond_of_step? (counted : place.Counted) (steps : place.step? accepts = some next) :
    next.isBeyond place = true := by
  have fewer := (counted.step? steps).2
  exact decide_eq_true (by omega)

/-- A run ends at once or goes on after one character. -/
theorem exists_runs_iff {holds : Place → Prop} :
    (∃ last, place.Runs accepts last ∧ holds last) ↔
      holds place ∨ ∃ next, place.step? accepts = some next ∧
        ∃ last, next.Runs accepts last ∧ holds last := by
  constructor
  · rintro ⟨last, runs, ends⟩
    cases runs with
    | refl => exact .inl ends
    | step steps runs => exact .inr ⟨_, steps, last, runs, ends⟩
  · rintro (ends | ⟨next, steps, last, runs, ends⟩)
    · exact ⟨place, .refl place, ends⟩
    · exact ⟨last, .step steps runs, ends⟩

/-- A further turn over one character, after which all is done that is done after turns. -/
theorem isSome_single_ifBeyond {onward : Search} (counted : place.Counted) :
    (Way.single accepts
        (fun after => if after.isBeyond place then onward after else rest after)
        place).isSome = true ↔
      ∃ next, place.step? accepts = some next ∧ (onward next).isSome = true := by
  rw [Way.single]
  cases steps : place.step? accepts with
  | none => simp
  | some next => simp [isBeyond_of_step? counted steps]

theorem isSome_greedily_single {room : Nat} (counted : place.Counted) (enough : place.left ≤ room) :
    ((Way.single accepts).greedily room none rest place).isSome = true ↔
      ∃ last, place.Runs accepts last ∧ (rest last).isSome = true := by
  induction room generalizing place with
  | zero =>
      have stuck : place.step? accepts = none := counted.step?_eq_none (Nat.le_zero.mp enough)
      rw [exists_runs_iff, stuck, Way.greedily, if_neg (Option.some_ne_none 0).symm, Way.single,
        stuck]
      simp
  | succ room ih =>
      rw [exists_runs_iff, Way.greedily, if_neg (Option.some_ne_none 0).symm, Option.isSome_or,
        Bool.or_eq_true, isSome_single_ifBeyond counted, or_comm]
      apply or_congr_right
      apply exists_congr
      intro next
      apply and_congr_right
      intro steps
      obtain ⟨there, fewer⟩ := counted.step? steps
      exact ih there (by omega)

theorem isSome_reluctantly_single {room : Nat} (counted : place.Counted)
    (enough : place.left ≤ room) :
    ((Way.single accepts).reluctantly room none rest place).isSome = true ↔
      ∃ last, place.Runs accepts last ∧ (rest last).isSome = true := by
  induction room generalizing place with
  | zero =>
      have stuck : place.step? accepts = none := counted.step?_eq_none (Nat.le_zero.mp enough)
      rw [exists_runs_iff, stuck, Way.reluctantly, if_neg (Option.some_ne_none 0).symm, Way.single,
        stuck]
      simp
  | succ room ih =>
      rw [exists_runs_iff, Way.reluctantly, if_neg (Option.some_ne_none 0).symm, Option.isSome_or,
        Bool.or_eq_true, isSome_single_ifBeyond counted]
      apply or_congr_right
      apply exists_congr
      intro next
      apply and_congr_right
      intro steps
      obtain ⟨there, fewer⟩ := counted.step? steps
      exact ih there (by omega)

/-- Where no turn is taken back, a run ends where it cannot go on. -/
theorem possessively_single (rest : Search) {room : Nat} (counted : place.Counted)
    (enough : place.left ≤ room) :
    ∃ last, place.Runs accepts last ∧ last.step? accepts = none ∧
      (Way.single accepts).possessively room none rest place = rest last := by
  induction room generalizing place with
  | zero =>
      have stuck : place.step? accepts = none := counted.step?_eq_none (Nat.le_zero.mp enough)
      refine ⟨place, .refl place, stuck, ?_⟩
      rw [Way.possessively, if_neg (Option.some_ne_none 0).symm, Way.single, stuck]
      rfl
  | succ room ih =>
      rw [Way.possessively, if_neg (Option.some_ne_none 0).symm, Way.single]
      cases steps : place.step? accepts with
      | none => exact ⟨place, .refl place, steps, rfl⟩
      | some next =>
          obtain ⟨there, fewer⟩ := counted.step? steps
          obtain ⟨last, runs, stuck, same⟩ := ih there (by omega)
          refine ⟨last, .step steps runs, stuck, ?_⟩
          rw [← same]
          exact if_pos (isBeyond_of_step? counted steps)

/-- A run that cannot go on ends at one place. -/
theorem Place.Runs.eq_of_stuck {other : Place} (runs : place.Runs accepts last)
    (stuck : last.step? accepts = none) (also : place.Runs accepts other)
    (otherStuck : other.step? accepts = none) : other = last := by
  induction runs with
  | refl place =>
      cases also with
      | refl => rfl
      | step steps => exact nomatch stuck.symm.trans steps
  | step steps runs ih =>
      cases also with
      | refl => exact nomatch otherStuck.symm.trans steps
      | step otherSteps otherRuns =>
          obtain rfl := Option.some.inj (steps.symm.trans otherSteps)
          exact ih stuck otherRuns

/-- One or more characters with the property, all of them if no turn is taken back. -/
structure Place.Spans (accepts : Char → Bool) (greed : Greed) (place last : Place) : Prop where
  runs : ∃ next, place.step? accepts = some next ∧ next.Runs accepts last
  ends : greed = .possessive → last.step? accepts = none

theorem isSome_turns_single (greed : Greed) (counted : place.Counted) :
    ((Way.single accepts).turns greed 1 none rest place).isSome = true ↔
      ∃ last, place.Spans accepts greed last ∧ (rest last).isSome = true := by
  cases steps : place.step? accepts with
  | none =>
      have nowhere : (Way.single accepts).turns greed 1 none rest place = none := by
        cases greed <;> simp [Way.turns, Way.times, Way.committed, Way.single, steps]
      rw [nowhere]
      refine iff_of_false Bool.false_ne_true ?_
      rintro ⟨last, ⟨⟨next, found, -⟩, -⟩, -⟩
      rw [steps] at found
      cases found
  | some next =>
      have there := (counted.step? steps).1
      have spans : ∀ last, place.Spans accepts greed last ↔
          next.Runs accepts last ∧ (greed = .possessive → last.step? accepts = none) := by
        intro last
        constructor
        · rintro ⟨⟨other, found, runs⟩, ends⟩
          obtain rfl := Option.some.inj (steps.symm.trans found)
          exact ⟨runs, ends⟩
        · rintro ⟨runs, ends⟩
          exact ⟨⟨next, steps, runs⟩, ends⟩
      simp only [spans]
      cases greed with
      | greedy =>
          have same : (Way.single accepts).turns .greedy 1 none rest place =
              (Way.single accepts).greedily next.left none rest next := by
            simp [Way.turns, Way.times, Way.single, steps]
          rw [same, isSome_greedily_single there (Nat.le_refl _)]
          simp
      | reluctant =>
          have same : (Way.single accepts).turns .reluctant 1 none rest place =
              (Way.single accepts).reluctantly next.left none rest next := by
            simp [Way.turns, Way.times, Way.single, steps]
          rw [same, isSome_reluctantly_single there (Nat.le_refl _)]
          simp
      | possessive =>
          have same : (Way.single accepts).turns .possessive 1 none rest place =
              (Way.single accepts).possessively next.left none rest next := by
            simp [Way.turns, Way.times, Way.committed, Way.single, steps]
          obtain ⟨last, runs, stuck, found⟩ := possessively_single rest there (Nat.le_refl _)
          rw [same, found]
          constructor
          · intro ends
            exact ⟨last, ⟨runs, fun _ => stuck⟩, ends⟩
          · rintro ⟨other, ⟨otherRuns, otherEnds⟩, ends⟩
            rwa [runs.eq_of_stuck stuck otherRuns (otherEnds rfl)] at ends

end Runs

section Gaps

/-- The tree of `\s+`, with the mark that may follow it. -/
def Node.gap (modes : Modes) (greed : Greed) : Node :=
  .repeated greed 1 none (.atom modes (.oneOf [.category .blank false] false))

/-- The tree of a blank that is written out. -/
def Node.blank (modes : Modes) (code : Nat) : Node :=
  .atom modes (.literal code false)

/-- A tree that stands in a run of blanks. -/
def Node.InRun (modes : Modes) (node : Node) : Prop :=
  node = .blank modes ' '.toNat ∨ node = .blank modes '\t'.toNat ∨ node = .gap modes .greedy

/-- The character is a blank under the modes. -/
def Modes.isBlank (modes : Modes) (character : Char) : Bool :=
  Atom.accepts modes character (.oneOf [.category .blank false] false)

variable {modes : Modes} {rest : Search} {place : Place}

theorem isSome_search_gap (greed : Greed) (counted : place.Counted) :
    ((Node.gap modes greed).search rest place).isSome = true ↔
      ∃ last, place.Spans modes.isBlank greed last ∧ (rest last).isSome = true :=
  isSome_turns_single greed counted

theorem step?_of_imp {accepts other : Char → Bool} {next : Place}
    (imp : ∀ character, accepts character = true → other character = true)
    (steps : place.step? accepts = some next) : place.step? other = some next := by
  rw [Place.step?] at steps ⊢
  split at steps
  · cases steps
  · next character others ahead =>
      split at steps
      · next accepted => rw [if_pos (imp character accepted), steps]
      · cases steps

theorem Way.single_le {accepts other : Char → Bool}
    (imp : ∀ character, accepts character = true → other character = true) :
    (Way.single accepts).Le (Way.single other) := by
  intro rest search rests place counted found
  obtain ⟨last, finds⟩ := Option.isSome_iff_exists.mp found
  obtain ⟨next, steps, onward⟩ := Option.bind_eq_some_iff.mp finds
  rw [Way.single, step?_of_imp imp steps]
  exact rests next (counted.step? steps).1 (Option.isSome_iff_exists.mpr ⟨last, onward⟩)

/-- One blank is fewer than some. -/
theorem search_blank_le {blank : Char} (uncased : modes.isCased blank.toNat = false)
    (isBlank : modes.isBlank blank = true) :
    (Node.blank modes blank.toNat).search.Le (Node.gap modes .greedy).search := by
  intro rest search rests place counted found
  obtain ⟨last, finds⟩ := Option.isSome_iff_exists.mp found
  obtain ⟨next, steps, onward⟩ := Option.bind_eq_some_iff.mp finds
  have wider : place.step? modes.isBlank = some next := by
    apply step?_of_imp _ steps
    intro character accepted
    have same : character = blank := by
      simpa [Atom.accepts, Modes.equates, uncased, Char.toNat_inj] using accepted
    rwa [same]
  rw [isSome_search_gap .greedy counted]
  refine ⟨next, ⟨⟨next, wider, .refl next⟩, by simp⟩, ?_⟩
  exact rests next (counted.step? steps).1 (Option.isSome_iff_exists.mpr ⟨last, onward⟩)

theorem Modes.isBlank_eq (modes : Modes) (character : Char) :
    modes.isBlank character = Category.contains modes.ascii character .blank := by
  simp [Modes.isBlank, Atom.accepts, Member.isCased, Member.contains]

/-- A space and a tabulator are blanks without case, whatever the modes are. -/
theorem Modes.isBlank_written (modes : Modes) {blank : Char}
    (written : blank = ' ' ∨ blank = '\t') :
    modes.isCased blank.toNat = false ∧ modes.isBlank blank = true := by
  rw [Modes.isBlank_eq, Modes.isCased]
  rcases written with rfl | rfl <;> cases modes.ascii <;> decide

/-- The member is among the others. For a blank that is written out `\s` is enough. -/
def Member.isKept (others : List Member) (member : Member) : Bool :=
  others.contains member ||
    ((member == .single ' '.toNat || member == .single '\t'.toNat) &&
      others.contains (.category .blank false))

/-- What a blank that is written out holds, `\s` holds as well. -/
theorem Member.holds_blank {character : Char} {code : Nat}
    (written : code = ' '.toNat ∨ code = '\t'.toNat)
    (holds : Member.holds modes character (.single code) = true) :
    Member.holds modes character (.category .blank false) = true := by
  cases ignores : modes.ignoreCase with
  | false =>
      simp only [Member.holds, ignores, Bool.false_eq_true, if_false, Member.contains] at holds ⊢
      have blank : character = ' ' ∨ character = '\t' := by
        rcases written with rfl | rfl
        · exact .inl (Char.toNat_inj.mp (beq_iff_eq.mp holds))
        · exact .inr (Char.toNat_inj.mp (beq_iff_eq.mp holds))
      rw [← modes.isBlank_eq, (modes.isBlank_written blank).2]
      rfl
  | true =>
      -- A blank has no other case forms, so only its own code point is left.
      have alone : modes.lower code = code ∧ modes.siblings code = [] ∧ code < astral := by
        rcases written with rfl | rfl <;> rw [Modes.lower, Modes.siblings] <;>
          cases modes.ascii <;> decide
      simp only [Member.holds, ignores, if_true, Member.containsFolded, alone, List.contains_nil,
        Bool.or_false, beq_iff_eq] at holds ⊢
      rw [holds]
      rcases written with rfl | rfl <;> cases modes.ascii <;> decide

theorem Way.ofMembers_le {members others : List Member}
    (kept : members.all (Member.isKept others) = true) (modes : Modes) :
    (Way.ofMembers modes members).Le (Way.ofMembers modes others) := by
  apply Way.single_le
  intro character accepted
  rw [List.any_eq_true] at accepted ⊢
  obtain ⟨member, listed, holds⟩ := accepted
  have stays := List.all_eq_true.mp kept member listed
  rw [Member.isKept, Bool.or_eq_true, Bool.and_eq_true, Bool.or_eq_true, List.contains_iff_mem,
    List.contains_iff_mem, beq_iff_eq, beq_iff_eq] at stays
  rcases stays with same | ⟨rfl | rfl, blanks⟩
  · exact ⟨member, same, holds⟩
  · exact ⟨_, blanks, Member.holds_blank (.inl rfl) holds⟩
  · exact ⟨_, blanks, Member.holds_blank (.inr rfl) holds⟩

theorem Node.InRun.search_le {node : Node} (inRun : node.InRun modes) :
    node.search.Le (Node.gap modes .greedy).search := by
  rcases inRun with rfl | rfl | rfl
  · obtain ⟨uncased, isBlank⟩ := modes.isBlank_written (.inl rfl)
    exact search_blank_le uncased isBlank
  · obtain ⟨uncased, isBlank⟩ := modes.isBlank_written (.inr rfl)
    exact search_blank_le uncased isBlank
  · exact Node.search_le _

/-- Some blanks and then some blanks are some blanks. -/
theorem searchAll_gap_gap_le (modes : Modes) (greed : Greed) :
    (searchAll [.gap modes .greedy, .gap modes greed]).Le (searchAll [.gap modes greed]) := by
  intro rest search rests place counted found
  obtain ⟨middle, ⟨⟨next, steps, runs⟩, -⟩, onward⟩ := (isSome_search_gap .greedy counted).mp found
  have there := (counted.step? steps).1
  obtain ⟨last, ⟨⟨further, more, others⟩, ends⟩, finds⟩ :=
    (isSome_search_gap greed (runs.counted there)).mp onward
  have whole : next.Runs modes.isBlank last := runs.trans (.step more others)
  apply (isSome_search_gap greed counted).mpr
  exact ⟨last, ⟨⟨next, steps, whole⟩, ends⟩, rests last (whole.counted there) finds⟩

/-- A run of blanks is looser as one. -/
theorem searchAll_run_le {run : List Node} (inRun : ∀ node ∈ run, node.InRun modes)
    (greed : Greed) :
    (searchAll (run ++ [.gap modes greed])).Le (searchAll [.gap modes greed]) := by
  induction run with
  | nil => exact searchAll_le _
  | cons node others ih =>
      obtain ⟨own, later⟩ := List.forall_mem_cons.mp inRun
      intro rest search rests
      have apart : (searchAll (node :: others ++ [.gap modes greed]) rest).Le
          (searchAll [.gap modes .greedy, .gap modes greed] rest) :=
        own.search_le (ih later (Search.Le.refl rest))
      have joined := searchAll_gap_gap_le modes greed rests
      exact fun place counted found => joined place counted (apart place counted found)

end Gaps

end ItemFilter.Pattern
