/-
This file matches trees without keeping marks of groups. A tree that refers to no group finds the
same place whether marks are kept or not.
-/

import ItemFilter.Pattern.Matching

namespace ItemFilter.Pattern

namespace Place

/-- The place without what only groups depend on. -/
def bare (place : Place) : Place :=
  { place with marks := [], inTurn := false }

/-- The number of characters that are left is right. -/
def Counted (place : Place) : Prop :=
  place.left = place.ahead.length

theorem step?_bare (place : Place) (accepts : Char → Bool) :
    place.bare.step? accepts = (place.step? accepts).map bare := by
  rw [step?, step?]
  cases ahead : place.ahead with
  | nil => simp [bare, ahead]
  | cons character rest =>
      by_cases accepted : accepts character = true <;> simp [bare, ahead, accepted]

theorem Counted.step? {place next : Place} {accepts : Char → Bool} (counted : place.Counted)
    (stepped : place.step? accepts = some next) :
    next.Counted ∧ next.left + 1 = place.left := by
  rw [Counted] at counted
  rw [Place.step?] at stepped
  split at stepped
  · cases stepped
  · next character rest ahead =>
      split at stepped
      · obtain rfl := Option.some.inj stepped
        rw [ahead, List.length_cons] at counted
        constructor
        · exact Nat.sub_eq_of_eq_add counted
        · show place.left - 1 + 1 = place.left
          omega
      · cases stepped

theorem back?_bare (place : Place) (width : Nat) :
    place.bare.back? width = (place.back? width).map bare := by
  rw [back?, back?]
  by_cases enough : (place.behind.take width).length = width
  · rw [if_pos enough]
    exact if_pos enough
  · rw [if_neg enough]
    exact if_neg enough

theorem Counted.back? {place earlier : Place} {width : Nat} (counted : place.Counted)
    (backed : place.back? width = some earlier) : earlier.Counted := by
  rw [Place.back?] at backed
  split at backed
  · next enough =>
      obtain rfl := Option.some.inj backed
      show width + place.left = _
      rw [List.length_append, List.length_reverse, enough, counted]
  · cases backed

theorem holds_bare (kind : Anchor) (modes : Modes) (place : Place) :
    kind.holds modes place.bare = kind.holds modes place := by
  cases kind <;> rfl

end Place

/-- What remains to be matched, when no marks are kept. -/
abbrev Search := Place → Option Place

/-- A part of a pattern that keeps no marks. -/
abbrev Way := Search → Search

namespace Way

/-- The way exactly `count` times. -/
def times (way : Way) : Nat → Way
  | 0, rest => rest
  | count + 1, rest => way (times way count rest)

/-- The way as often as possible. -/
def greedily (way : Way) : Nat → Option Nat → Way
  | 0, most, rest, place =>
      if most = some 0 then rest place else (way rest place).or (rest place)
  | room + 1, most, rest, place =>
      if most = some 0 then rest place
      else
        (way (fun after =>
          if after.isBeyond place then greedily way room (most.map (· - 1)) rest after
          else rest after) place).or (rest place)

/-- The way as seldom as possible. -/
def reluctantly (way : Way) : Nat → Option Nat → Way
  | 0, most, rest, place =>
      if most = some 0 then rest place else (rest place).or (way rest place)
  | room + 1, most, rest, place =>
      if most = some 0 then rest place
      else
        (rest place).or (way (fun after =>
          if after.isBeyond place then reluctantly way room (most.map (· - 1)) rest after
          else rest after) place)

/-- The first place that the way leads to. -/
def committed (way : Way) : Way := fun rest place =>
  (way some place).bind rest

/-- The way as often as possible, where no turn is taken back. -/
def possessively (way : Way) : Nat → Option Nat → Way
  | 0, most, rest, place =>
      if most = some 0 then rest place else rest ((way some place).getD place)
  | room + 1, most, rest, place =>
      if most = some 0 then rest place
      else
        match way some place with
        | none => rest place
        | some after =>
            if after.isBeyond place then possessively way room (most.map (· - 1)) rest after
            else rest after

/-- Turns of the way, `least` of them at first. -/
def turns (way : Way) (greed : Greed) (least : Nat) (further : Option Nat) : Way := fun rest =>
  match greed with
  | .greedy => way.times least fun after => way.greedily after.left further rest after
  | .reluctant => way.times least fun after => way.reluctantly after.left further rest after
  | .possessive =>
      way.committed.times least fun after => way.possessively after.left further rest after

/-- A look at another place, which is there to be seen or, negated, is not. -/
def looking (way : Way) (negated : Bool) (from? : Place → Option Place) : Way := fun rest place =>
  if ((from? place).bind (way some)).isSome = negated then none else rest place

end Way

/-- The way a tree matches when no marks are kept. References are never met. -/
def Node.search : Node → Way
  | .empty, rest => rest
  | .atom modes leaf, rest => fun place =>
      (place.step? fun character => leaf.accepts modes character).bind rest
  | .anchor modes kind, rest => fun place => if kind.holds modes place then rest place else none
  | .reference _ _, _ => fun _ => none
  | .sequence first second, rest => first.search (second.search rest)
  | .choice first second, rest => fun place =>
      (first.search rest place).or (second.search rest place)
  | .enclosed body, rest => body.search rest
  | .capture _ body, rest => body.search rest
  | .look .ahead negated body, rest => Way.looking body.search negated some rest
  | .look (.behind width) negated body, rest =>
      Way.looking body.search negated (·.back? width) rest
  | .atomic body, rest => Way.committed body.search rest
  | .conditional _ _ _, _ => fun _ => none
  | .repeated greed least most body, rest =>
      Way.turns body.search greed least (most.map (· - least)) rest

/-- No part of the tree depends on what a group matched. -/
def Node.Unreferenced : Node → Prop
  | .empty | .atom _ _ | .anchor _ _ => True
  | .reference _ _ | .conditional _ _ _ => False
  | .sequence first second | .choice first second => first.Unreferenced ∧ second.Unreferenced
  | .enclosed body | .capture _ body | .look _ _ body | .atomic body | .repeated _ _ _ body =>
      body.Unreferenced

/-- The outcome, without marks. -/
inductive Outcome.Shows : Outcome → Option Place → Prop
  | found {place : Place} (counted : place.Counted) : Shows (.found place) (some place.bare)
  | failed (marks : Marks) : Shows (.failed marks) none

/-- The rest finds what the search finds. -/
def Rest.Follows (rest : Rest) (search : Search) : Prop :=
  ∀ place : Place, place.Counted → (rest place).Shows (search place.bare)

/-- The part finds what the way leads to, whatever comes after them. -/
def Part.Follows (part : Part) (way : Way) : Prop :=
  ∀ ⦃rest : Rest⦄ ⦃search : Search⦄, rest.Follows search → Rest.Follows (part rest) (way search)

section Outcomes

variable {outcome : Outcome} {next : Marks → Outcome} {shown second : Option Place}

theorem Outcome.Shows.orElse (shows : outcome.Shows shown)
    (onward : ∀ marks, (next marks).Shows second) :
    (outcome.orElse next).Shows (shown.or second) := by
  cases shows with
  | found counted => exact .found counted
  | failed marks => exact onward marks

theorem Rest.follows_found : Rest.Follows .found some :=
  fun _ counted => .found counted

variable {rest other : Rest} {search otherSearch : Search}

theorem Rest.Follows.attempt (follows : rest.Follows search) :
    Rest.Follows rest.attempt search := by
  intro place counted
  have shows := (follows place counted).orElse
    fun marks => Outcome.Shows.failed (place.recover marks).marks
  rwa [Option.or_none] at shows

theorem Rest.Follows.either (follows : rest.Follows search)
    (otherFollows : other.Follows otherSearch) :
    Rest.Follows (rest.either other) fun place => (search place).or (otherSearch place) := by
  intro place counted
  exact (follows place counted).orElse
    fun marks => otherFollows.attempt (place.recover marks) counted

theorem Rest.Follows.after (follows : rest.Follows search) (accepts : Char → Bool) :
    Rest.Follows (rest.after (·.step? accepts)) fun place => (place.step? accepts).bind search := by
  intro place counted
  dsimp only
  rw [Rest.after, Place.step?_bare]
  cases stepped : place.step? accepts with
  | none => exact .failed place.marks
  | some next => exact follows next (counted.step? stepped).1

/-- Within a turn only the marks are kept in another way. -/
theorem Rest.Follows.leave (follows : rest.Follows search) (inTurn : Bool) :
    Rest.Follows (fun after => rest { after with inTurn := inTurn }) search :=
  fun place counted => follows { place with inTurn := inTurn } counted

end Outcomes

section Parts

variable {part : Part} {way : Way} {rest : Rest} {search : Search}

theorem Part.Follows.times (follows : part.Follows way) (count : Nat) :
    Part.Follows (part.times count) (way.times count) := by
  intro rest search rests
  induction count with
  | zero => exact rests
  | succ count ih => exact follows ih

/-- What is done after a turn, when it may be the last one. -/
theorem Rest.Follows.ifBeyond {onward : Rest} {onwardSearch : Search}
    (follows : onward.Follows onwardSearch) (rests : rest.Follows search) (place : Place) :
    Rest.Follows (fun after => if after.isBeyond place then onward after else rest after)
      fun after => if after.isBeyond place.bare then onwardSearch after else search after := by
  intro after counted
  have same : after.bare.isBeyond place.bare = after.isBeyond place := rfl
  dsimp only
  rw [same]
  split
  · exact follows after counted
  · exact rests after counted

theorem Part.Follows.greedily (follows : part.Follows way) (room : Nat) (most : Option Nat) :
    Part.Follows (part.greedily room most) (way.greedily room most) := by
  intro rest search rests
  induction room generalizing most with
  | zero =>
      intro place counted
      rw [Way.greedily]
      by_cases none : most = some 0
      · rw [none, if_pos rfl, Part.greedily]
        exact rests place counted
      · rw [if_neg none, Part.greedily]
        · exact (follows rests place counted).orElse fun _ => rests place counted
        · exact none
  | succ room ih =>
      intro place counted
      rw [Way.greedily]
      by_cases none : most = some 0
      · rw [none, if_pos rfl, Part.greedily]
        exact rests place counted
      · rw [if_neg none, Part.greedily]
        · have turn := (ih (most.map (· - 1))).ifBeyond rests place
          exact (follows turn place counted).orElse fun _ => rests place counted
        · exact none

theorem Part.Follows.reluctantly (follows : part.Follows way) (room : Nat) (most : Option Nat) :
    Part.Follows (part.reluctantly room most) (way.reluctantly room most) := by
  intro rest search rests
  induction room generalizing most with
  | zero =>
      intro place counted
      rw [Way.reluctantly]
      by_cases none : most = some 0
      · rw [none, if_pos rfl, Part.reluctantly]
        exact rests place counted
      · rw [if_neg none, Part.reluctantly]
        · exact (rests place counted).orElse fun marks =>
            follows rests { place with marks := marks } counted
        · exact none
  | succ room ih =>
      intro place counted
      rw [Way.reluctantly]
      by_cases none : most = some 0
      · rw [none, if_pos rfl, Part.reluctantly]
        exact rests place counted
      · rw [if_neg none, Part.reluctantly]
        · have turn := (ih (most.map (· - 1))).ifBeyond rests place
          exact (rests place counted).orElse fun marks =>
            follows turn { place with marks := marks } counted
        · exact none

/-- Before anything else is asked, the part and the way come to the same place or both fail. -/
theorem Part.Follows.first (follows : part.Follows way) {place : Place} (counted : place.Counted) :
    (∃ after, part .found place = .found after ∧ way some place.bare = some after.bare ∧
        after.Counted) ∨
      ∃ marks, part .found place = .failed marks ∧ way some place.bare = none := by
  have shows := follows Rest.follows_found place counted
  generalize part .found place = outcome at shows
  generalize way some place.bare = shown at shows
  cases shows with
  | found there => exact .inl ⟨_, rfl, rfl, there⟩
  | failed marks => exact .inr ⟨marks, rfl, rfl⟩

theorem Part.Follows.committed (follows : part.Follows way) :
    Part.Follows part.committed way.committed := by
  intro rest search rests place counted
  rw [Part.committed, Way.committed]
  rcases follows.first counted with ⟨after, found, same, there⟩ | ⟨marks, failed, same⟩
  · rw [found, same]
    exact rests after there
  · rw [failed, same]
    exact .failed marks

theorem Part.Follows.possessively (follows : part.Follows way) (room : Nat) (most : Option Nat) :
    Part.Follows (part.possessively room most) (way.possessively room most) := by
  intro rest search rests
  induction room generalizing most with
  | zero =>
      intro place counted
      rw [Way.possessively]
      by_cases none : most = some 0
      · rw [none, if_pos rfl, Part.possessively]
        exact rests place counted
      · rw [if_neg none]
        rcases follows.first counted with ⟨after, found, same, there⟩ | ⟨marks, failed, same⟩
        · rw [same, Part.possessively.eq_3 _ _ _ _ _ none found]
          exact rests after there
        · rw [same, Part.possessively.eq_2 _ _ _ _ _ none marks failed]
          exact rests place counted
  | succ room ih =>
      intro place counted
      rw [Way.possessively]
      by_cases none : most = some 0
      · rw [none, if_pos rfl, Part.possessively]
        exact rests place counted
      · rw [if_neg none]
        rcases follows.first counted with ⟨after, found, same, there⟩ | ⟨marks, failed, same⟩
        · rw [same, Part.possessively.eq_4 _ _ _ _ _ _ none found]
          exact (ih (most.map (· - 1))).ifBeyond rests place after there
        · rw [same, Part.possessively.eq_2 _ _ _ _ _ none marks failed]
          exact rests place counted

/-- The room for turns is the number of characters that are left. -/
theorem Part.Follows.onward {part : Nat → Part} {way : Nat → Way}
    (follows : ∀ room, (part room).Follows (way room)) (rests : rest.Follows search) :
    Rest.Follows (fun after => part after.left rest after)
      fun after => way after.left search after :=
  fun after counted => follows after.left rests after counted

theorem Part.Follows.turns (follows : part.Follows way) (greed : Greed) (least : Nat)
    (further : Option Nat) :
    Part.Follows (part.turns greed least further) (way.turns greed least further) := by
  intro rest search rests place counted
  cases greed with
  | greedy =>
      have onward := Part.Follows.onward (fun room => follows.greedily room further)
        (rests.leave place.inTurn)
      exact follows.times least onward { place with inTurn := true } counted
  | reluctant =>
      have onward := Part.Follows.onward (fun room => follows.reluctantly room further)
        (rests.attempt.leave place.inTurn)
      exact follows.times least onward { place with inTurn := true } counted
  | possessive =>
      have onward := Part.Follows.onward (fun room => follows.possessively room further) rests
      exact follows.committed.times least onward place counted

theorem Part.Follows.looking (follows : part.Follows way) (negated : Bool)
    {from? : Place → Option Place} (bare : ∀ place, from? place.bare = (from? place).map Place.bare)
    (counted : ∀ place there : Place, place.Counted → from? place = some there → there.Counted) :
    Part.Follows (part.looking negated from?) (way.looking negated from?) := by
  intro rest search rests place here
  unfold Part.looking
  rw [Way.looking, bare]
  cases away : from? place with
  | none =>
      cases negated with
      | false => exact .failed place.marks
      | true => exact rests place here
  | some there =>
      rcases follows.first (counted place there here away) with
        ⟨seen, found, same, -⟩ | ⟨marks, failed, same⟩
      · simp only [Option.map_some, Option.bind_some, found, same]
        cases negated with
        | false => exact rests { place with marks := seen.marks } here
        | true => exact .failed seen.marks
      · simp only [Option.map_some, Option.bind_some, failed, same]
        cases negated with
        | false => exact .failed marks
        | true => exact rests (place.recover marks) here

end Parts

section Runs

variable {rest : Rest} {search : Search} {accepts : Char → Bool} {place : Place}

/-- The way that takes one character. -/
def Way.single (accepts : Char → Bool) : Way := fun rest place =>
  (place.step? accepts).bind rest

theorem Part.follows_single (accepts : Char → Bool) :
    Part.Follows (fun rest => rest.after (·.step? accepts)) (Way.single accepts) :=
  fun _ _ rests => rests.after accepts

theorem Place.Counted.step?_eq_none (counted : place.Counted) (none : place.left = 0) :
    place.step? accepts = .none := by
  have ahead : place.ahead = [] := List.eq_nil_of_length_eq_zero (counted.symm.trans none)
  rw [Place.step?, ahead]

/-- A turn of one character always advances. -/
theorem Way.single_ifBeyond (counted : place.Counted) (onward search : Search) :
    Way.single accepts
        (fun after => if after.isBeyond place.bare then onward after else search after) place.bare =
      Way.single accepts onward place.bare := by
  rw [Way.single, Way.single, Place.step?_bare]
  cases stepped : place.step? accepts with
  | none => rfl
  | some next =>
      have beyond : next.bare.isBeyond place.bare = true := by
        have := (counted.step? stepped).2
        apply decide_eq_true
        show next.left < place.left
        omega
      exact if_pos beyond

theorem Rest.Follows.longest (follows : rest.Follows search) {room : Nat} (most : Option Nat)
    (counted : place.Counted) (left : place.left = room) :
    (Part.longest (·.step? accepts) room most rest place).Shows
      ((Way.single accepts).greedily room most search place.bare) := by
  induction room generalizing most place with
  | zero =>
      have stuck : Way.single accepts search place.bare = none := by
        rw [Way.single, Place.step?_bare, counted.step?_eq_none left]
        rfl
      rw [Part.longest, Way.greedily, stuck, Option.none_or, ite_self]
      exact follows.attempt place counted
  | succ room ih =>
      rw [Way.greedily]
      by_cases none : most = some 0
      · rw [none, if_pos rfl, Part.longest]
        exact follows.attempt place counted
      · rw [if_neg none, Way.single_ifBeyond counted, Way.single, Place.step?_bare]
        cases stepped : place.step? accepts with
        | none =>
            rw [Part.longest.eq_2 _ _ _ _ _ none stepped]
            exact follows.attempt place counted
        | some next =>
            obtain ⟨there, fewer⟩ := counted.step? stepped
            rw [Part.longest.eq_3 _ _ _ _ _ _ none stepped]
            exact (ih (most.map (· - 1)) there (by omega)).orElse fun marks =>
              follows.attempt (place.recover marks) counted

theorem Rest.Follows.shortest (follows : rest.Follows search) {room : Nat} (most : Option Nat)
    (counted : place.Counted) (left : place.left = room) :
    (Part.shortest (·.step? accepts) room most rest place).Shows
      ((Way.single accepts).reluctantly room most search place.bare) := by
  induction room generalizing most place with
  | zero =>
      have stuck : Way.single accepts search place.bare = none := by
        rw [Way.single, Place.step?_bare, counted.step?_eq_none left]
        rfl
      rw [Part.shortest, Way.reluctantly, stuck, Option.or_none, ite_self]
      exact follows.attempt place counted
  | succ room ih =>
      have here := follows.attempt place counted
      rw [Part.shortest, Way.reluctantly]
      by_cases none : most = some 0
      · rw [none, if_pos rfl, ← (Option.or_none : (search place.bare).or .none = _)]
        exact here.orElse .failed
      · rw [if_neg none, Way.single_ifBeyond counted, Way.single, Place.step?_bare]
        cases stepped : place.step? accepts with
        | none =>
            apply here.orElse
            intro marks
            split
            · exact .failed marks
            · exact .failed marks
            · next absurdity => cases absurdity
        | some next =>
            obtain ⟨there, fewer⟩ := counted.step? stepped
            apply here.orElse
            intro marks
            split
            · exact absurd rfl none
            · next absurdity => cases absurdity
            · next same =>
                obtain rfl := Option.some.inj same
                have counted : Place.Counted { next with marks := marks } := there
                exact ih _ counted (Nat.succ.inj (fewer.trans left))

/-- A run is not begun when it cannot be long enough. -/
theorem Way.times_single_eq_none {count : Nat} (counted : place.Counted) (few : place.left < count)
    (search : Search) : (Way.single accepts).times count search place.bare = none := by
  induction count generalizing place with
  | zero => exact absurd few (Nat.not_lt_zero _)
  | succ count ih =>
      rw [Way.times, Way.single, Place.step?_bare]
      cases stepped : place.step? accepts with
      | none => rfl
      | some next =>
          obtain ⟨there, fewer⟩ := counted.step? stepped
          exact ih there (by omega)

theorem Part.follows_run (accepts : Char → Bool) (greed : Greed) (least : Nat)
    (further : Option Nat) :
    Part.Follows (Part.run (·.step? accepts) greed least further)
      ((Way.single accepts).turns greed least further) := by
  intro rest search rests place counted
  have single := Part.follows_single accepts
  rw [Part.run]
  cases greed with
  | greedy =>
      have onward : Rest.Follows
          (fun after => Part.longest (·.step? accepts) after.left further rest after)
          fun after => (Way.single accepts).greedily after.left further search after :=
        fun after there => rests.longest further there rfl
      split
      · next few =>
          rw [Way.turns, Way.times_single_eq_none counted few]
          exact .failed place.marks
      · exact single.times least onward place counted
  | reluctant =>
      have onward : Rest.Follows
          (fun after => Part.shortest (·.step? accepts) after.left further rest after)
          fun after => (Way.single accepts).reluctantly after.left further search after :=
        fun after there => rests.shortest further there rfl
      split
      · next few =>
          rw [Way.turns, Way.times_single_eq_none counted few]
          exact .failed place.marks
      · exact single.times least onward place counted
  | possessive =>
      have committed : (Way.single accepts).committed = Way.single accepts := by
        funext rest place
        rw [Way.committed, Way.single, Option.bind_fun_some]
        rfl
      have onward := Part.Follows.onward (fun room => single.possessively room further) rests
      split
      · next few =>
          rw [Way.turns, committed, Way.times_single_eq_none counted few]
          exact .failed place.marks
      · rw [Way.turns, committed]
        exact single.times least onward place counted

end Runs

/-- A tree of one leaf matches one character. -/
theorem Node.search_of_test? {node : Node} {accepts : Char → Bool}
    (single : node.test? = some accepts) : node.search = Way.single accepts := by
  induction node with
  | atom modes leaf =>
      obtain rfl := Option.some.inj single
      rfl
  | enclosed body ih => exact ih single
  | _ => cases single

/-- A tree without references finds the same place when no marks are kept. -/
theorem Node.Unreferenced.follows {node : Node} (unreferenced : node.Unreferenced) :
    Part.Follows node.part node.search := by
  induction node with
  | empty =>
      intro rest search rests place counted
      rw [Node.part]
      exact rests place counted
  | atom modes leaf =>
      intro rest search rests place counted
      rw [Node.part]
      exact rests.after _ place counted
  | anchor modes kind =>
      intro rest search rests place counted
      rw [Node.part, Node.search]
      dsimp only
      rw [Place.holds_bare]
      split
      · exact rests place counted
      · exact .failed place.marks
  | reference modes group => cases unreferenced
  | sequence first second ihFirst ihSecond =>
      intro rest search rests place counted
      rw [Node.part]
      exact ihFirst unreferenced.1 (ihSecond unreferenced.2 rests) place counted
  | choice first second ihFirst ihSecond =>
      intro rest search rests place counted
      rw [Node.part]
      exact (ihFirst unreferenced.1 rests).either (ihSecond unreferenced.2 rests) place counted
  | enclosed body ih =>
      intro rest search rests place counted
      rw [Node.part]
      exact ih unreferenced rests place counted
  | capture group body ih =>
      intro rest search rests place counted
      have closes : Rest.Follows (fun after => rest (after.closeGroup group)) search :=
        fun after there => rests (after.closeGroup group) there
      rw [Node.part]
      exact ih unreferenced closes (place.openGroup group) counted
  | look direction negated body ih =>
      intro rest search rests place counted
      cases direction with
      | ahead =>
          have same : ∀ place there : Place, place.Counted → some place = some there →
              there.Counted := by
            intro place there counted here
            rwa [← Option.some.inj here]
          rw [Node.part]
          exact (ih unreferenced).looking negated (fun _ => rfl) same rests place counted
      | behind width =>
          rw [Node.part]
          exact (ih unreferenced).looking negated (fun place => place.back?_bare width)
            (fun _ _ counted backed => counted.back? backed) rests place counted
  | atomic body ih =>
      intro rest search rests place counted
      rw [Node.part]
      exact (ih unreferenced).committed rests place counted
  | conditional group present absent => cases unreferenced
  | repeated greed least most body ih =>
      intro rest search rests place counted
      rw [Node.part, Node.search]
      cases single : body.test? with
      | none => exact (ih unreferenced).turns greed least _ rests place counted
      | some accepts =>
          rw [Node.search_of_test? single]
          exact Part.follows_run accepts greed least _ rests place counted

end ItemFilter.Pattern
