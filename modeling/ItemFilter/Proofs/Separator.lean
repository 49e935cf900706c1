/-
This file says where a text is cut: at the blanks with an even number of quotes before them. The
tokens are the longest runs of the other characters.
-/

import Mathlib.Algebra.Group.Nat.Even
import ItemFilter.Proofs.Slice

namespace ItemFilter.Token

/-- The number of double quotes in a text. -/
def quotes (text : Text) : Nat :=
  text.count '"'

/-- The character at the index is a blank behind an even number of quotes. -/
def Separator (text : Text) (index : Nat) : Prop :=
  text[index]?.any Text.isBlank = true ∧ Even (quotes (text.take index))

instance (text : Text) (index : Nat) : Decidable (Separator text index) :=
  inferInstanceAs (Decidable (_ ∧ _))

/-- Nothing stands before the index, or a separator. -/
def StartsAt (text : Text) (index : Nat) : Prop :=
  index = 0 ∨ ∃ last, index = last + 1 ∧ Separator text last

/-- Nothing stands at the index, or a separator. -/
def StopsAt (text : Text) (index : Nat) : Prop :=
  index = text.length ∨ Separator text index

/-- Consecutive indexes without a separator, which cannot be extended on either side. -/
structure Run (text : Text) (start stop : Nat) : Prop where
  nonempty : start < stop
  inside : stop ≤ text.length
  begins : StartsAt text start
  free : ∀ index, start ≤ index → index < stop → ¬ Separator text index
  ends : StopsAt text stop

section Separators

variable {before : Text} {character : Char} (rest : Text)

theorem quotes_append (left right : Text) : quotes (left ++ right) = quotes left + quotes right :=
  List.count_append

theorem quotes_of_isBlank (blank : Text.isBlank character = true) : quotes [character] = 0 := by
  have other := (Text.ne_of_isBlank blank).1
  simp [quotes, other]

/-- What follows a character does not decide whether it is a separator. -/
theorem separator_append {index : Nat} (within : index < before.length) :
    Separator (before ++ rest) index ↔ Separator before index := by
  rw [Separator, Separator, List.getElem?_append_left within,
    List.take_append_of_le_length (Nat.le_of_lt within)]

theorem separator_length :
    Separator (before ++ character :: rest) before.length ↔
      Text.isBlank character = true ∧ Even (quotes before) := by
  simp [Separator]

/-- An even number of quotes stands before every place where a run may start. -/
theorem even_of_startsAt {text : Text} {index : Nat} (starts : StartsAt text index) :
    Even (quotes (text.take index)) := by
  rcases starts with rfl | ⟨last, rfl, blank, even⟩
  · simp [quotes]
  · cases there : text[last]? with
    | none => simp [there] at blank
    | some character =>
        rw [there, Option.any_some] at blank
        rw [List.take_add_one, there, Option.toList_some, quotes_append, quotes_of_isBlank blank]
        exact even

end Separators

namespace Run

variable {text : Text} {start stop start' stop' index : Nat}

/-- Two runs do not overlap unless they are the same. -/
theorem eq_of_shared (run : Run text start stop) (other : Run text start' stop')
    (here : start ≤ index ∧ index < stop) (there : start' ≤ index ∧ index < stop') :
    start = start' ∧ stop = stop' := by
  have start_le : ∀ {start stop start' stop'}, Run text start stop → Run text start' stop' →
      start ≤ index → index < stop' → start ≤ start' := by
    intro start stop start' stop' run other upper lower
    rcases run.begins with rfl | ⟨last, rfl, separator⟩
    · exact Nat.zero_le start'
    · apply Nat.le_of_not_lt
      intro earlier
      exact other.free last (by omega) (by omega) separator
  have stop_le : ∀ {start stop start' stop'}, Run text start stop → Run text start' stop' →
      start ≤ index → index < stop' → stop ≤ stop' := by
    intro start stop start' stop' run other upper lower
    rcases other.ends with rfl | separator
    · exact run.inside
    · apply Nat.le_of_not_lt
      intro later
      exact run.free stop' (by omega) later separator
  constructor
  · exact Nat.le_antisymm (start_le run other here.1 there.2) (start_le other run there.1 here.2)
  · exact Nat.le_antisymm (stop_le run other here.1 there.2) (stop_le other run there.1 here.2)

/-- A run that ends before the text does has an even number of quotes. -/
theorem even_quotes (run : Run text start stop) (before : stop < text.length) :
    Even (quotes ((text.drop start).take (stop - start))) := by
  have ends : Even (quotes (text.take stop)) := by
    rcases run.ends with rfl | separator
    · exact absurd before (Nat.lt_irrefl _)
    · exact separator.2
  have parts : text.take stop = text.take start ++ (text.drop start).take (stop - start) := by
    rw [← List.take_add, Nat.add_sub_cancel' (Nat.le_of_lt run.nonempty)]
  rw [parts, quotes_append] at ends
  exact (Nat.even_add.mp ends).mp (even_of_startsAt run.begins)

end Run

/-- The token fills a run of the text. -/
structure Fills (token : Token) (text : Text) : Prop where
  run : Run text token.start token.stop
  text_eq : token.text = (text.drop token.start).take (token.stop - token.start)

/-- The begun token reaches from a place where a run may start to the end of what has been read,
without a separator in it. -/
structure Begun (before : Text) (begun : Unfinished) : Prop where
  within : begun.start ≤ before.length
  drop_eq : before.drop begun.start = begun.reversed.reverse
  begins : StartsAt before begun.start
  closed_iff : begun.inQuotes = false ↔ Even (quotes begun.reversed)
  free : ∀ index, begun.start ≤ index → index < before.length → ¬ Separator before index

/-- What the splitter knows about the text that it has read. -/
def Known (before : Text) : Option Unfinished → Prop
  | none => StartsAt before before.length
  | some begun => Begun before begun ∧ begun.reversed ≠ []

section Reading

variable {before : Text} {character : Char} {begun : Unfinished}

theorem startsAt_append {index : Nat} (within : index ≤ before.length) (rest : Text) :
    StartsAt (before ++ rest) index ↔ StartsAt before index := by
  apply or_congr_right
  apply exists_congr
  intro last
  apply and_congr_right
  intro same
  exact separator_append rest (by omega)

theorem startsAt_of_separator (separator : Separator (before ++ [character]) before.length) :
    StartsAt (before ++ [character]) (before ++ [character]).length :=
  .inr ⟨before.length, by simp, separator⟩

/-- All quotes before the begun token are closed, so its own decide whether one is open. -/
theorem Begun.closed_iff_even (known : Begun before begun) :
    begun.inQuotes = false ↔ Even (quotes before) := by
  have parts : quotes before = quotes (before.take begun.start) + quotes begun.reversed := by
    have reversed : quotes begun.reversed.reverse = quotes begun.reversed := List.count_reverse
    rw [← reversed, ← known.drop_eq, ← quotes_append, List.take_append_drop]
  rw [known.closed_iff, parts, Nat.even_add, iff_true_left (even_of_startsAt known.begins)]

theorem begun_nil (starts : StartsAt before before.length) :
    Begun before ⟨[], before.length, false⟩ where
  within := Nat.le_refl _
  drop_eq := List.drop_length
  begins := starts
  closed_iff := by simp [quotes]
  free := by
    intro index upper lower
    exact absurd lower (Nat.not_lt.mpr upper)

/-- A character that is no separator goes on with the begun token. -/
theorem Begun.push (known : Begun before begun)
    (kept : ¬ Separator (before ++ [character]) before.length) :
    Begun (before ++ [character]) (begun.push character) where
  within := by
    have := known.within
    rw [List.length_append]
    exact Nat.le_add_right_of_le this
  drop_eq := by
    change (before ++ [character]).drop begun.start = (character :: begun.reversed).reverse
    rw [List.drop_append_of_le_length known.within, known.drop_eq, List.reverse_cons]
  begins := (startsAt_append known.within [character]).mpr known.begins
  closed_iff := by
    have closed := known.closed_iff
    by_cases quote : character = '"'
    · have more : quotes (character :: begun.reversed) = quotes begun.reversed + 1 := by
        simp [quotes, quote]
      simp only [Unfinished.push, more, Nat.even_add_one, ← closed]
      simp [quote]
    · have same : quotes (character :: begun.reversed) = quotes begun.reversed := by
        simp [quotes, quote]
      simp only [Unfinished.push, same, ← closed]
      simp [quote]
  free := by
    intro index upper lower
    rw [List.length_append, List.length_singleton] at lower
    by_cases last : index = before.length
    · rw [last]
      exact kept
    · rw [separator_append [character] (by omega)]
      exact known.free index upper (by omega)

theorem Begun.stop_token (known : Begun before begun) : begun.token.stop = before.length := by
  have length := congrArg List.length known.drop_eq
  have := known.within
  rw [List.length_drop, List.length_reverse] at length
  rw [Unfinished.stop_token]
  omega

/-- The begun token fills a run if the text stops behind it. -/
theorem Begun.fills (known : Begun before begun) (nonempty : begun.reversed ≠ []) {rest : Text}
    (stops : StopsAt (before ++ rest) before.length) : begun.token.Fills (before ++ rest) := by
  have stop := known.stop_token
  have length := begun.stop_token.symm.trans stop
  constructor
  · rw [stop]
    change Run (before ++ rest) begun.start before.length
    refine ⟨?_, ?_, (startsAt_append known.within rest).mpr known.begins, ?_, stops⟩
    · have := List.length_pos_iff.mpr nonempty
      omega
    · rw [List.length_append]
      exact Nat.le_add_right _ _
    · intro index upper lower
      rw [separator_append rest lower]
      exact known.free index upper lower
  · rw [stop, ← length]
    change begun.reversed.reverse =
      ((before ++ rest).drop begun.start).take (begun.start + begun.reversed.length - begun.start)
    rw [List.drop_append_of_le_length known.within, known.drop_eq, Nat.add_sub_cancel_left,
      ← List.length_reverse, List.take_left]

end Reading

/-- The tokens fill runs of the text, and from the index on they leave out only separators. -/
structure Tiles (text : Text) (start : Nat) (tokens : List Token) : Prop where
  fills : ∀ token ∈ tokens, token.Fills text
  covers : ∀ index, start ≤ index → index < text.length → ¬ Separator text index →
    ∃ token ∈ tokens, token.start ≤ index ∧ index < token.stop

section Tiling

variable {text : Text} {start : Nat} {tokens : List Token} {token : Token}

theorem tiles_nil (text : Text) : Tiles text text.length [] where
  fills := List.forall_mem_nil _
  covers := by
    intro index upper lower
    exact absurd lower (Nat.not_lt.mpr upper)

theorem Tiles.skip (tiles : Tiles text (start + 1) tokens) (separator : Separator text start) :
    Tiles text start tokens where
  fills := tiles.fills
  covers := by
    intro index upper lower free
    have other : start ≠ index := by
      rintro rfl
      exact free separator
    exact tiles.covers index (Nat.lt_of_le_of_ne upper other) lower free

theorem Tiles.cons (tiles : Tiles text start tokens) (fills : token.Fills text)
    (stop : token.stop = start) : Tiles text token.start (token :: tokens) where
  fills := List.forall_mem_cons.mpr ⟨fills, tiles.fills⟩
  covers := by
    intro index upper lower free
    by_cases inside : index < token.stop
    · exact ⟨token, List.mem_cons_self, upper, inside⟩
    · obtain ⟨other, member, within⟩ :=
        tiles.covers index (stop ▸ Nat.le_of_not_lt inside) lower free
      exact ⟨other, List.mem_cons_of_mem _ member, within⟩

end Tiling

/-- Whatever has been read, the tokens from there on tile the text. -/
theorem tiles_splitFrom (before rest : Text) (current : Option Unfinished)
    (known : Known before current) :
    Tiles (before ++ rest) (earliest before.length current)
      (splitFrom before.length current rest) := by
  induction rest generalizing before current with
  | nil =>
      rw [List.append_nil]
      cases current with
      | none => exact tiles_nil before
      | some begun =>
          have fills : begun.token.Fills (before ++ []) := known.1.fills known.2 (.inl (by simp))
          rw [List.append_nil] at fills
          exact (tiles_nil before).cons fills known.1.stop_token
  | cons character rest ih =>
      have next : (before ++ [character]).length = before.length + 1 := by simp
      have whole : before ++ [character] ++ rest = before ++ character :: rest := by simp
      have later := ih (before ++ [character])
      rw [next, whole] at later
      cases current with
      | none =>
          have even : Even (quotes before) := by
            simpa using even_of_startsAt known
          rw [splitFrom]
          by_cases blank : Text.isBlank character = true
          · have separator := (separator_length []).mpr ⟨blank, even⟩
            rw [if_pos blank]
            exact (later none (startsAt_of_separator separator)).skip
              ((separator_length rest).mpr ⟨blank, even⟩)
          · have kept : ¬ Separator (before ++ [character]) before.length :=
              fun separator => blank ((separator_length []).mp separator).1
            rw [if_neg blank]
            exact later (some (Unfinished.push ⟨[], before.length, false⟩ character))
              ⟨(begun_nil known).push kept, List.cons_ne_nil _ _⟩
      | some begun =>
          rw [splitFrom]
          by_cases ends : (Text.isBlank character && !begun.inQuotes) = true
          · obtain ⟨blank, closed⟩ : Text.isBlank character = true ∧ begun.inQuotes = false := by
              simpa using ends
            have even := known.1.closed_iff_even.mp closed
            have separator := (separator_length rest).mpr ⟨blank, even⟩
            have behind := (later none (startsAt_of_separator
              ((separator_length []).mpr ⟨blank, even⟩))).skip separator
            rw [if_pos ends]
            exact behind.cons (known.1.fills known.2 (.inr separator)) known.1.stop_token
          · have kept : ¬ Separator (before ++ [character]) before.length := by
              rw [separator_length, ← known.1.closed_iff_even]
              simpa using ends
            rw [if_neg ends]
            exact later (some (begun.push character))
              ⟨known.1.push kept, List.cons_ne_nil _ _⟩

section Tokens

variable {text : Text} {token : Token}

theorem fills_of_mem_split (member : token ∈ split text) : token.Fills text :=
  (tiles_splitFrom [] text none (.inl rfl)).fills token member

theorem exists_mem_split {index : Nat} (within : index < text.length)
    (free : ¬ Separator text index) :
    ∃ token ∈ split text, token.start ≤ index ∧ index < token.stop :=
  (tiles_splitFrom [] text none (.inl rfl)).covers index (Nat.zero_le index) within free

/-- Tokens that share an index are the same. -/
theorem Fills.eq_of_shared {other : Token} {index : Nat} (fills : token.Fills text)
    (filled : other.Fills text) (here : token.start ≤ index ∧ index < token.stop)
    (there : other.start ≤ index ∧ index < other.stop) : token = other := by
  obtain ⟨start, stop⟩ := fills.run.eq_of_shared filled.run here there
  have same : token.text = other.text := by
    rw [fills.text_eq, start, stop, ← filled.text_eq]
  cases token
  cases other
  rw [Token.mk.injEq]
  exact ⟨same, start⟩

/-- Whatever fills a run is a token. -/
theorem mem_split_of_fills (fills : token.Fills text) : token ∈ split text := by
  have nonempty := fills.run.nonempty
  have inside := fills.run.inside
  obtain ⟨other, member, there⟩ := exists_mem_split
    (show token.start < text.length by omega) (fills.run.free token.start (Nat.le_refl _) nonempty)
  rw [fills.eq_of_shared (fills_of_mem_split member) ⟨Nat.le_refl _, nonempty⟩ there]
  exact member

theorem Fills.head?_text (fills : token.Fills text) : token.text.head? = text[token.start]? := by
  have nonempty := fills.run.nonempty
  rw [fills.text_eq, List.head?_take, if_neg (by omega), List.head?_drop]

/-- A token starts with a visible character wherever a run may start with it. -/
theorem exists_start_iff {index : Nat} {character : Char}
    (visible : Text.isBlank character = false) :
    (∃ token ∈ split text, token.start = index ∧ token.text.head? = some character) ↔
      StartsAt text index ∧ text[index]? = some character := by
  constructor
  · intro ⟨token, member, start, first⟩
    have fills := fills_of_mem_split member
    rw [fills.head?_text, start] at first
    rw [← start]
    exact ⟨fills.run.begins, start ▸ first⟩
  · intro ⟨starts, there⟩
    have free : ¬ Separator text index := by
      intro separator
      have blank := separator.1
      rw [there, Option.any_some, visible] at blank
      cases blank
    obtain ⟨token, member, inside⟩ :=
      exists_mem_split (List.getElem?_eq_some_iff.mp there).1 free
    have fills := fills_of_mem_split member
    have start : token.start = index := by
      rcases starts with rfl | ⟨last, rfl, separator⟩
      · exact Nat.le_zero.mp inside.1
      · apply Nat.le_antisymm inside.1
        apply Nat.le_of_not_lt
        intro earlier
        exact fills.run.free last (by omega) (by omega) separator
    rw [← start] at there
    exact ⟨token, member, start, fills.head?_text.trans there⟩

/-- A token before another one ends at a separator. -/
theorem separator_of_isBefore {other : Token} (first : token ∈ split text)
    (second : other ∈ split text) (before : token.IsBefore other) :
    token.stop < text.length ∧ Separator text token.stop := by
  have nonempty := (fills_of_mem_split second).run.nonempty
  have inside := (fills_of_mem_split second).run.inside
  change token.stop < other.start at before
  rcases (fills_of_mem_split first).run.ends with whole | separator
  · omega
  · exact ⟨by omega, separator⟩

/-- Only the last token may have a quote left open. -/
theorem even_quotes_of_mem_dropLast (member : token ∈ (split text).dropLast) :
    Even (quotes token.text) := by
  have listed := (List.dropLast_sublist (split text)).subset member
  have nonempty : split text ≠ [] := List.ne_nil_of_mem listed
  have ordered := split_ordered text
  rw [← List.dropLast_concat_getLast nonempty] at ordered
  have before := (List.pairwise_append.mp ordered).2.2 token member _ (List.mem_singleton.mpr rfl)
  have short := (separator_of_isBefore listed (List.getLast_mem nonempty) before).1
  have fills := fills_of_mem_split listed
  rw [fills.text_eq]
  exact fills.run.even_quotes short

end Tokens

/-- The tokens of a text are its longest runs without a separator, in order. So none of them is
empty, a separator stands between any two, each other character is in exactly one of them, and only
the last one may have a quote left open. -/
theorem split_runs (text : Text) :
    (∀ token, token ∈ split text ↔ token.Fills text) ∧
      (split text).Pairwise (fun left right =>
        ∃ index, left.stop ≤ index ∧ index < right.start ∧ Separator text index) ∧
      (∀ token ∈ split text, token.text ≠ []) ∧
      (∀ index < text.length, ¬ Separator text index →
        ∃! token, token ∈ split text ∧ token.start ≤ index ∧ index < token.stop) ∧
      ∀ token ∈ (split text).dropLast, Even (quotes token.text) := by
  refine ⟨fun token => ⟨fills_of_mem_split, mem_split_of_fills⟩, ?_, ?_, ?_, ?_⟩
  · apply (split_ordered text).imp_of_mem
    intro left right first second before
    exact ⟨left.stop, Nat.le_refl _, before, (separator_of_isBefore first second before).2⟩
  · intro token member
    exact (standsIn_of_mem_split member).nonempty
  · intro index within free
    obtain ⟨token, member, inside⟩ := exists_mem_split within free
    refine ⟨token, ⟨member, inside⟩, ?_⟩
    intro other ⟨listed, there⟩
    exact (fills_of_mem_split listed).eq_of_shared (fills_of_mem_split member) there inside
  · intro token member
    exact even_quotes_of_mem_dropLast member

end ItemFilter.Token
