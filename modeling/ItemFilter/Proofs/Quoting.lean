/-
This file compares the two readers of quotes. The search for a comment lets a backslash hide a
quote, and the splitter does not; so a token begins with a comment sign exactly where an odd number
of quotes has been hidden.
-/

import Mathlib.Algebra.Ring.Parity
import ItemFilter.Proofs.Separator

namespace ItemFilter.Token

namespace Scan

/-- The state behind a text in which no comment begins. -/
def read (state : Scan) (text : Text) : Option Scan :=
  text.foldlM next state

/-- The number of quotes in a text that a backslash hides. -/
def hiddenQuotes (state : Scan) : Text → Nat
  | [] => 0
  | character :: rest =>
      (if state = .hidden ∧ character = '"' then 1 else 0) +
        (state.next character).elim 0 fun after => after.hiddenQuotes rest

/-- One if the search is between quotes. -/
def openQuotes (state : Scan) : Nat :=
  if state = .quoted then 1 else 0

theorem read_cons (state : Scan) (character : Char) (rest : Text) :
    state.read (character :: rest) = (state.next character).bind fun after => after.read rest :=
  rfl

theorem read_append (state : Scan) (left right : Text) :
    state.read (left ++ right) = (state.read left).bind fun after => after.read right := by
  rw [read, List.foldlM_append]
  rfl

/-- A character opens or closes a quote unless it is hidden. -/
theorem even_of_next {state after : Scan} {character : Char}
    (found : state.next character = some after) :
    Even (quotes [character] + state.openQuotes + after.openQuotes +
      if state = .hidden ∧ character = '"' then 1 else 0) := by
  cases state with
  | hidden =>
      obtain rfl := Option.some.inj found
      by_cases quote : character = '"' <;> simp [quotes, openQuotes, quote]
  | quoted =>
      obtain rfl := Option.some.inj found
      by_cases quote : character = '"' <;> simp [quotes, openQuotes, quote]
  | code =>
      by_cases quote : character = '"'
      · rw [quote] at found
        obtain rfl := Option.some.inj found
        simp [quotes, openQuotes, quote]
      · have outside : after ≠ .quoted := by
          rw [next, if_neg quote] at found
          split at found
          · simp [← Option.some.inj found]
          · split at found
            · cases found
            · simp [← Option.some.inj found]
        simp [quotes, openQuotes, quote, outside]

/-- Both readers agree on quotes up to those that are hidden. -/
theorem even_of_read {state after : Scan} {text : Text} (found : state.read text = some after) :
    Even (quotes text + state.openQuotes + after.openQuotes + state.hiddenQuotes text) := by
  induction text generalizing state with
  | nil =>
      obtain rfl := Option.some.inj found
      rw [hiddenQuotes, quotes, List.count_nil, Nat.zero_add, Nat.add_zero]
      exact Even.add_self _
  | cons character rest ih =>
      rw [read_cons] at found
      obtain ⟨middle, step, later⟩ := Option.bind_eq_some_iff.mp found
      have first := even_of_next step
      have second := ih later
      have parts : quotes (character :: rest) = quotes [character] + quotes rest :=
        quotes_append [character] rest
      rw [hiddenQuotes, step, parts, Option.elim_some]
      rw [Nat.even_iff] at first second ⊢
      omega

/-- The search gets as far as the comment. -/
theorem isSome_read_take_iff (state : Scan) {text : Text} {index : Nat}
    (within : index ≤ text.length) :
    (state.read (text.take index)).isSome = true ↔ index ≤ (state.cut text).length := by
  induction text generalizing state index with
  | nil =>
      obtain rfl := Nat.le_zero.mp within
      exact iff_of_true rfl (Nat.zero_le _)
  | cons character rest ih =>
      cases index with
      | zero => exact iff_of_true rfl (Nat.zero_le _)
      | succ index =>
          rw [List.take_succ_cons, read_cons, cut]
          cases state.next character with
          | none => simp
          | some after => simpa using ih after (Nat.le_of_succ_le_succ within)

/-- Only a backslash hides the next character. -/
theorem eq_backslash_of_next {state : Scan} {character : Char}
    (found : state.next character = some .hidden) : character = '\\' := by
  cases state with
  | hidden => cases found
  | quoted =>
      rw [next, Option.some.injEq] at found
      split at found <;> cases found
  | code =>
      rw [next] at found
      split at found
      · next backslash => exact backslash
      · split at found
        · cases found
        · split at found <;> cases found

/-- A quote is hidden by the backslash before it. -/
theorem includes_of_hiddenQuotes {state : Scan} {text : Text}
    (positive : 0 < state.hiddenQuotes text) :
    (state = .hidden ∧ ∃ rest, text = '"' :: rest) ∨
      Text.includes "\\\"".toList text = true := by
  induction text generalizing state with
  | nil => cases positive
  | cons character rest ih =>
      by_cases here : state = .hidden ∧ character = '"'
      · exact .inl ⟨here.1, rest, by rw [here.2]⟩
      · rw [hiddenQuotes, if_neg here, Nat.zero_add] at positive
        cases found : state.next character with
        | none => simp [found] at positive
        | some after =>
            rw [found, Option.elim_some] at positive
            right
            rw [Text.includes, Bool.or_eq_true]
            rcases ih positive with ⟨rfl, others, rfl⟩ | later
            · left
              rw [eq_backslash_of_next found]
              rfl
            · exact .inr later

theorem hiddenQuotes_take_le (state : Scan) (text : Text) (index : Nat) :
    state.hiddenQuotes (text.take index) ≤ state.hiddenQuotes text := by
  induction text generalizing state index with
  | nil => rw [List.take_nil]
  | cons character rest ih =>
      cases index with
      | zero => exact Nat.zero_le _
      | succ index =>
          rw [List.take_succ_cons, hiddenQuotes, hiddenQuotes]
          apply Nat.add_le_add_left
          cases state.next character with
          | none => exact Nat.le_refl _
          | some after => exact ih after index

end Scan

section Signs

variable {text : Text} {index : Nat}

/-- Where a run may start, the search is in the code or between quotes. It is between quotes if an
odd number of them has been hidden. -/
theorem read_of_startsAt (starts : StartsAt text index) (within : index ≤ text.length)
    (reached : index ≤ (stripComment text).length) :
    ∃ state, Scan.code.read (text.take index) = some state ∧ state ≠ .hidden ∧
      (state = .quoted ↔ Odd (Scan.code.hiddenQuotes (text.take index))) := by
  rw [stripComment, ← Scan.cut_ofQuotes] at reached
  obtain ⟨state, found⟩ :=
    Option.isSome_iff_exists.mp ((Scan.isSome_read_take_iff .code within).mpr reached)
  refine ⟨state, found, ?_, ?_⟩
  · rcases starts with rfl | ⟨last, rfl, blank, -⟩
    · obtain rfl := Option.some.inj found
      decide
    · cases there : text[last]? with
      | none => simp [there] at blank
      | some character =>
          rw [there, Option.any_some] at blank
          rw [List.take_add_one, there, Scan.read_append] at found
          obtain ⟨earlier, -, step⟩ := Option.bind_eq_some_iff.mp found
          rw [Option.toList_some, Scan.read_cons, Scan.next_of_isBlank earlier blank] at step
          obtain rfl := Option.some.inj step
          cases earlier <;> decide
  · have balance := Scan.even_of_read found
    have even := even_of_startsAt starts
    rw [Nat.even_iff] at balance even
    rw [Nat.odd_iff]
    by_cases quoted : state = .quoted
    · rw [show state.openQuotes = 1 from if_pos quoted] at balance
      rw [show Scan.code.openQuotes = 0 from rfl] at balance
      exact iff_of_true quoted (by omega)
    · rw [show state.openQuotes = 0 from if_neg quoted] at balance
      rw [show Scan.code.openQuotes = 0 from rfl] at balance
      exact iff_of_false quoted (by omega)

/-- A comment sign where a run may start is kept if an odd number of quotes has been hidden. -/
theorem kept_iff_odd (starts : StartsAt text index) (sign : text[index]? = some '#')
    (reached : index ≤ (stripComment text).length) :
    index < (stripComment text).length ↔ Odd (Scan.code.hiddenQuotes (text.take index)) := by
  have within : index < text.length := (List.getElem?_eq_some_iff.mp sign).1
  obtain ⟨state, found, shown, quoted_iff⟩ := read_of_startsAt starts (Nat.le_of_lt within) reached
  have next := Scan.isSome_read_take_iff .code (Nat.succ_le_of_lt within)
  rw [List.take_add_one, sign, Scan.read_append, found, Option.bind_some, Option.toList_some,
    Scan.read_cons] at next
  rw [← quoted_iff, stripComment, ← Scan.cut_ofQuotes]
  refine (Iff.symm next).trans ?_
  cases state with
  | hidden => exact absurd rfl shown
  | quoted => exact iff_of_true rfl rfl
  | code => exact iff_of_false (by decide) (by decide)

/-- A comment sign behind a separator that begins no comment, because an odd number of quotes has
been hidden before it. -/
structure KeptSign (text : Text) (index : Nat) : Prop where
  sign : text[index]? = some '#'
  reached : index ≤ (stripComment text).length
  behind : ∃ last, index = last + 1 ∧ Separator text last
  odd : Odd (Scan.code.hiddenQuotes (text.take index))

theorem starts_with_sign_iff :
    StartsAt (stripComment text) index ∧ (stripComment text)[index]? = some '#' ↔
      KeptSign text index := by
  obtain ⟨comment, parts, -⟩ := exists_comment text
  have starts_iff (reached : index ≤ (stripComment text).length) :
      StartsAt (stripComment text) index ↔ StartsAt text index := by
    conv_rhs => rw [parts]
    exact (startsAt_append reached comment).symm
  have same (before : index < (stripComment text).length) :
      (stripComment text)[index]? = text[index]? := by
    conv_rhs => rw [parts]
    exact (List.getElem?_append_left before).symm
  constructor
  · intro ⟨starts, sign⟩
    have before := (List.getElem?_eq_some_iff.mp sign).1
    have reached := Nat.le_of_lt before
    rw [starts_iff reached] at starts
    rw [same before] at sign
    have odd := (kept_iff_odd starts sign reached).mp before
    refine ⟨sign, reached, ?_, odd⟩
    rcases starts with rfl | behind
    · simp [Scan.hiddenQuotes] at odd
    · exact behind
  · intro kept
    have starts : StartsAt text index := .inr kept.behind
    have before := (kept_iff_odd starts kept.sign kept.reached).mpr kept.odd
    exact ⟨(starts_iff kept.reached).mpr starts, (same before).trans kept.sign⟩

end Signs

end ItemFilter.Token

namespace ItemFilter.CodeLine

/-- A token begins with a comment sign exactly where the sign is kept. Without a hidden quote there
is none. -/
theorem sign_begins_token_iff {line : Line} {code : CodeLine} (read : ofLine? line = some code) :
    (∀ index, (∃ token ∈ code.command :: code.arguments,
        token.start = index ∧ token.text.head? = some '#') ↔ Token.KeptSign line.text index) ∧
      (Text.includes "\\\"".toList line.text = false →
        ∀ token ∈ code.command :: code.arguments, token.text.head? ≠ some '#') := by
  have begins (index : Nat) : (∃ token ∈ code.command :: code.arguments,
      token.start = index ∧ token.text.head? = some '#') ↔ Token.KeptSign line.text index := by
    rw [← (ofLine?_tokens read).2, Token.exists_start_iff (by decide)]
    exact Token.starts_with_sign_iff
  refine ⟨begins, ?_⟩
  intro shown token member sign
  have odd := ((begins token.start).mp ⟨token, member, rfl, sign⟩).odd
  have positive : 0 < Token.Scan.code.hiddenQuotes line.text := by
    have := Token.Scan.hiddenQuotes_take_le .code line.text token.start
    rw [Nat.odd_iff] at odd
    omega
  rcases Token.Scan.includes_of_hiddenQuotes positive with ⟨hidden, -⟩ | included
  · cases hidden
  · rw [shown] at included
    cases included

/-- A sign between quotes begins no token, and neither does the sign of the comment. -/
theorem sign_begins_token_iff_quoted :
    let line : Line := ⟨0, "Play \" #\" # x".toList⟩
    ∃ code, ofLine? line = some code ∧ code.arguments = [⟨"\" #\"".toList, 5⟩] ∧
      ∀ token ∈ code.command :: code.arguments, token.text.head? ≠ some '#' := by
  intro line
  let code : CodeLine := ⟨line, ⟨"Play".toList, 0⟩, [⟨"\" #\"".toList, 5⟩]⟩
  have read : ofLine? line = some code := by decide +kernel
  exact ⟨code, read, rfl, (sign_begins_token_iff read).2 (by decide)⟩

/-- A quote behind a backslash opens a quoted span for the splitter alone. The next quote closes it
and opens one for the search, so the sign that follows is an argument. -/
theorem sign_begins_token_of_hidden_quote :
    ∃ code, ofLine? ⟨0, "\\\"\" #x".toList⟩ = some code ∧
      ∃ token ∈ code.arguments, token.text.head? = some '#' :=
  ⟨⟨⟨0, "\\\"\" #x".toList⟩, ⟨"\\\"\"".toList, 0⟩, [⟨"#x".toList, 4⟩]⟩, by decide +kernel,
    ⟨"#x".toList, 4⟩, by simp, rfl⟩

end ItemFilter.CodeLine
