/-
This file says that the content of a comment does not matter. What stands before the sign of the
comment decides where the search stops, so lines that share it have the same tokens.
-/

import ItemFilter.Proofs.Slice

namespace ItemFilter

/-- Texts that go on differently behind a character that is no blank strip alike at their start. -/
theorem Text.exists_first_strip {sign : Char} (visible : isBlank sign = false) (before : Text) :
    ∃ first, ∀ after, ∃ others, strip (before ++ sign :: after) = first :: others := by
  have none : ∀ character ∈ ([] : Text), isBlank character = true := List.forall_mem_nil _
  induction before with
  | nil => exact ⟨sign, strip_append none visible⟩
  | cons character rest ih =>
      by_cases blank : isBlank character = true
      · obtain ⟨first, starts⟩ := ih
        refine ⟨first, fun after => ?_⟩
        obtain ⟨others, stripped⟩ := starts after
        refine ⟨others, ?_⟩
        rw [← stripped, strip, trim, List.cons_append, List.dropWhile_cons_of_pos blank]
        rfl
      · exact ⟨character, fun after => strip_append none (eq_false_of_ne_true blank) _⟩

namespace Token

/-- The search stops at the same sign, whatever follows it. -/
theorem Scan.cut_append_sign {state : Scan} {text comment : Text}
    (parts : text = state.cut text ++ '#' :: comment) (other : Text) :
    state.cut (state.cut text ++ '#' :: other) = state.cut text := by
  induction text generalizing state with
  | nil => cases parts
  | cons character rest ih =>
      cases found : state.next character with
      | none =>
          obtain ⟨rfl, rfl⟩ := (next_eq_none_iff state character).mp found
          rfl
      | some after =>
          rw [cut, found] at parts
          simp only [List.cons_append, List.cons.injEq, true_and] at parts
          simp only [cut, found, List.cons_append, ih parts]

theorem stripComment_eq_cut (text : Text) : stripComment text = Scan.code.cut text :=
  (Scan.cut_ofQuotes false text).symm

/-- What stands before the comment is cut no further. -/
theorem stripComment_stripComment (text : Text) :
    stripComment (stripComment text) = stripComment text := by
  rw [stripComment_eq_cut (stripComment text), stripComment_eq_cut text]
  exact Scan.clean_cut .code text

/-- Nothing is cut off, or the first character that is cut off is the sign of a comment. -/
theorem stripComment_cases (text : Text) :
    stripComment text = text ∨ ∃ comment, text = stripComment text ++ '#' :: comment := by
  obtain ⟨comment, parts, begins⟩ := exists_comment text
  cases comment with
  | nil => exact .inl (by rw [List.append_nil] at parts; exact parts.symm)
  | cons sign rest =>
      obtain rfl := begins sign rfl
      exact .inr ⟨rest, parts⟩

theorem stripComment_append_sign {text comment : Text}
    (parts : text = stripComment text ++ '#' :: comment) (other : Text) :
    stripComment (stripComment text ++ '#' :: other) = stripComment text := by
  rw [stripComment_eq_cut text] at parts ⊢
  rw [stripComment_eq_cut]
  exact Scan.cut_append_sign parts other

end Token

namespace CodeLine

/-- The command and the arguments, each with its column. -/
def tokens (code : CodeLine) : List Token :=
  code.command :: code.arguments

/-- The first visible character says whether the line holds code, and the text before the comment
says which tokens it holds. -/
theorem map_tokens_ofLine? {line : Line} {first : Char} {others : Text}
    (stripped : line.text.strip = first :: others) :
    (ofLine? line).map tokens =
      if first = '#' ∨ Token.split (Token.stripComment line.text) = [] then none
      else some (Token.split (Token.stripComment line.text)) := by
  unfold ofLine?
  rw [stripped]
  split
  · next empty => cases empty
  · next comment =>
      obtain ⟨rfl, -⟩ := List.cons.inj comment
      rfl
  · next noComment same =>
      obtain ⟨rfl, rfl⟩ := List.cons.inj same
      have code : first ≠ '#' := noComment
      cases Token.split (Token.stripComment line.text) with
      | nil => simp
      | cons command arguments => simp [code, tokens]

/-- Lines that go on differently behind the sign of a comment have the same tokens. -/
theorem map_tokens_of_comment {before : Text}
    (cut : ∀ comment, Token.stripComment (before ++ '#' :: comment) = before) {left right : Line}
    {first second : Text} (leftText : left.text = before ++ '#' :: first)
    (rightText : right.text = before ++ '#' :: second) :
    (ofLine? left).map tokens = (ofLine? right).map tokens := by
  obtain ⟨visible, starts⟩ := Text.exists_first_strip (by decide : Text.isBlank '#' = false) before
  obtain ⟨others, leftStrip⟩ := starts first
  obtain ⟨more, rightStrip⟩ := starts second
  rw [← leftText] at leftStrip
  rw [← rightText] at rightStrip
  rw [map_tokens_ofLine? leftStrip, map_tokens_ofLine? rightStrip, leftText, rightText, cut, cut]

end CodeLine

/-- What stands before a comment is a part of the text that is cut no further. It stays the same
whatever the comment says, and so do the tokens of a line and their columns. -/
theorem Token.stripComment_settles (text : Text) :
    stripComment text <+: text ∧ stripComment (stripComment text) = stripComment text ∧
      (stripComment text = text ∨
        stripComment text ++ ['#'] <+: text ∧
          (∀ other, stripComment text ++ ['#'] <+: other →
            stripComment other = stripComment text) ∧
          ∀ left right : Line, stripComment text ++ ['#'] <+: left.text →
            stripComment text ++ ['#'] <+: right.text →
            (CodeLine.ofLine? left).map CodeLine.tokens =
              (CodeLine.ofLine? right).map CodeLine.tokens) := by
  have begins : stripComment text <+: text := by
    obtain ⟨comment, parts, -⟩ := exists_comment text
    exact ⟨comment, parts.symm⟩
  have follows (other : Text) (starts : stripComment text ++ ['#'] <+: other) :
      ∃ comment, other = stripComment text ++ '#' :: comment := by
    obtain ⟨comment, rfl⟩ := starts
    exact ⟨comment, by rw [List.append_assoc, List.singleton_append]⟩
  refine ⟨begins, stripComment_stripComment text, ?_⟩
  rcases stripComment_cases text with whole | ⟨comment, parts⟩
  · exact .inl whole
  · have cut := stripComment_append_sign parts
    refine .inr ⟨⟨comment, by simpa using parts.symm⟩, ?_, ?_⟩
    · intro other starts
      obtain ⟨remark, rfl⟩ := follows other starts
      exact cut remark
    · intro left right leftStarts rightStarts
      obtain ⟨first, leftText⟩ := follows left.text leftStarts
      obtain ⟨second, rightText⟩ := follows right.text rightStarts
      exact CodeLine.map_tokens_of_comment cut leftText rightText

/-- One sign is hidden, another one is quoted, and a backslash in quotes hides nothing. The third
sign begins the comment, whatever quotes and backslashes come after it. -/
theorem Token.stripComment_settles_hidden :
    let code := " Play \\# \"a#\\\" ".toList
    stripComment (code ++ "#x".toList) = code ∧
      stripComment (code ++ "#\"\\# y".toList) = code ∧
      ∃ line, CodeLine.ofLine? ⟨0, code ++ "#x".toList⟩ = some line ∧
        line.tokens = [⟨"Play".toList, 1⟩, ⟨"\\#".toList, 6⟩, ⟨"\"a#\\\"".toList, 9⟩] ∧
        (CodeLine.ofLine? ⟨0, code ++ "#\"\\# y".toList⟩).map CodeLine.tokens =
          some line.tokens := by
  intro code
  have cut : stripComment (code ++ "#x".toList) = code := by decide +kernel
  obtain ⟨-, -, settled⟩ := stripComment_settles (code ++ "#x".toList)
  rw [cut] at settled
  rcases settled with whole | ⟨starts, same, alike⟩
  · exact absurd (List.self_eq_append_right.mp whole) (by decide)
  · have other : code ++ ['#'] <+: code ++ "#\"\\# y".toList :=
      (List.prefix_append_right_inj code).mpr (by decide)
    let line : CodeLine := ⟨⟨0, code ++ "#x".toList⟩, ⟨"Play".toList, 1⟩,
      [⟨"\\#".toList, 6⟩, ⟨"\"a#\\\"".toList, 9⟩]⟩
    have read : CodeLine.ofLine? ⟨0, code ++ "#x".toList⟩ = some line := by decide +kernel
    refine ⟨cut, same _ other, line, read, rfl, ?_⟩
    rw [← alike ⟨0, code ++ "#x".toList⟩ _ starts other, read]
    rfl

end ItemFilter
