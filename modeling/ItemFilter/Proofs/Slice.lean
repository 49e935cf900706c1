/-
This file says that the tokens of a line are parts of its text, each at its own column. Blanks stand
before the command, and behind it a blank, the comment or nothing.
-/

import ItemFilter.Proofs.Comment

namespace ItemFilter

/-- The characters of a text in the columns of the span. -/
def Span.slice (span : Span) (text : Text) : Text :=
  (text.drop span.start).take span.width

/-- The columns of a part of a text hold that part. -/
theorem Span.slice_append (line : Nat) (before part after : Text) :
    slice ⟨line, before.length, part.length⟩ (before ++ (part ++ after)) = part := by
  simp [slice]

namespace Token

/-- The search ends at a sign in the code and nowhere else. -/
theorem Scan.next_eq_none_iff (state : Scan) (character : Char) :
    state.next character = none ↔ state = .code ∧ character = '#' := by
  cases state with
  | hidden => simp [next]
  | quoted => simp [next]
  | code =>
      by_cases backslash : character = '\\'
      · simp [next, backslash]
      · by_cases quote : character = '"' <;> simp [next, backslash, quote]

/-- The comment is cut off together with its sign. -/
theorem Scan.exists_comment (state : Scan) (text : Text) :
    ∃ comment, text = state.cut text ++ comment ∧
      ∀ character ∈ comment.head?, character = '#' := by
  induction text generalizing state with
  | nil => exact ⟨[], rfl, by simp⟩
  | cons character rest ih =>
      cases found : state.next character with
      | none =>
          refine ⟨character :: rest, by simp [cut, found], ?_⟩
          intro first begins
          rw [← Option.some.inj begins, ((next_eq_none_iff state character).mp found).2]
      | some after =>
          obtain ⟨comment, parts, begins⟩ := ih after
          refine ⟨comment, ?_, begins⟩
          rw [cut, found, List.cons_append, ← parts]

theorem exists_comment (text : Text) :
    ∃ comment, text = stripComment text ++ comment ∧
      ∀ character ∈ comment.head?, character = '#' := by
  rw [stripComment, ← Scan.cut_ofQuotes]
  exact Scan.exists_comment _ text

/-- The begun token takes in the text up to the blank that ends it, and it does so whatever stands
there instead. -/
theorem exists_taken (inQuotes : Bool) (text : Text) :
    ∃ more rest quoted, text = more ++ rest ∧ Parted rest ∧ (rest ≠ [] → quoted = false) ∧
      ∀ column start reversed after,
        splitFrom column (some ⟨reversed, start, inQuotes⟩) (more ++ after) =
          splitFrom (column + more.length) (some ⟨more.reverse ++ reversed, start, quoted⟩)
            after := by
  induction text generalizing inQuotes with
  | nil => exact ⟨[], [], inQuotes, rfl, by simp [Parted], by simp, fun _ _ _ _ => rfl⟩
  | cons character others ih =>
      by_cases ends : (Text.isBlank character && !inQuotes) = true
      · obtain ⟨blank, rfl⟩ : Text.isBlank character = true ∧ inQuotes = false := by
          simpa using ends
        have parted : Parted (character :: others) := by
          intro first begins
          rw [← Option.some.inj begins, blank]
        exact ⟨[], character :: others, false, rfl, parted, fun _ => rfl, fun _ _ _ _ => rfl⟩
      · obtain ⟨more, rest, quoted, parts, parted, closed, reads⟩ :=
          ih (if character == '"' then !inQuotes else inQuotes)
        refine ⟨character :: more, rest, quoted, by rw [parts, List.cons_append], parted, closed,
          fun column start reversed after => ?_⟩
        rw [List.cons_append, splitFrom, if_neg ends, Unfinished.push, reads, List.length_cons,
          List.reverse_cons, List.append_assoc, Nat.add_assoc column 1, Nat.add_comm 1]
        rfl

/-- A text that begins with the blanks and the word has its first token begin with the word. -/
structure Leading (blanks word : Text) (quoted : Bool) : Prop where
  blank : ∀ character ∈ blanks, Text.isBlank character = true
  visible : ∃ first more, word = first :: more ∧ Text.isBlank first = false
  reads : ∀ column after, splitFrom column none (blanks ++ (word ++ after)) =
    splitFrom (column + blanks.length + word.length)
      (some ⟨word.reverse, column + blanks.length, quoted⟩) after

/-- A text has no tokens, or its first token follows some blanks and ends where no quote is open. -/
theorem exists_leading (text : Text) :
    (∀ column, splitFrom column none text = []) ∨
      ∃ blanks word rest quoted, text = blanks ++ (word ++ rest) ∧ Leading blanks word quoted ∧
        Parted rest ∧ (rest ≠ [] → quoted = false) := by
  induction text with
  | nil => exact .inl fun _ => rfl
  | cons character others ih =>
      by_cases blank : Text.isBlank character = true
      · have skipped (column : Nat) (text : Text) :
            splitFrom column none (character :: text) = splitFrom (column + 1) none text := by
          rw [splitFrom, if_pos blank]
        rcases ih with empty | ⟨blanks, word, rest, quoted, parts, leading, parted, closed⟩
        · exact .inl fun column => by rw [skipped, empty]
        · refine .inr ⟨character :: blanks, word, rest, quoted, by rw [parts, List.cons_append],
            ⟨List.forall_mem_cons.mpr ⟨blank, leading.blank⟩, leading.visible,
              fun column after => ?_⟩, parted, closed⟩
          rw [List.cons_append, skipped, leading.reads, List.length_cons, Nat.add_assoc column 1,
            Nat.add_comm 1]
      · have visible : Text.isBlank character = false := by simpa using blank
        obtain ⟨more, rest, quoted, parts, parted, closed, reads⟩ :=
          exists_taken (character == '"') others
        refine .inr ⟨[], character :: more, rest, quoted, by rw [parts]; rfl,
          ⟨List.forall_mem_nil _, ⟨character, more, rfl, visible⟩, fun column after => ?_⟩, parted,
          closed⟩
        rw [List.nil_append, List.cons_append, splitFrom_none visible, reads, List.length_cons,
          List.reverse_cons, Nat.add_assoc column 1, Nat.add_comm 1]
        rfl

/-- A text has no tokens, or its first token follows some blanks. -/
theorem splitFrom_none_cases (column : Nat) (text : Text) :
    splitFrom column none text = [] ∨
      ∃ blanks word rest, text = blanks ++ (word ++ rest) ∧
        (∀ character ∈ blanks, Text.isBlank character = true) ∧ word ≠ [] ∧ Parted rest ∧
        splitFrom column none text =
          ⟨word, column + blanks.length⟩ ::
            splitFrom (column + blanks.length + word.length) none rest := by
  rcases exists_leading text with
    empty | ⟨blanks, word, rest, quoted, rfl, leading, parted, closed⟩
  · exact .inl (empty column)
  · obtain ⟨first, more, rfl, -⟩ := leading.visible
    refine .inr ⟨blanks, _, rest, rfl, leading.blank, List.cons_ne_nil _ _, parted, ?_⟩
    rw [leading.reads]
    cases rest with
    | nil => simp [splitFrom, Unfinished.token]
    | cons next others =>
        rw [splitFrom_parted _ _ (closed (List.cons_ne_nil _ _)) parted, Unfinished.token,
          List.reverse_reverse]

/-- The token is a part of the text and starts at its column. -/
structure StandsIn (token : Token) (text : Text) : Prop where
  nonempty : token.text ≠ []
  place : ∃ before after, text = before ++ (token.text ++ after) ∧ before.length = token.start

namespace StandsIn

theorem append {token : Token} {text : Text} (stands : token.StandsIn text) (more : Text) :
    token.StandsIn (text ++ more) := by
  obtain ⟨before, after, parts, start⟩ := stands.place
  exact ⟨stands.nonempty, before, after ++ more, by simp [parts], start⟩

theorem stop_le {token : Token} {text : Text} (stands : token.StandsIn text) :
    token.stop ≤ text.length := by
  obtain ⟨before, after, parts, start⟩ := stands.place
  rw [stop, ← start, parts, List.length_append, List.length_append]
  omega

theorem slice {token : Token} {text : Text} (stands : token.StandsIn text) (line : Nat) :
    (token.span line).slice text = token.text := by
  obtain ⟨before, after, parts, start⟩ := stands.place
  rw [span, ← start, parts]
  exact Span.slice_append line before token.text after

end StandsIn

/-- The tokens from a column on stand in the text, counted from that column. -/
theorem mem_splitFrom {column : Nat} {text : Text} {token : Token}
    (member : token ∈ splitFrom column none text) :
    token.text ≠ [] ∧
      ∃ before after, text = before ++ (token.text ++ after) ∧
        column + before.length = token.start := by
  -- The text behind the first token is shorter, so the induction is on the length.
  induction measured : text.length using Nat.strongRecOn generalizing column text with
  | ind size ih =>
      rcases splitFrom_none_cases column text with
        empty | ⟨blanks, word, rest, parts, _, nonempty, _, tokens⟩
      · rw [empty] at member
        cases member
      · rw [tokens] at member
        rcases List.mem_cons.mp member with rfl | later
        · exact ⟨nonempty, blanks, rest, parts, rfl⟩
        · have shorter : rest.length < size := by
            have := List.length_pos_iff.mpr nonempty
            rw [← measured, parts, List.length_append, List.length_append]
            omega
          obtain ⟨visible, before, after, inner, start⟩ := ih rest.length shorter later rfl
          refine ⟨visible, blanks ++ (word ++ before), after, ?_, ?_⟩
          · rw [parts, inner]
            simp
          · rw [← start, List.length_append, List.length_append]
            omega

/-- The tokens of a text stand in it. -/
theorem standsIn_of_mem_split {text : Text} {token : Token} (member : token ∈ split text) :
    token.StandsIn text := by
  obtain ⟨nonempty, before, after, parts, start⟩ := mem_splitFrom member
  exact ⟨nonempty, before, after, parts, by omega⟩

end Token

namespace CodeLine

/-- The tokens of a code line stand in the line as it is written, comment and all. -/
theorem standsIn_of_mem {line : Line} {code : CodeLine} (read : ofLine? line = some code)
    {token : Token} (member : token ∈ code.command :: code.arguments) :
    token.StandsIn line.text := by
  obtain ⟨comment, parts, _⟩ := Token.exists_comment line.text
  rw [← (ofLine?_tokens read).2] at member
  rw [parts]
  exact (Token.standsIn_of_mem_split member).append comment

/-- Only blanks stand before the command, and a blank, the comment or nothing behind it. -/
theorem exists_indent {line : Line} {code : CodeLine} (read : ofLine? line = some code) :
    ∃ indent rest, line.text = indent ++ (code.command.text ++ rest) ∧
      indent.length = code.command.start ∧
      (∀ character ∈ indent, Text.isBlank character = true) ∧
      ∀ character ∈ rest.head?, Text.isBlank character = true ∨ character = '#' := by
  obtain ⟨comment, parts, sign⟩ := Token.exists_comment line.text
  have tokens := (ofLine?_tokens read).2
  rcases Token.splitFrom_none_cases 0 (Token.stripComment line.text) with
    empty | ⟨indent, word, rest, inner, blank, _, parted, first⟩
  · rw [Token.split, empty] at tokens
    cases tokens
  · rw [Token.split, first] at tokens
    obtain ⟨command, _⟩ := List.cons.inj tokens
    rw [← command]
    refine ⟨indent, rest ++ comment, ?_, (Nat.zero_add _).symm, blank, ?_⟩
    · rw [parts, inner]
      simp
    · intro character begins
      cases rest with
      | nil => exact .inr (sign character begins)
      | cons next others => exact .inl (parted character begins)

end CodeLine

end ItemFilter
