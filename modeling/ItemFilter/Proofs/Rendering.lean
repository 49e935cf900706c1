/-
This file writes a command and its arguments as a line and reads the line back.
-/

import ItemFilter.Proofs.Token

namespace ItemFilter

namespace Text

/-- Quotes, comment signs and backslashes are no blanks. -/
theorem ne_of_isBlank {character : Char} (blank : isBlank character = true) :
    character ≠ '"' ∧ character ≠ '#' ∧ character ≠ '\\' := by
  refine ⟨?_, ?_, ?_⟩ <;> rintro rfl <;> revert blank <;> decide

/-- Stripping a text keeps its first character that is no blank. -/
theorem strip_append {blanks : Text} (blank : ∀ character ∈ blanks, isBlank character = true)
    {first : Char} (visible : isBlank first = false) (rest : Text) :
    ∃ others, strip (blanks ++ first :: rest) = first :: others := by
  have front : (blanks ++ first :: rest).dropWhile isBlank = first :: rest := by
    rw [List.dropWhile_append_of_pos blank, List.dropWhile_cons_of_neg (by simp [visible])]
  have back : ∃ others, (first :: rest).reverse.dropWhile isBlank = others ++ [first] := by
    rw [List.reverse_cons, List.dropWhile_append]
    split
    · exact ⟨[], by simp [visible]⟩
    · exact ⟨_, rfl⟩
  obtain ⟨others, ends⟩ := back
  refine ⟨others.reverse, ?_⟩
  rw [strip, trim, front, ends, List.reverse_append]
  rfl

end Text

namespace Token

/-- A character that hides nothing is kept, unless it begins the comment. -/
theorem beforeComment_cons {inQuotes : Bool} {character : Char}
    (plain : ¬ (character = '\\' ∧ inQuotes = false)) (rest : Text) :
    beforeComment inQuotes (character :: rest) =
      if character = '"' then character :: beforeComment (!inQuotes) rest
      else if character = '#' ∧ inQuotes = false then []
      else character :: beforeComment inQuotes rest := by
  have visible : (character == '\\' && !inQuotes) = false := by
    simpa using plain
  cases rest <;> simp [beforeComment, visible]

/-- Nothing in the text hides or begins a comment, so the text behind it is looked at as if it stood
alone. -/
def Uncommented (text : Text) : Prop :=
  ∀ rest, beforeComment false (text ++ rest) = text ++ beforeComment false rest

theorem Uncommented.append {first second : Text} (left : Uncommented first)
    (right : Uncommented second) : Uncommented (first ++ second) := by
  intro rest
  rw [List.append_assoc, left, right, List.append_assoc]

theorem uncommented_of_plain {text : Text}
    (plain : ∀ character ∈ text, character ≠ '"' ∧ character ≠ '#' ∧ character ≠ '\\') :
    Uncommented text := by
  intro rest
  induction text with
  | nil => rfl
  | cons character others ih =>
      obtain ⟨⟨quote, comment, backslash⟩, later⟩ := List.forall_mem_cons.mp plain
      rw [List.cons_append, beforeComment_cons (fun hides => backslash hides.1), ih later]
      simp [quote, comment]

/-- A quoted value is passed over up to its closing quote. -/
theorem beforeComment_inQuotes {value : Text} (closed : '"' ∉ value) (rest : Text) :
    beforeComment true (value ++ '"' :: rest) = value ++ '"' :: beforeComment false rest := by
  induction value with
  | nil => rw [List.nil_append, beforeComment_cons (by simp)]; rfl
  | cons character others ih =>
      rw [List.mem_cons, not_or] at closed
      have quote : character ≠ '"' := Ne.symm closed.1
      rw [List.cons_append, beforeComment_cons (by simp), ih closed.2]
      simp [quote]

theorem uncommented_quoted {value : Text} (closed : '"' ∉ value) :
    Uncommented ('"' :: value ++ ['"']) := by
  intro rest
  have inside := beforeComment_inQuotes closed rest
  simp only [List.cons_append, List.append_assoc, List.nil_append]
  rw [beforeComment_cons (by decide), if_pos rfl]
  exact congrArg _ inside

/-- Blanks move on to the next column. -/
theorem splitFrom_blanks {blanks : Text}
    (blank : ∀ character ∈ blanks, Text.isBlank character = true) (column : Nat) (rest : Text) :
    splitFrom column none (blanks ++ rest) = splitFrom (column + blanks.length) none rest := by
  induction blanks generalizing column with
  | nil => rfl
  | cons character others ih =>
      obtain ⟨first, later⟩ := List.forall_mem_cons.mp blank
      rw [List.cons_append, splitFrom, if_pos first, ih later, List.length_cons]
      congr 1
      omega

/-- Characters that are no quotes, and blanks only between quotes, belong to the begun token. -/
theorem splitFrom_begun {text : Text} (inQuotes : Bool)
    (kept : ∀ character ∈ text,
      character ≠ '"' ∧ (Text.isBlank character = true → inQuotes = true))
    (column start : Nat) (reversed rest : Text) :
    splitFrom column (some ⟨reversed, start, inQuotes⟩) (text ++ rest) =
      splitFrom (column + text.length) (some ⟨text.reverse ++ reversed, start, inQuotes⟩) rest := by
  induction text generalizing column reversed with
  | nil => rfl
  | cons character others ih =>
      obtain ⟨⟨quote, blank⟩, later⟩ := List.forall_mem_cons.mp kept
      have stays : ¬ (Text.isBlank character && !inQuotes) = true := by
        intro ends
        simp only [Bool.and_eq_true, Bool.not_eq_true'] at ends
        rw [blank ends.1] at ends
        exact Bool.noConfusion ends.2
      have pushed : Unfinished.push ⟨reversed, start, inQuotes⟩ character =
          ⟨character :: reversed, start, inQuotes⟩ := by
        simp [Unfinished.push, quote]
      rw [List.cons_append, splitFrom, if_neg stays, pushed, ih later, List.length_cons,
        List.reverse_cons, List.append_assoc]
      congr 1
      omega

/-- A quote closes the one that the begun token has open. -/
theorem splitFrom_quote (column start : Nat) (reversed rest : Text) :
    splitFrom column (some ⟨reversed, start, true⟩) ('"' :: rest) =
      splitFrom (column + 1) (some ⟨'"' :: reversed, start, false⟩) rest := by
  simp [splitFrom, Unfinished.push]

/-- The text ends, or goes on with a blank. -/
def Parted (rest : Text) : Prop :=
  ∀ character ∈ rest.head?, Text.isBlank character = true

/-- A token without an open quote ends where the text does or at a blank. -/
theorem splitFrom_parted (column : Nat) (begun : Unfinished) (closed : begun.inQuotes = false)
    {rest : Text} (parted : Parted rest) :
    splitFrom column (some begun) rest = begun.token :: splitFrom column none rest := by
  cases rest with
  | nil => rfl
  | cons character others =>
      have blank : Text.isBlank character = true := parted character rfl
      simp [splitFrom, blank, closed]

/-- Before a blank or at the end, the text is read as one token. -/
def Whole (text : Text) : Prop :=
  ∀ column rest, Parted rest →
    splitFrom column none (text ++ rest) =
      ⟨text, column⟩ :: splitFrom (column + text.length) none rest

/-- A character that is no blank begins a token. -/
theorem splitFrom_none {first : Char} (visible : Text.isBlank first = false) (column : Nat)
    (rest : Text) :
    splitFrom column none (first :: rest) =
      splitFrom (column + 1) (some ⟨[first], column, first == '"'⟩) rest := by
  have begun : Unfinished.push ⟨[], column, false⟩ first = ⟨[first], column, first == '"'⟩ := by
    by_cases quote : first = '"' <;> simp [Unfinished.push, quote]
  rw [splitFrom, visible]
  simp only [begun, Bool.false_eq_true, if_false]

end Token

/-- A line whose first visible character begins no comment is a code line with the tokens of its
text. -/
theorem CodeLine.ofLine?_of_tokens {line : Line} {first : Char} {others : Text} {command : Token}
    {arguments : List Token} (stripped : line.text.strip = first :: others) (code : first ≠ '#')
    (tokens : Token.split (Token.stripComment line.text) = command :: arguments) :
    ofLine? line = some ⟨line, command, arguments⟩ := by
  unfold ofLine?
  rw [stripped, tokens]
  split
  · next empty => cases empty
  · next comment => exact absurd (List.cons.inj comment).1 code
  · rfl

/-- A word that needs no quotes. -/
structure BareWord where
  text : Text
  nonempty : text ≠ []
  plain : ∀ character ∈ text,
    Text.isBlank character = false ∧ character ≠ '"' ∧ character ≠ '#' ∧ character ≠ '\\'

namespace BareWord

theorem uncommented (word : BareWord) : Token.Uncommented word.text :=
  Token.uncommented_of_plain fun character member => (word.plain character member).2

theorem whole (word : BareWord) : Token.Whole word.text := by
  intro column rest parted
  obtain ⟨first, others, text⟩ := List.exists_cons_of_ne_nil word.nonempty
  have plain := word.plain
  rw [text] at plain ⊢
  obtain ⟨⟨visible, quote, _⟩, later⟩ := List.forall_mem_cons.mp plain
  have kept : ∀ character ∈ others,
      character ≠ '"' ∧ (Text.isBlank character = true → false = true) := by
    intro character member
    obtain ⟨visible, quote, _⟩ := later character member
    exact ⟨quote, fun blank => by rw [visible] at blank; exact blank⟩
  have unquoted : (first == '"') = false := by simp [quote]
  rw [List.cons_append, Token.splitFrom_none visible, unquoted, Token.splitFrom_begun false kept,
    Token.splitFrom_parted _ _ rfl parted]
  simp [Token.Unfinished.token, Nat.add_comm, Nat.add_left_comm]

theorem isQuoted_text (word : BareWord) : Token.isQuoted word.text = false := by
  obtain ⟨first, others, text⟩ := List.exists_cons_of_ne_nil word.nonempty
  have quote : first ≠ '"' := (word.plain first (by simp [text])).2.1
  simp [Token.isQuoted, text, quote]

end BareWord

/-- An argument as it is meant: a bare word, or any value without a quote in it. -/
inductive Argument where
  | bare (word : BareWord)
  | quoted (value : Text) (closed : '"' ∉ value)

namespace Argument

/-- The argument as it is written. -/
def text : Argument → Text
  | .bare word => word.text
  | .quoted value _ => '"' :: value ++ ['"']

def value : Argument → Text
  | .bare word => word.text
  | .quoted value _ => value

theorem uncommented (argument : Argument) : Token.Uncommented argument.text := by
  cases argument with
  | bare word => exact word.uncommented
  | quoted value closed => exact Token.uncommented_quoted closed

theorem whole (argument : Argument) : Token.Whole argument.text := by
  cases argument with
  | bare word => exact word.whole
  | quoted value closed =>
      intro column rest parted
      have kept : ∀ character ∈ value,
          character ≠ '"' ∧ (Text.isBlank character = true → true = true) := by
        intro character member
        exact ⟨fun quote => closed (quote ▸ member), fun _ => rfl⟩
      have joined : text (.quoted value closed) ++ rest = '"' :: (value ++ '"' :: rest) := by
        simp [text]
      rw [joined, Token.splitFrom_none (by decide), beq_self_eq_true,
        Token.splitFrom_begun true kept, Token.splitFrom_quote,
        Token.splitFrom_parted _ _ rfl parted]
      simp [Token.Unfinished.token, text, Nat.add_comm, Nat.add_left_comm]

/-- A token with the text of an argument has its value between the quotes. -/
theorem unquoted_text (argument : Argument) (start : Nat) :
    Token.unquoted ⟨argument.text, start⟩ = argument.value := by
  cases argument with
  | bare word => simp [Token.unquoted, text, value, word.isQuoted_text]
  | quoted value closed =>
      have last : ('"' :: value ++ ['"']).getLast? = some '"' := List.getLast?_concat
      have isQuoted : Token.isQuoted ('"' :: value ++ ['"']) = true := by
        rw [Token.isQuoted, last]
        simp
      rw [Token.unquoted, text, if_pos isQuoted]
      exact List.dropLast_concat

end Argument

/-- A text of blanks only. -/
structure Blanks where
  text : Text
  blank : ∀ character ∈ text, Text.isBlank character = true

theorem Blanks.uncommented (blanks : Blanks) : Token.Uncommented blanks.text :=
  Token.uncommented_of_plain fun character member =>
    Text.ne_of_isBlank (blanks.blank character member)

/-- One or more blanks. -/
structure Gap extends Blanks where
  nonempty : text ≠ []

/-- A command and its arguments with the blanks around them and the comment behind them. -/
structure Rendering where
  indent : Blanks
  command : BareWord
  arguments : List (Gap × Argument)
  trail : Blanks
  comment : Option Text

namespace Rendering

/-- The arguments, each behind its gap. -/
def argumentText (arguments : List (Gap × Argument)) : Text :=
  arguments.flatMap fun (gap, argument) => gap.text ++ argument.text

/-- The line up to the comment. -/
def code (rendering : Rendering) : Text :=
  rendering.indent.text ++ (rendering.command.text ++
    (argumentText rendering.arguments ++ rendering.trail.text))

/-- The whole line. -/
def text (rendering : Rendering) : Text :=
  rendering.code ++
    match rendering.comment with
    | none => []
    | some comment => '#' :: comment

theorem uncommented_argumentText (arguments : List (Gap × Argument)) :
    Token.Uncommented (argumentText arguments) := by
  induction arguments with
  | nil => exact fun rest => rfl
  | cons first others ih => exact (first.1.uncommented.append first.2.uncommented).append ih

/-- The comment is all that is dropped from the line. -/
theorem stripComment_text (rendering : Rendering) :
    Token.stripComment rendering.text = rendering.code := by
  have uncommented : Token.Uncommented rendering.code :=
    rendering.indent.uncommented.append (rendering.command.uncommented.append
      ((uncommented_argumentText rendering.arguments).append rendering.trail.uncommented))
  rw [Token.stripComment, text, uncommented]
  cases rendering.comment with
  | none => exact List.append_nil _
  | some comment =>
      have dropped : Token.beforeComment false ('#' :: comment) = [] :=
        Token.beforeComment_cons (by decide) comment
      rw [dropped, List.append_nil]

/-- What follows a token of the line is a gap, the blanks at the end or nothing. -/
theorem parted_argumentText (arguments : List (Gap × Argument)) (trail : Blanks) :
    Token.Parted (argumentText arguments ++ trail.text) := by
  intro character member
  cases arguments with
  | nil => exact trail.blank character (List.mem_of_mem_head? member)
  | cons first others =>
      obtain ⟨gap, argument⟩ := first
      obtain ⟨blank, blanks, split⟩ := List.exists_cons_of_ne_nil gap.nonempty
      have same : blank = character := by simpa [argumentText, split] using member
      exact gap.blank character (by simp [split, same])

/-- The arguments are read back one by one. -/
theorem splitFrom_argumentText (column : Nat) (arguments : List (Gap × Argument))
    (trail : Blanks) :
    (Token.splitFrom column none (argumentText arguments ++ trail.text)).map Token.text =
      arguments.map fun (_, argument) => argument.text := by
  induction arguments generalizing column with
  | nil =>
      have ended := Token.splitFrom_blanks trail.blank column []
      rw [List.append_nil] at ended
      rw [argumentText, List.flatMap_nil, List.nil_append, ended]
      rfl
  | cons first others ih =>
      obtain ⟨gap, argument⟩ := first
      have pieces : argumentText ((gap, argument) :: others) ++ trail.text =
          gap.text ++ (argument.text ++ (argumentText others ++ trail.text)) := by
        simp [argumentText]
      rw [pieces, Token.splitFrom_blanks gap.blank,
        argument.whole _ _ (parted_argumentText others trail), List.map_cons, ih, List.map_cons]

/-- The tokens of the line are the command and the arguments. -/
theorem split_code (rendering : Rendering) :
    ∃ arguments, Token.split rendering.code =
        ⟨rendering.command.text, rendering.indent.text.length⟩ :: arguments ∧
      arguments.map Token.text = rendering.arguments.map fun (_, argument) => argument.text := by
  rw [Token.split, code, Token.splitFrom_blanks rendering.indent.blank, Nat.zero_add,
    rendering.command.whole _ _ (parted_argumentText rendering.arguments rendering.trail)]
  exact ⟨_, rfl, splitFrom_argumentText _ rendering.arguments rendering.trail⟩

/-- A rendered line is read back: the command, the arguments as they are written, and their
values. -/
theorem ofLine?_text (number : Nat) (rendering : Rendering) :
    ∃ code, CodeLine.ofLine? ⟨number, rendering.text⟩ = some code ∧
      code.command.text = rendering.command.text ∧
      code.argumentTexts = rendering.arguments.map (fun (_, argument) => argument.text) ∧
      code.arguments.map Token.unquoted =
        rendering.arguments.map fun (_, argument) => argument.value := by
  obtain ⟨arguments, tokens, texts⟩ := rendering.split_code
  refine ⟨⟨⟨number, rendering.text⟩, ⟨rendering.command.text, rendering.indent.text.length⟩,
    arguments⟩, ?_, rfl, texts, ?_⟩
  -- The command is the first thing to be seen, so the line is neither empty nor a comment.
  · obtain ⟨first, others, command⟩ := List.exists_cons_of_ne_nil rendering.command.nonempty
    obtain ⟨visible, _, noComment, _⟩ := rendering.command.plain first (by simp [command])
    have begins : ∃ rest, rendering.text = rendering.indent.text ++ first :: rest := by
      rw [text, code, command, List.append_assoc, List.cons_append, List.cons_append]
      exact ⟨_, rfl⟩
    obtain ⟨rest, begins⟩ := begins
    obtain ⟨_, stripped⟩ := Text.strip_append rendering.indent.blank visible rest
    rw [← begins] at stripped
    exact CodeLine.ofLine?_of_tokens stripped noComment (rendering.stripComment_text ▸ tokens)
  -- The value of a token does not depend on its column.
  · have values : arguments.map Token.unquoted =
        (arguments.map Token.text).map fun text => Token.unquoted ⟨text, 0⟩ := by
      rw [List.map_map]
      rfl
    rw [values, texts, List.map_map]
    exact List.map_congr_left fun pair _ => pair.2.unquoted_text 0

/-- A quoted path that ends with a backslash, and a comment right behind it. -/
example : ∃ rendering : Rendering, rendering.text = "P \"C:\\\"# x".toList :=
  ⟨⟨⟨[], by simp⟩, ⟨['P'], by simp, List.forall_mem_singleton.mpr (by decide)⟩,
    [(⟨⟨[' '], List.forall_mem_singleton.mpr (by decide)⟩, by simp⟩,
      .quoted "C:\\".toList (by decide))],
    ⟨[], by simp⟩, some " x".toList⟩, rfl⟩

end Rendering

end ItemFilter
