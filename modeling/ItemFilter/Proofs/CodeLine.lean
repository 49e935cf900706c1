/-
This file says which lines hold code: those with a token before the comment. A look at the first
visible character of a line settles many of them without a search for tokens, and never otherwise
than the search would.
-/

import Mathlib.Data.List.TakeWhile
import ItemFilter.Proofs.Truncation

namespace ItemFilter

/-- Stripping a text shows nothing but what stands first behind its blanks. -/
theorem Text.exists_blanks (text : Text) :
    ∃ blanks rest, text = blanks ++ rest ∧
      (∀ character ∈ blanks, isBlank character = true) ∧ text.strip.head? = rest.head? := by
  have parts : text = text.takeWhile isBlank ++ text.dropWhile isBlank :=
    List.takeWhile_append_dropWhile.symm
  have blank : ∀ character ∈ text.takeWhile isBlank, isBlank character = true :=
    fun character => List.mem_takeWhile_imp
  refine ⟨text.takeWhile isBlank, text.dropWhile isBlank, parts, blank, ?_⟩
  cases shown : text.dropWhile isBlank with
  | nil =>
      rw [strip, trim, shown]
      rfl
  | cons first rest =>
      have visible : isBlank first = false := by
        have stops := List.head?_dropWhile_not isBlank text
        rw [shown] at stops
        simpa using stops
      obtain ⟨others, stripped⟩ := strip_append blank visible rest
      rw [parts, shown, stripped]
      rfl

/-- Blanks neither hide the sign of a comment nor quote it. -/
theorem Token.stripComment_blanks {blanks : Text}
    (blank : ∀ character ∈ blanks, Text.isBlank character = true) (rest : Text) :
    stripComment (blanks ++ rest) = blanks ++ stripComment rest :=
  uncommented_of_plain (fun character member => Text.ne_of_isBlank (blank character member)) rest

namespace CodeLine

/-- A line that shows nothing, or the sign of a comment first, has no tokens before the comment. -/
theorem split_eq_nil_of_strip {text : Text}
    (skipped : text.strip.head? = none ∨ text.strip.head? = some '#') :
    Token.split (Token.stripComment text) = [] := by
  obtain ⟨blanks, rest, rfl, blank, shown⟩ := text.exists_blanks
  have nothing : Token.stripComment rest = [] := by
    rw [shown] at skipped
    rcases skipped with ends | begins
    · rw [List.head?_eq_none_iff.mp ends]
      rfl
    · obtain ⟨comment, rfl⟩ := List.head?_eq_some_iff.mp begins
      rw [Token.stripComment, Token.beforeComment_cons (by decide)]
      rfl
  rw [Token.stripComment_blanks blank, nothing, Token.split, Token.splitFrom_blanks blank]
  rfl

/-- A line is read by its tokens before the comment alone. -/
theorem ofLine?_eq (line : Line) :
    ofLine? line =
      match Token.split (Token.stripComment line.text) with
      | [] => none
      | command :: arguments => some ⟨line, command, arguments⟩ := by
  unfold ofLine?
  split
  · next empty => rw [split_eq_nil_of_strip (.inl (by rw [empty]; rfl))]
  · next comment => rw [split_eq_nil_of_strip (.inr (by rw [comment]; rfl))]
  · rfl

/-- A line is no code line exactly when it has no tokens before the comment. Otherwise its command
and its arguments are these tokens. -/
theorem ofLine?_agrees_with_split (line : Line) :
    (ofLine? line = none ↔ Token.split (Token.stripComment line.text) = []) ∧
      ∀ code, ofLine? line = some code →
        code.line = line ∧ code.tokens = Token.split (Token.stripComment line.text) := by
  rw [ofLine?_eq]
  cases Token.split (Token.stripComment line.text) with
  | nil => simp
  | cons command arguments => simp [tokens]

/-- Behind the separators of two lines stands a comment and a command. The first sign in the other
line is quoted, the second one is hidden, and the third one begins the comment. -/
theorem ofLine?_agrees_with_split_indented :
    let comment : Line := ⟨3, "\t\x1c# Show".toList⟩
    let line : Line := ⟨4, "\t\x1cShow \"#\" \\#1 #2".toList⟩
    (ofLine? comment = none ∧ Token.split (Token.stripComment comment.text) = []) ∧
      ∃ code, ofLine? line = some code ∧ code.line = line ∧
        code.tokens = Token.split (Token.stripComment line.text) ∧
        code.tokens = [⟨"Show".toList, 2⟩, ⟨"\"#\"".toList, 7⟩, ⟨"\\#1".toList, 11⟩] := by
  intro comment line
  have passed : ofLine? comment = none := by decide +kernel
  have read : ofLine? line = some ⟨line, ⟨"Show".toList, 2⟩,
      [⟨"\"#\"".toList, 7⟩, ⟨"\\#1".toList, 11⟩]⟩ := by
    decide +kernel
  obtain ⟨same, split⟩ := (ofLine?_agrees_with_split line).2 _ read
  exact ⟨⟨passed, (ofLine?_agrees_with_split comment).1.mp passed⟩, _, read, same, split, rfl⟩

end CodeLine

end ItemFilter
