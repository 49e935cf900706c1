/-
This file says where the tokens of a line stand: one after the other, with a gap between them.
-/

import ItemFilter.Token

namespace ItemFilter

namespace Token

/-- The right token starts after a gap behind the left one. -/
def IsBefore (left right : Token) : Prop :=
  left.stop < right.start

theorem IsBefore.start_lt {left right : Token} (before : left.IsBefore right) :
    left.start < right.start := by
  unfold IsBefore stop at before
  omega

/-- The column where the next token starts at the earliest. -/
def earliest (column : Nat) (current : Option Unfinished) : Nat :=
  match current with
  | none => column
  | some begun => begun.start

/-- The begun token reaches up to the column. -/
def Reaches (column : Nat) (current : Option Unfinished) : Prop :=
  match current with
  | none => True
  | some begun => begun.start + begun.reversed.length = column

theorem Unfinished.stop_token (begun : Unfinished) :
    begun.token.stop = begun.start + begun.reversed.length := by
  simp [token, Token.stop]

/-- A character moves the end of the begun token and the column together. -/
theorem reaches_push {column : Nat} {begun : Unfinished} (character : Char)
    (reaches : Reaches column (some begun)) :
    Reaches (column + 1) (some (begun.push character)) := by
  change begun.start + begun.reversed.length = column at reaches
  change begun.start + (begun.reversed.length + 1) = column + 1
  omega

/-- The tokens from a column on stand in order, and none of them starts too early. -/
theorem splitFrom_ordered (column : Nat) (current : Option Unfinished) (text : Text)
    (reaches : Reaches column current) :
    (splitFrom column current text).Pairwise IsBefore ∧
      ∀ token ∈ splitFrom column current text, earliest column current ≤ token.start := by
  induction text generalizing column current with
  | nil =>
      cases current with
      | none => exact ⟨.nil, fun token member => by cases member⟩
      | some begun =>
          refine ⟨List.pairwise_singleton _ _, ?_⟩
          intro token member
          obtain rfl := List.mem_singleton.mp member
          exact Nat.le_refl begun.start
  | cons character rest ih =>
      cases current with
      | none =>
          by_cases blank : Text.isBlank character = true
          · have later := ih (column + 1) none trivial
            simp only [splitFrom, blank, if_true]
            refine ⟨later.1, fun token member => ?_⟩
            have start := later.2 token member
            change column + 1 ≤ token.start at start
            change column ≤ token.start
            omega
          · have empty : Reaches column (some ⟨[], column, false⟩) := Nat.add_zero column
            simp only [splitFrom, blank]
            exact ih (column + 1) _ (reaches_push character empty)
      | some begun =>
          by_cases ends : (Text.isBlank character && !begun.inQuotes) = true
          · have later := ih (column + 1) none trivial
            have reached : begun.start + begun.reversed.length = column := reaches
            simp only [splitFrom, ends, if_true]
            constructor
            · refine List.pairwise_cons.mpr ⟨fun token member => ?_, later.1⟩
              have start := later.2 token member
              change column + 1 ≤ token.start at start
              change begun.token.stop < token.start
              rw [Unfinished.stop_token]
              omega
            · intro token member
              change begun.start ≤ token.start
              rcases List.mem_cons.mp member with rfl | member
              · exact Nat.le_refl begun.start
              · have start := later.2 token member
                change column + 1 ≤ token.start at start
                omega
          · simp only [splitFrom, ends]
            exact ih (column + 1) _ (reaches_push character reaches)

/-- The tokens of a text stand in order. -/
theorem split_ordered (text : Text) : (split text).Pairwise IsBefore :=
  (splitFrom_ordered 0 none text trivial).1

end Token

namespace CodeLine

/-- The tokens of a code line are those of its text before the comment. -/
theorem ofLine?_tokens {line : Line} {code : CodeLine} (read : ofLine? line = some code) :
    code.line = line ∧
      Token.split (Token.stripComment line.text) = code.command :: code.arguments := by
  unfold ofLine? at read
  split at read
  · cases read
  · cases read
  · split at read
    · cases read
    · next command arguments tokens =>
        obtain rfl := Option.some.inj read
        exact ⟨rfl, tokens⟩

/-- The command stands before all arguments. -/
theorem command_before {line : Line} {code : CodeLine} (read : ofLine? line = some code) :
    ∀ argument ∈ code.arguments, code.command.IsBefore argument := by
  have ordered := Token.split_ordered (Token.stripComment line.text)
  rw [(ofLine?_tokens read).2] at ordered
  exact (List.pairwise_cons.mp ordered).1

/-- The arguments stand in order. -/
theorem arguments_ordered {line : Line} {code : CodeLine} (read : ofLine? line = some code) :
    code.arguments.Pairwise Token.IsBefore := by
  have ordered := Token.split_ordered (Token.stripComment line.text)
  rw [(ofLine?_tokens read).2] at ordered
  exact (List.pairwise_cons.mp ordered).2

end CodeLine

end ItemFilter
