/-
This file follows the search for a comment as a machine. Each character leads from one state to the
next, or it begins the comment.
-/

import ItemFilter.Proofs.Rendering

namespace ItemFilter.Token

/-- The search stands in the code, between quotes, or behind a backslash that hides a character. -/
inductive Scan where
  | code
  | quoted
  | hidden
deriving DecidableEq

namespace Scan

/-- The state behind a character that does not begin the comment. -/
def next (state : Scan) (character : Char) : Option Scan :=
  match state with
  | .hidden => some .code
  | .quoted => some (if character = '"' then .code else .quoted)
  | .code =>
      if character = '\\' then some .hidden
      else if character = '"' then some .quoted
      else if character = '#' then none
      else some .code

/-- The text before the comment. -/
def cut (state : Scan) : Text → Text
  | [] => []
  | character :: rest =>
      match state.next character with
      | none => []
      | some after => character :: cut after rest

def ofQuotes (inQuotes : Bool) : Scan :=
  if inQuotes then .quoted else .code

/-- The machine cuts where the comment begins. -/
theorem cut_ofQuotes (inQuotes : Bool) (text : Text) :
    (ofQuotes inQuotes).cut text = beforeComment inQuotes text := by
  induction inQuotes, text using beforeComment.induct with
  | case1 inQuotes => rfl
  | case2 inQuotes character hides =>
      obtain ⟨rfl, rfl⟩ : character = '\\' ∧ inQuotes = false := by simpa using hides
      rfl
  | case3 inQuotes character hides hidden rest ih =>
      obtain ⟨rfl, rfl⟩ : character = '\\' ∧ inQuotes = false := by simpa using hides
      exact congrArg (fun kept => '\\' :: hidden :: kept) ih
  | case4 inQuotes character rest shown quote ih =>
      obtain rfl : character = '"' := by simpa using quote
      rw [beforeComment_cons (by simp), if_pos rfl, ← ih]
      cases inQuotes <;> rfl
  | case5 inQuotes character rest shown other comment =>
      obtain ⟨rfl, rfl⟩ : character = '#' ∧ inQuotes = false := by simpa using comment
      rw [beforeComment_cons (by decide)]
      rfl
  | case6 inQuotes character rest shown other inside ih =>
      simp only [Bool.and_eq_true, beq_iff_eq, Bool.not_eq_true'] at shown other inside
      rw [beforeComment_cons shown, if_neg other, if_neg inside, ← ih]
      cases inQuotes with
      | true => simp [cut, next, ofQuotes, other]
      | false =>
          have backslash : character ≠ '\\' := fun same => shown ⟨same, rfl⟩
          have sign : character ≠ '#' := fun same => inside ⟨same, rfl⟩
          simp [cut, next, ofQuotes, other, backslash, sign]

/-- The text holds no comment for a search that starts in the state. -/
def Clean (state : Scan) (text : Text) : Prop :=
  state.cut text = text

theorem clean_nil (state : Scan) : state.Clean [] := rfl

theorem clean_cons_iff (state : Scan) (character : Char) (rest : Text) :
    state.Clean (character :: rest) ↔
      ∃ after, state.next character = some after ∧ after.Clean rest := by
  unfold Clean
  cases found : state.next character with
  | none => simp [cut, found]
  | some after => simp [cut, found]

/-- What stands before the comment holds no comment. -/
theorem clean_cut (state : Scan) (text : Text) : state.Clean (state.cut text) := by
  induction text generalizing state with
  | nil => exact clean_nil state
  | cons character rest ih =>
      cases found : state.next character with
      | none =>
          rw [cut, found]
          exact clean_nil state
      | some after =>
          rw [cut, found]
          exact (clean_cons_iff state character _).mpr ⟨after, found, ih after⟩

/-- A blank is hidden by a backslash and changes nothing else. -/
def passBlank : Scan → Scan
  | .hidden => .code
  | state => state

theorem passBlank_passBlank (state : Scan) : state.passBlank.passBlank = state.passBlank := by
  cases state <;> rfl

/-- So is any other character without a meaning of its own. -/
theorem next_of_plain (state : Scan) {character : Char}
    (plain : character ≠ '"' ∧ character ≠ '#' ∧ character ≠ '\\') :
    state.next character = some state.passBlank := by
  obtain ⟨quote, comment, backslash⟩ := plain
  cases state <;> simp [next, passBlank, quote, comment, backslash]

theorem next_of_isBlank (state : Scan) {character : Char}
    (blank : Text.isBlank character = true) : state.next character = some state.passBlank :=
  state.next_of_plain (Text.ne_of_isBlank blank)

end Scan

end ItemFilter.Token
