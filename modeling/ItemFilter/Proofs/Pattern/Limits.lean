/-
This file says for which reasons a pattern is refused that is not malformed: the reading comes to a
count with too many digits, or it comes to its end and some look behind has gone too far.
-/

import ItemFilter.Proofs.Pattern.Refusal
import ItemFilter.Proofs.Pattern.Wording

namespace ItemFilter.Pattern

/-- The reader comes step by step from a progress and the symbols before it to another one, and is
never nested too deep. -/
inductive Arrives [Host] : Progress → List Symbol → Progress → List Symbol → Prop
  | here (progress : Progress) (symbols : List Symbol) : Arrives progress symbols progress symbols
  | step {progress next last : Progress} {symbol : Symbol} {rest after left : List Symbol}
      (reads : readSymbol progress symbol rest = .ok (next, after))
      (shallow : next.depth ≤ Host.patternDepth) (later : Arrives next after last left) :
      Arrives progress (symbol :: rest) last left

section Runs

variable {progress reached last : Progress} {symbols left : List Symbol} {room : Nat}

/-- A reader with enough room reads on from wherever it arrives. -/
theorem Arrives.exists_readSymbols [Host] (arrives : Arrives progress symbols reached left)
    (enough : symbols.length ≤ room) :
    ∃ less, left.length ≤ less ∧
      readSymbols Host.patternDepth room progress symbols =
        readSymbols Host.patternDepth less reached left := by
  induction arrives generalizing room with
  | here => exact ⟨room, enough, rfl⟩
  | step reads shallow later ih =>
      cases room with
      | zero => cases enough
      | succ room =>
          have leaves := (passes_of_readSymbol reads).leaves.length_le
          rw [Progress.readSymbols_step reads shallow]
          exact ih (leaves.trans (Nat.le_of_succ_le_succ enough))

/-- A run of the reader arrives at the end, or at a count with too many digits, or meets what is
malformed. -/
theorem readSymbols_cases [Host] (room : Nat) (progress : Progress) (symbols : List Symbol) :
    (∃ last, readSymbols Host.patternDepth room progress symbols = .ok last ∧
        Arrives progress symbols last []) ∨
      readSymbols Host.patternDepth room progress symbols = .error .malformed ∨
        ∃ fault reached rest,
          readSymbols Host.patternDepth room progress symbols = .error (.numeral fault) ∧
          Arrives progress symbols reached (.plain '{' :: rest) ∧ StopsCounting rest fault := by
  induction room generalizing progress symbols with
  | zero =>
      cases symbols with
      | nil => exact .inl ⟨progress, rfl, .here progress []⟩
      | cons symbol rest => exact .inr (.inl rfl)
  | succ room ih =>
      cases symbols with
      | nil => exact .inl ⟨progress, rfl, .here progress []⟩
      | cons symbol rest =>
          rcases readSymbol_cases progress symbol rest with ⟨fault, rfl, stops⟩ | refuses
          · refine .inr (.inr ⟨fault, progress, rest, ?_, .here _ _, stops⟩)
            rw [readSymbols, readSymbol_of_stopsCounting stops]
            rfl
          · cases reads : readSymbol progress symbol rest with
            | error fault =>
                rw [reads] at refuses
                obtain rfl : fault = .malformed := refuses
                refine .inr (.inl ?_)
                rw [readSymbols, reads]
                rfl
            | ok step =>
                obtain ⟨next, after⟩ := step
                by_cases shallow : next.depth ≤ Host.patternDepth
                · rw [Progress.readSymbols_step reads shallow]
                  rcases ih next after with
                    ⟨last, done, arrives⟩ | malformed |
                    ⟨fault, reached, left, stopped, arrives, stops⟩
                  · exact .inl ⟨last, done, .step reads shallow arrives⟩
                  · exact .inr (.inl malformed)
                  · exact .inr (.inr
                      ⟨fault, reached, left, stopped, .step reads shallow arrives, stops⟩)
                · refine .inr (.inl ?_)
                  rw [readSymbols, reads]
                  exact if_pos (Nat.lt_of_not_le shallow)

theorem readSymbols_eq_ok_iff [Host] (enough : symbols.length ≤ room) :
    readSymbols Host.patternDepth room progress symbols = .ok last ↔
      Arrives progress symbols last [] := by
  constructor
  · intro reads
    rcases readSymbols_cases room progress symbols with
      ⟨other, done, arrives⟩ | malformed | ⟨fault, reached, rest, stopped, -⟩
    · rw [done] at reads
      rwa [← Except.ok.inj reads]
    · rw [malformed] at reads
      cases reads
    · rw [stopped] at reads
      cases reads
  · intro arrives
    obtain ⟨less, -, same⟩ := arrives.exists_readSymbols enough
    rw [same]
    cases less <;> rfl

theorem readSymbols_eq_numeral_iff [Host] (enough : symbols.length ≤ room)
    {fault : NumeralTooLong} :
    readSymbols Host.patternDepth room progress symbols = .error (.numeral fault) ↔
      ∃ reached rest, Arrives progress symbols reached (.plain '{' :: rest) ∧
        StopsCounting rest fault := by
  constructor
  · intro reads
    rcases readSymbols_cases room progress symbols with
      ⟨other, done, arrives⟩ | malformed | ⟨other, reached, rest, stopped, arrives, stops⟩
    · rw [done] at reads
      cases reads
    · rw [malformed] at reads
      cases reads
    · rw [stopped] at reads
      obtain rfl := Fault.numeral.inj (Except.error.inj reads)
      exact ⟨reached, rest, arrives, stops⟩
  · rintro ⟨reached, rest, arrives, stops⟩
    obtain ⟨less, some, same⟩ := arrives.exists_readSymbols enough
    cases less with
    | zero => cases some
    | succ less =>
        rw [same, readSymbols, readSymbol_of_stopsCounting stops]
        rfl

/-- At its end the reader knows of a look behind that goes too far if it has closed one. -/
theorem Arrives.isFar_iff [Host] (arrives : Arrives progress symbols last []) :
    last.isFar = true ↔
      progress.isFar = true ∨
        ∃ reached rest, Arrives progress symbols reached (.plain ')' :: rest) ∧
          reached.ClosesFar := by
  generalize ends : ([] : List Symbol) = left at arrives
  induction arrives with
  | here progress symbols =>
      subst ends
      refine ⟨.inl, ?_⟩
      rintro (known | ⟨reached, rest, arrives, -⟩)
      · exact known
      · cases arrives
  | @step progress next last symbol rest after left reads shallow later ih =>
      rw [ih ends, (passes_of_readSymbol reads).isFar]
      constructor
      · rintro ((known | ⟨rfl, closes⟩) | ⟨reached, left, arrives, closes⟩)
        · exact .inl known
        · exact .inr ⟨progress, rest, .here _ _, closes⟩
        · exact .inr ⟨reached, left, .step reads shallow arrives, closes⟩
      · rintro (known | ⟨reached, left, arrives, closes⟩)
        · exact .inl (.inl known)
        · cases arrives with
          | here => exact .inl (.inr ⟨rfl, closes⟩)
          | step also _ arrives =>
              rw [reads] at also
              obtain ⟨rfl, rfl⟩ := Prod.mk.inj (Except.ok.inj also)
              exact .inr ⟨reached, left, arrives, closes⟩

end Runs

/-- The reading of the pattern comes to a count with too many digits before it meets anything that
is malformed. -/
def CountsTooLong [Host] (text : Text) (fault : NumeralTooLong) : Prop :=
  ∃ symbols reached rest, symbols? text = some symbols ∧
    Arrives .start symbols reached (.plain '{' :: rest) ∧ StopsCounting rest fault

/-- All groups are closed, all tested groups exist, all looks behind have a fixed width, nothing is
nested too deep, and nothing is repeated in a template. -/
structure Progress.Complete [Host] (progress : Progress) : Prop where
  closed : progress.below = []
  tested : ∀ group ∈ progress.conditions, group ≤ progress.groups
  fixed : progress.isLoose = false
  shallow : progress.top.node.depth ≤ Host.patternDepth
  single : (progress.modes.template && progress.top.node.repeats) = false

/-- The pattern is read to its end and complete, but some look behind in it goes too far. -/
def LooksTooFar [Host] (text : Text) : Prop :=
  ∃ symbols last reached rest, symbols? text = some symbols ∧ Arrives .start symbols last [] ∧
    last.Complete ∧ Arrives .start symbols reached (.plain ')' :: rest) ∧ reached.ClosesFar

theorem Progress.complete_iff [Host] (progress : Progress) :
    progress.Complete ↔
      (progress.below.isEmpty && progress.conditions.all (· ≤ progress.groups) &&
        !progress.isLoose && decide (progress.top.node.depth ≤ Host.patternDepth) &&
        !(progress.modes.template && progress.top.node.repeats)) = true := by
  rw [Bool.and_eq_true, Bool.and_eq_true, Bool.and_eq_true, Bool.and_eq_true, List.isEmpty_iff,
    List.all_eq_true, decide_eq_true_eq, Bool.not_eq_true', Bool.not_eq_true']
  simp only [decide_eq_true_eq]
  constructor
  · rintro ⟨closed, tested, fixed, shallow, single⟩
    exact ⟨⟨⟨⟨closed, tested⟩, fixed⟩, shallow⟩, single⟩
  · rintro ⟨⟨⟨⟨closed, tested⟩, fixed⟩, shallow⟩, single⟩
    exact ⟨closed, tested, fixed, shallow, single⟩

theorem Progress.finish_eq_tooFarBehind_iff [Host] (progress : Progress) :
    progress.finish Host.patternDepth = .error .tooFarBehind ↔
      progress.Complete ∧ progress.isFar = true := by
  rw [complete_iff, finish]
  split_ifs with complete far
  · simp only [complete, far, and_self]
  · simp only [far, and_false, reduceCtorEq]
  · simp only [complete, false_and, Except.error.injEq, reduceCtorEq]

theorem Progress.finish_ne_numeral [Host] (progress : Progress) (fault : NumeralTooLong) :
    progress.finish Host.patternDepth ≠ .error (.numeral fault) := by
  unfold finish
  dsimp only
  split_ifs <;> simp

theorem bind_eq_error_iff {α β : Type} {first : Except Fault α} {next : α → Except Fault β}
    {fault : Fault} :
    first >>= next = .error fault ↔
      first = .error fault ∨ ∃ value, first = .ok value ∧ next value = .error fault := by
  cases first <;> simp [bind, Except.bind]

theorem parse_of_symbols? [Host] {text : Text} {symbols : List Symbol}
    (cut : symbols? text = some symbols) :
    parse text = readSymbols Host.patternDepth symbols.length .start symbols >>=
      Progress.finish Host.patternDepth := by
  rw [parse, parseWithin, readProgress, cut]

/-- A pattern is refused for the length of a count exactly when the reading comes to one with too
many digits. -/
theorem parse_eq_numeral_iff [Host] (text : Text) (fault : NumeralTooLong) :
    parse text = .error (.numeral fault) ↔ CountsTooLong text fault := by
  unfold CountsTooLong
  cases cut : symbols? text with
  | none => simp [parse, parseWithin, readProgress, cut, bind, Except.bind]
  | some symbols =>
      rw [parse_of_symbols? cut, bind_eq_error_iff,
        readSymbols_eq_numeral_iff (Nat.le_refl symbols.length)]
      simp [Progress.finish_ne_numeral]

/-- A pattern is refused for the reach of its looks behind exactly when one goes too far and nothing
else is wrong. -/
theorem parse_eq_tooFarBehind_iff [Host] (text : Text) :
    parse text = .error .tooFarBehind ↔ LooksTooFar text := by
  unfold LooksTooFar
  cases cut : symbols? text with
  | none => simp [parse, parseWithin, readProgress, cut, bind, Except.bind]
  | some symbols =>
      have reads :
          readSymbols Host.patternDepth symbols.length .start symbols ≠ .error .tooFarBehind := by
        rcases readSymbols_cases symbols.length .start symbols with
          ⟨last, done, -⟩ | malformed | ⟨fault, reached, rest, stopped, -⟩
        · simp [done]
        · simp [malformed]
        · simp [stopped]
      rw [parse_of_symbols? cut, bind_eq_error_iff]
      simp only [reads, false_or, readSymbols_eq_ok_iff (Nat.le_refl symbols.length),
        Progress.finish_eq_tooFarBehind_iff]
      constructor
      · rintro ⟨last, arrives, complete, far⟩
        rcases arrives.isFar_iff.mp far with known | ⟨reached, rest, closing, closes⟩
        · cases known
        · exact ⟨symbols, last, reached, rest, rfl, arrives, complete, closing, closes⟩
      · rintro ⟨_, last, reached, rest, ⟨⟩, arrives, complete, closing, closes⟩
        exact ⟨last, arrives, complete,
          arrives.isFar_iff.mpr (.inr ⟨reached, rest, closing, closes⟩)⟩

end ItemFilter.Pattern
