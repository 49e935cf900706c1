/-
This file says what a step of the reader can end with. It leaves an end of the symbols, or refuses
them as malformed, and only a count with too many digits stops it for another reason.
-/

import Mathlib.Tactic.SplitIfs
import ItemFilter.Proofs.Pattern.Move

namespace ItemFilter.Pattern

/-- The reader refuses nothing but what is malformed, and what it returns has the property. -/
def Refuses {α : Type} (has : α → Prop) : Except Fault α → Prop
  | .ok value => has value
  | .error fault => fault = .malformed

section Refusal

variable {α β : Type} {has : α → Prop} {gets : β → Prop}

theorem Refuses.bind {first : Except Fault α} {next : α → Except Fault β}
    (refuses : Refuses has first) (later : ∀ value, has value → Refuses gets (next value)) :
    Refuses gets (first >>= next) := by
  cases first with
  | ok value => exact later value refuses
  | error fault => exact refuses

theorem Refuses.mono {also : α → Prop} {result : Except Fault α} (refuses : Refuses has result)
    (holds : ∀ value, has value → also value) : Refuses also result := by
  cases result with
  | ok value => exact holds value refuses
  | error fault => exact refuses

theorem Refuses.of_ok {result : Except Fault α} (refuses : Refuses (fun _ => True) result)
    (holds : ∀ value, result = .ok value → has value) : Refuses has result := by
  cases result with
  | ok value => exact holds value rfl
  | error fault => exact refuses

end Refusal

section Leaves

theorem refuses_readHex (count : Nat) (symbols : List Symbol) :
    Refuses (fun _ => True) (readHex count symbols) := by
  unfold readHex
  dsimp only
  split
  · split_ifs
    · trivial
    · rfl
  · rfl

theorem refuses_readNamed [Host] (symbols : List Symbol) :
    Refuses (fun _ => True) (readNamed symbols) := by
  unfold readNamed
  split
  · split
    · split
      · trivial
      · rfl
    · rfl
  · rfl

theorem refuses_octalCode (digits : Text) : Refuses (fun _ => True) (octalCode digits) := by
  unfold octalCode
  split_ifs
  · trivial
  · rfl

theorem refuses_readCode [Host] (character : Char) (symbols : List Symbol) :
    Refuses (fun _ => True) (readCode character symbols) := by
  unfold readCode
  split
  · trivial
  · split_ifs
    · exact refuses_readHex _ _
    · exact refuses_readHex _ _
    · exact refuses_readHex _ _
    · exact refuses_readNamed _
    · rfl
    · trivial

theorem refuses_readMember [Host] (symbol : Symbol) (symbols : List Symbol) :
    Refuses (fun _ => True) (readMember symbol symbols) := by
  unfold readMember
  split
  · trivial
  · split
    · trivial
    · split_ifs
      · trivial
      · exact (refuses_octalCode _).bind fun _ _ => trivial
      · exact (refuses_readCode _ _).bind fun _ _ => trivial

theorem refuses_rangeOf (first last : Member) : Refuses (fun _ => True) (rangeOf first last) := by
  unfold rangeOf
  split
  · split_ifs
    · trivial
    · rfl
  · rfl

theorem refuses_readMembers [Host] (room : Nat) (members : List Member) (symbols : List Symbol) :
    Refuses (fun _ => True) (readMembers room members symbols) := by
  induction room generalizing members symbols with
  | zero => rfl
  | succ room ih =>
      cases symbols with
      | nil => rfl
      | cons symbol rest =>
          unfold readMembers
          split_ifs
          · trivial
          · refine (refuses_readMember symbol rest).bind fun read _ => ?_
            dsimp only
            split
            · trivial
            · refine (refuses_readMember _ _).bind fun last _ => ?_
              exact (refuses_rangeOf _ _).bind fun _ _ => ih _ _
            · rfl
            · exact ih _ _

theorem refuses_readBracket [Host] (symbols : List Symbol) :
    Refuses (fun _ => True) (readBracket symbols) := by
  unfold readBracket
  split
  · exact (refuses_readMembers _ _ _).bind fun _ _ => trivial
  · exact (refuses_readMembers _ _ _).bind fun _ _ => trivial

end Leaves

section Counts

variable {least most : Text} {symbols : List Symbol} {fault : NumeralTooLong}

/-- Behind an opening brace stand the digits of one count, or of two with a comma between them, and
a closing brace. -/
inductive Counted : Text → Text → List Symbol → Prop
  | one {digits : Text} (nonempty : digits ≠ [])
      (all : ∀ digit ∈ digits, Text.isPlainDigit digit = true) (rest : List Symbol) :
      Counted digits digits (digits.map .plain ++ .plain '}' :: rest)
  | two {least most : Text} (all : ∀ digit ∈ least, Text.isPlainDigit digit = true)
      (also : ∀ digit ∈ most, Text.isPlainDigit digit = true) (rest : List Symbol) :
      Counted least most (least.map .plain ++ .plain ',' :: (most.map .plain ++ .plain '}' :: rest))

/-- The first of the two counts that is of no use has more digits than are converted. -/
inductive Overlong (least most : Text) : NumeralTooLong → Prop
  | least (long : numeralLimit < least.length) : Overlong least most ⟨least.length⟩
  | most (short : least.length ≤ numeralLimit) (small : least.digitsValue < countLimit)
      (long : numeralLimit < most.length) : Overlong least most ⟨most.length⟩

/-- What stands behind an opening brace is stopped at by its first count of no use. -/
def StopsCounting (symbols : List Symbol) (fault : NumeralTooLong) : Prop :=
  ∃ least most, Counted least most symbols ∧ Overlong least most fault

theorem readCount_cases (digits : Text) :
    (numeralLimit < digits.length ∧ readCount digits = .error (.numeral ⟨digits.length⟩)) ∨
      digits.length ≤ numeralLimit ∧
        (countLimit ≤ digits.digitsValue ∧ readCount digits = .error .malformed ∨
          digits.digitsValue < countLimit ∧ ∃ count, readCount digits = .ok count) := by
  unfold readCount Text.readDigits
  split_ifs with none short
  · obtain rfl := List.isEmpty_iff.mp none
    exact .inr ⟨Nat.zero_le _, .inr ⟨by decide, _, rfl⟩⟩
  · refine .inr ⟨short, ?_⟩
    dsimp only
    split_ifs with small
    · exact .inr ⟨small, _, rfl⟩
    · exact .inl ⟨Nat.le_of_not_lt small, rfl⟩
  · exact .inl ⟨Nat.lt_of_not_le short, rfl⟩

theorem closeCounts_of_overlong (overlong : Overlong least most fault) (rest : List Symbol) :
    closeCounts least most (.plain '}' :: rest) = .error (.numeral fault) := by
  have lower := readCount_cases least
  have upper := readCount_cases most
  cases overlong with
  | least long =>
      obtain ⟨-, read⟩ := lower.resolve_right fun short => by omega
      rw [closeCounts, read]
      rfl
  | most short small long =>
      obtain ⟨-, ⟨large, -⟩ | ⟨-, low, read⟩⟩ := lower.resolve_left fun long => by omega
      · omega
      obtain ⟨-, also⟩ := upper.resolve_right fun short => by omega
      rw [closeCounts, read]
      dsimp only [bind, Except.bind]
      rw [also]

theorem refuses_closeCounts (useful : ∀ fault, ¬ Overlong least most fault)
    (symbols : List Symbol) : Refuses (fun _ => True) (closeCounts least most symbols) := by
  have shortLeast : least.length ≤ numeralLimit :=
    Nat.le_of_not_lt fun long => useful _ (.least long)
  unfold closeCounts
  split
  · obtain ⟨-, ⟨-, read⟩ | ⟨small, low, read⟩⟩ :=
      (readCount_cases least).resolve_left fun long => by omega
    · rw [read]
      rfl
    · have shortMost : most.length ≤ numeralLimit :=
        Nat.le_of_not_lt fun long => useful _ (.most shortLeast small long)
      obtain ⟨-, ⟨-, also⟩ | ⟨-, high, also⟩⟩ :=
        (readCount_cases most).resolve_left fun long => by omega
      · rw [read, also]
        rfl
      · rw [read, also]
        dsimp only [bind, Except.bind]
        split_ifs
        · rfl
        · trivial
  · trivial

theorem startsUnwanted_plain {wanted : Char → Bool} (sign : Char) (refused : wanted sign = false)
    (rest : List Symbol) : StartsUnwanted wanted (.plain sign :: rest) := by
  rintro character ⟨⟩
  exact refused

theorem head?_digits_ne {digits : Text} (all : ∀ digit ∈ digits, Text.isPlainDigit digit = true)
    {rest : List Symbol} (other : digits = [] → rest.head? ≠ some (.plain '}')) :
    (digits.map Symbol.plain ++ rest).head? ≠ some (.plain '}') := by
  cases digits with
  | nil => exact other rfl
  | cons digit others =>
      rintro ⟨⟩
      cases all '}' List.mem_cons_self

/-- The digits of counts are read up to the brace that closes them. -/
theorem Counted.exists_closeCounts (counted : Counted least most symbols) :
    ∃ rest, readCounts symbols = closeCounts least most (.plain '}' :: rest) := by
  cases counted with
  | one nonempty all rest =>
      have lower := takeAllPlain_append all (startsUnwanted_plain '}' (by decide) rest)
      exact ⟨rest, readCounts_open (head?_digits_ne all fun none => absurd none nonempty) lower
        (upperDigits_of_unlike nofun)⟩
  | two all also rest =>
      have lower := takeAllPlain_append all
        (startsUnwanted_plain ',' (by decide) (most.map .plain ++ .plain '}' :: rest))
      have upper := takeAllPlain_append also (startsUnwanted_plain '}' (by decide) rest)
      exact ⟨rest, readCounts_open (head?_digits_ne all nofun) lower upper⟩

theorem readCounts_of_stopsCounting (stops : StopsCounting symbols fault) :
    readCounts symbols = .error (.numeral fault) := by
  obtain ⟨least, most, counted, overlong⟩ := stops
  obtain ⟨rest, read⟩ := counted.exists_closeCounts
  rw [read]
  exact closeCounts_of_overlong overlong rest

theorem refuses_readCounts (useful : ∀ fault, ¬ StopsCounting symbols fault) :
    Refuses (fun _ => True) (readCounts symbols) := by
  by_cases closed : symbols.head? = some (.plain '}')
  · obtain ⟨rest, rfl⟩ := List.head?_eq_some_iff.mp closed
    trivial
  cases lower : takeAllPlain Text.isPlainDigit symbols with
  | mk digits behind =>
      cases upper : upperDigits digits behind with
      | mk more tail =>
          rw [readCounts_open closed lower upper]
          obtain ⟨rfl, all, -⟩ := of_takeAllPlain lower
          by_cases closes : tail.head? = some (.plain '}')
          · obtain ⟨rest, rfl⟩ := List.head?_eq_some_iff.mp closes
            refine refuses_closeCounts (fun fault overlong => useful fault ?_) _
            refine ⟨digits, more, ?_, overlong⟩
            by_cases comma : behind.head? = some (.plain ',')
            · obtain ⟨beyond, rfl⟩ := List.head?_eq_some_iff.mp comma
              obtain ⟨rfl, also, -⟩ := of_takeAllPlain upper
              exact .two all also rest
            · rw [upperDigits_of_unlike comma] at upper
              obtain ⟨rfl, rfl⟩ := Prod.mk.inj upper
              refine .one ?_ all rest
              rintro rfl
              exact closed rfl
          · rw [closeCounts_eq_none closes]
            trivial

end Counts

section Steps

variable {progress : Progress}

/-- The progress knows no more of looks behind that go too far. -/
def Progress.Keeps (progress next : Progress) : Prop :=
  next.isFar = progress.isFar

/-- The step leaves an end of the symbols, and no look behind is closed in it. -/
def Steady (progress : Progress) (symbols : List Symbol) (step : Progress × List Symbol) : Prop :=
  progress.Keeps step.1 ∧ step.2 <:+ symbols

theorem refuses_refer (progress : Progress) (group : Nat) :
    Refuses progress.Keeps (progress.refer group) := by
  unfold Progress.refer
  split_ifs
  · exact Eq.refl progress.isFar
  · rfl

theorem refuses_openNamed (progress : Progress) (name : Text) :
    Refuses progress.Keeps (progress.openNamed name) := by
  unfold Progress.openNamed
  split_ifs
  · exact Eq.refl progress.isFar
  · rfl

theorem refuses_alternate (progress : Progress) : Refuses progress.Keeps progress.alternate := by
  unfold Progress.alternate
  split
  · rfl
  · exact Eq.refl progress.isFar

theorem refuses_repeatLast (progress : Progress) (greed : Greed) (least : Nat)
    (most : Option Nat) : Refuses progress.Keeps (progress.repeatLast greed least most) := by
  unfold Progress.repeatLast
  split
  · rfl
  · rfl
  · rfl
  · exact Eq.refl progress.isFar

theorem readGreed_suffix (symbols : List Symbol) : (readGreed symbols).2 <:+ symbols := by
  unfold readGreed
  split
  · exact List.suffix_cons _ _
  · exact List.suffix_cons _ _
  · exact List.suffix_refl _

theorem refuses_readRepetition (progress : Progress) (least : Nat) (most : Option Nat)
    (symbols : List Symbol) :
    Refuses (Steady progress symbols) (readRepetition progress least most symbols) :=
  (refuses_repeatLast progress _ least most).bind fun _ keeps => ⟨keeps, readGreed_suffix symbols⟩

theorem takePlain_suffix (wanted : Char → Bool) (count : Nat) (symbols : List Symbol) :
    (takePlain wanted count symbols).2 <:+ symbols := by
  obtain ⟨parts, -⟩ := of_takePlain (rfl : takePlain wanted count symbols = (_, _))
  exact ⟨_, parts.symm⟩

theorem refuses_readReference (progress : Progress) (digit : Char) (symbols : List Symbol) :
    Refuses (Steady progress symbols) (readReference progress digit symbols) := by
  unfold readReference
  dsimp only
  split
  · next second after found =>
      have leaves := takePlain_suffix Text.isPlainDigit 1 symbols
      rw [found] at leaves
      split
      · next third beyond _ also =>
          have more := takePlain_suffix isOctalDigit 1 after
          rw [also] at more
          exact (refuses_octalCode _).bind fun _ _ => ⟨Eq.refl progress.isFar, more.trans leaves⟩
      · exact (refuses_refer progress _).bind fun _ keeps => ⟨keeps, leaves⟩
  · exact (refuses_refer progress _).bind fun _ keeps => ⟨keeps, List.suffix_refl _⟩

theorem refuses_readEscape [Host] (progress : Progress) (character : Char) (symbols : List Symbol) :
    Refuses (Steady progress symbols) (readEscape progress character symbols) := by
  unfold readEscape
  split
  · exact ⟨Eq.refl progress.isFar, List.suffix_refl _⟩
  · exact ⟨Eq.refl progress.isFar, List.suffix_refl _⟩
  · split_ifs
    · exact (refuses_octalCode _).bind fun _ _ =>
        ⟨Eq.refl progress.isFar, takePlain_suffix isOctalDigit 2 symbols⟩
    · exact refuses_readReference progress character symbols
    · have leaves : Refuses (fun read => read.2 <:+ symbols) (readCode character symbols) :=
        (refuses_readCode character symbols).of_ok fun read found => by
          obtain ⟨used, parts, -⟩ := nearsighted_readCode character found
          exact ⟨used, parts.symm⟩
      exact leaves.bind fun _ leaves => ⟨Eq.refl progress.isFar, leaves⟩

theorem refuses_readModes (progress : Progress) (symbols : List Symbol) :
    Refuses (fun _ => True) (readModes progress symbols) := by
  unfold readModes
  dsimp only
  split
  · rfl
  · split
    · split_ifs
      · rfl
      · trivial
    · split_ifs
      · rfl
      · trivial
    · split
      · split_ifs
        · rfl
        · trivial
      · rfl
    · rfl

theorem refuses_readCondition (progress : Progress) (name : Text) :
    Refuses progress.Keeps (readCondition progress name) := by
  unfold readCondition
  dsimp only
  split_ifs
  · split
    · split_ifs
      · exact Eq.refl progress.isFar
      · rfl
    · rfl
  · split
    · split_ifs
      · exact Eq.refl progress.isFar
      · rfl
    · rfl

theorem Head.keeps [Host] {used : List Symbol} {move : Move} {next : Progress}
    (head : Head used move) (applied : move.apply progress = .ok next) : progress.Keeps next := by
  cases head with
  | wrap | ahead | notAhead | behind | notBehind | atomic | comment | condition | refer =>
      obtain rfl := Except.ok.inj applied
      rfl
  | @named name =>
      have keeps := refuses_openNamed progress name
      rwa [show progress.openNamed name = .ok next from applied] at keeps
  | modes head =>
      cases head with
      | on | off | whole =>
          obtain rfl := Except.ok.inj applied
          rfl

theorem refuses_readGroup (progress : Progress) (symbols : List Symbol) :
    Refuses (Steady progress symbols) (readGroup progress symbols) := by
  have refuses : Refuses (fun _ => True) (readGroup progress symbols) := by
    unfold readGroup
    split
    · split
      · trivial
      · trivial
      · trivial
      · trivial
      · trivial
      · trivial
      · split
        · rfl
        · trivial
      · split
        · exact (refuses_readCondition progress _).bind fun _ _ => trivial
        · rfl
      · split
        · exact (refuses_openNamed progress _).bind fun _ _ => trivial
        · rfl
      · split
        · split
          · exact (refuses_refer progress _).bind fun _ _ => trivial
          · rfl
        · rfl
      · exact refuses_readModes progress _
    · trivial
  apply refuses.of_ok
  rintro ⟨next, after⟩ reads
  rcases readGroup_cases reads with ⟨-, rfl, rfl⟩ | ⟨move, used, rfl, head, applied⟩
  · exact ⟨Eq.refl progress.isFar, List.suffix_refl _⟩
  · exact ⟨head.keeps applied, List.suffix_append _ _⟩

def Opening.isBehind : Opening → Bool
  | .behind _ _ => true
  | _ => false

/-- The innermost group is a look behind that starts too far back. -/
def Progress.ClosesFar [Host] (progress : Progress) : Prop :=
  progress.top.opening.isBehind = true ∧
    Host.lookStop?.any (· ≤ (progress.top.node.width progress.closed).least) = true

theorem refuses_close [Host] (progress : Progress) :
    Refuses (fun next => next.isFar = true ↔ progress.isFar = true ∨ progress.ClosesFar)
      progress.close := by
  have keeps (next : Progress) (same : next.isFar = progress.isFar)
      (other : progress.top.opening.isBehind = false) :
      next.isFar = true ↔ progress.isFar = true ∨ progress.ClosesFar := by
    rw [same, Progress.ClosesFar, other]
    simp
  unfold Progress.close
  split
  · rfl
  · dsimp only
    split
    · rfl
    · next opening => exact keeps _ rfl (by rw [opening]; rfl)
    · next opening => exact keeps _ rfl (by rw [opening]; rfl)
    · next opening => exact keeps _ rfl (by rw [opening]; rfl)
    · next opening => exact keeps _ rfl (by rw [opening]; rfl)
    · next opening => simp [Refuses, Progress.ClosesFar, opening, Opening.isBehind]
    · next opening => exact keeps _ rfl (by rw [opening]; rfl)
    · next opening =>
        split
        · exact keeps _ rfl (by rw [opening]; rfl)
        · exact keeps _ rfl (by rw [opening]; rfl)

/-- What a step does: it leaves an end of the symbols behind it, and only when it closes a look
behind may that go too far. -/
structure Passes [Host] (progress : Progress) (symbol : Symbol) (rest : List Symbol)
    (step : Progress × List Symbol) : Prop where
  leaves : step.2 <:+ rest
  isFar : step.1.isFar = true ↔
    progress.isFar = true ∨ symbol = .plain ')' ∧ progress.ClosesFar

theorem Steady.passes [Host] {symbol : Symbol} {rest : List Symbol} {step : Progress × List Symbol}
    (steady : Steady progress rest step) (other : symbol ≠ .plain ')') :
    Passes progress symbol rest step := by
  refine ⟨steady.2, ?_⟩
  rw [show step.1.isFar = progress.isFar from steady.1]
  simp [other]

theorem readPlain_brace [Host] (progress : Progress) (rest : List Symbol) :
    readPlain progress '{' rest = readCounts rest >>= fun counts =>
      match counts with
      | some (least, most, rest) => readRepetition progress least most rest
      | none => .ok (progress.push (.atom progress.modes (.literal '{'.toNat false)), rest) := by
  have noBlank : isAsciiBlank '{' = false := by decide
  have noComment : ('{' == '#') = false := by decide
  simp only [readPlain, noBlank, noComment, Bool.and_false, Bool.false_eq_true, if_false]
  rfl

theorem readSymbol_of_stopsCounting [Host] {rest : List Symbol} {fault : NumeralTooLong}
    (stops : StopsCounting rest fault) (progress : Progress) :
    readSymbol progress (.plain '{') rest = .error (.numeral fault) := by
  rw [readSymbol, readPlain_brace, readCounts_of_stopsCounting stops]
  rfl

theorem readBracket_leaves [Host] (symbols : List Symbol) :
    Refuses (fun read => read.2 <:+ symbols) (readBracket symbols) := by
  refine (refuses_readBracket symbols).of_ok fun read found => ?_
  obtain ⟨used, parts, -⟩ := nearsighted_readBracket found
  exact ⟨used, parts.symm⟩

theorem readCounts_leaves {symbols : List Symbol}
    (useful : ∀ fault, ¬ StopsCounting symbols fault) :
    Refuses (fun counts => ∀ least most after, counts = some (least, most, after) →
      after <:+ symbols) (readCounts symbols) := by
  refine (refuses_readCounts useful).of_ok fun counts read => ?_
  rintro least most after rfl
  obtain ⟨used, parts, -⟩ := readCounts_again read
  exact ⟨used, parts.symm⟩

/-- Where the counts behind a brace do not stop the reader, it goes on or refuses what is
malformed. -/
theorem refuses_readPlain [Host] (progress : Progress) (character : Char) (rest : List Symbol)
    (useful : character = '{' → ∀ fault, ¬ StopsCounting rest fault) :
    Refuses (Passes progress (.plain character) rest) (readPlain progress character rest) := by
  unfold readPlain
  split
  · exact (refuses_alternate progress).bind fun _ keeps =>
      Steady.passes ⟨keeps, List.suffix_refl _⟩ (by decide)
  · refine (refuses_close progress).bind fun next known => ⟨List.suffix_refl _, known.trans ?_⟩
    simp
  · next closing =>
      have other : Symbol.plain character ≠ .plain ')' :=
        fun same => closing (Symbol.plain.inj same)
      suffices steady : Refuses (Steady progress rest) _ from
        steady.mono fun _ steady => steady.passes other
      split_ifs
      · exact ⟨Eq.refl progress.isFar, List.suffix_refl _⟩
      · exact ⟨Eq.refl progress.isFar, (List.drop_suffix _ _).trans (List.dropWhile_suffix _)⟩
      · split
        · exact (readBracket_leaves rest).bind fun _ leaves => ⟨Eq.refl progress.isFar, leaves⟩
        · exact ⟨Eq.refl progress.isFar, List.suffix_refl _⟩
        · exact ⟨Eq.refl progress.isFar, List.suffix_refl _⟩
        · exact ⟨Eq.refl progress.isFar, List.suffix_refl _⟩
        · exact refuses_readGroup progress rest
        · exact refuses_readRepetition progress _ _ rest
        · exact refuses_readRepetition progress _ _ rest
        · exact refuses_readRepetition progress _ _ rest
        · refine (readCounts_leaves (useful rfl)).bind fun counts leaves => ?_
          split
          · next least most after =>
              exact (refuses_readRepetition progress least most after).mono fun _ steady =>
                ⟨steady.1, steady.2.trans (leaves least most after rfl)⟩
          · exact ⟨Eq.refl progress.isFar, List.suffix_refl _⟩
        · exact ⟨Eq.refl progress.isFar, List.suffix_refl _⟩

/-- A step stops at a count with too many digits, and otherwise it goes on or refuses what is
malformed. -/
theorem readSymbol_cases [Host] (progress : Progress) (symbol : Symbol) (rest : List Symbol) :
    (∃ fault, symbol = .plain '{' ∧ StopsCounting rest fault) ∨
      Refuses (Passes progress symbol rest) (readSymbol progress symbol rest) := by
  by_cases stops : ∃ fault, symbol = .plain '{' ∧ StopsCounting rest fault
  · exact .inl stops
  · refine .inr ?_
    cases symbol with
    | plain character =>
        refine refuses_readPlain progress character rest ?_
        rintro rfl fault counting
        exact stops ⟨fault, rfl, counting⟩
    | escaped character =>
        exact (refuses_readEscape progress character rest).mono fun _ steady =>
          steady.passes nofun

theorem passes_of_readSymbol [Host] {symbol : Symbol} {rest : List Symbol}
    {step : Progress × List Symbol} (reads : readSymbol progress symbol rest = .ok step) :
    Passes progress symbol rest step := by
  rcases readSymbol_cases progress symbol rest with ⟨fault, rfl, stops⟩ | refuses
  · rw [readSymbol_of_stopsCounting stops] at reads
    cases reads
  · rw [reads] at refuses
    exact refuses

end Steps

end ItemFilter.Pattern
