/-
This file says what a step of the reader can do with its progress: it makes one of a few moves. The
symbols that it takes decide which one, so the same symbols lead to the same move elsewhere.
-/

import Mathlib.Data.List.TakeWhile
import ItemFilter.Proofs.Pattern.Lookahead

namespace ItemFilter.Pattern

/-- What a step of the reader does with its progress. -/
inductive Move where
  | stay
  | leaf (atom : Atom)
  | anchor (kind : Anchor)
  | repetition (greed : Greed) (least : Nat) (most : Option Nat)
  | alternate
  | close
  | wrap
  | ahead (negated : Bool)
  | atomic
  | modes (on off : ModeChange)
  | capture
  | named (name : Text)
  | behind (negated : Bool)
  | refer (group : Nat)
  | condition (group : Nat) (conditions : List Nat)
  | settle (setting : Modes)

namespace Move

def apply [Host] (progress : Progress) : Move → Except Fault Progress
  | .stay => .ok progress
  | .leaf atom => .ok (progress.push (.atom progress.modes atom))
  | .anchor kind => .ok (progress.push (.anchor progress.modes kind))
  | .repetition greed least most => progress.repeatLast greed least most
  | .alternate => progress.alternate
  | .close => progress.close
  | .wrap => .ok (progress.openFrame .plain progress.modes)
  | .ahead negated => .ok (progress.openFrame (.ahead negated) progress.modes)
  | .atomic => .ok (progress.openFrame .atomic progress.modes)
  | .modes on off => .ok (progress.openFrame .enclosed (progress.modes.change on off))
  | .capture => .ok progress.openCapture
  | .named name => progress.openNamed name
  | .behind negated => .ok (openBehind progress negated)
  | .refer group => .ok (progress.push (.reference progress.modes group))
  | .condition group conditions =>
      .ok ({ progress with conditions := conditions }.openFrame (.conditional group) progress.modes)
  | .settle setting => .ok { progress with top := { progress.top with modes := setting } }

/-- The move depends on nothing but the modes and the innermost group. -/
def IsFree : Move → Prop
  | .refer _ | .condition _ _ | .settle _ => False
  | _ => True

end Move

/-- The symbols are a mark of repetition. A brace alone stands for itself. -/
def IsMark (taken : List Symbol) : Prop :=
  taken ≠ [.plain '{'] ∧ ∃ mark ∈ "?*+\x7b".toList, taken.head? = some (.plain mark)

instance (taken : List Symbol) : Decidable (IsMark taken) :=
  letI : Decidable (∃ mark ∈ "?*+\x7b".toList, taken.head? = some (.plain mark)) :=
    List.decidableBEx _ _
  inferInstanceAs (Decidable (_ ∧ _))

/-- The symbols set modes for all that follows. -/
def setsModes : List Symbol → Bool
  | .plain '(' :: .plain '?' :: .plain first :: rest =>
      isModeLetter first && rest.getLast? == some (.plain ')')
  | _ => false

/-- What the symbols of some moves look like. -/
def Move.Spelled (taken : List Symbol) : Move → Prop
  | .wrap => taken = [.plain '(', .plain '?', .plain ':']
  | .ahead _ | .atomic | .modes _ _ | .capture | .named _ | .behind _ | .condition _ _ =>
      taken.head? = some (.plain '(')
  | .repetition _ _ _ => IsMark taken
  | .alternate => taken = [.plain '|']
  | .close => taken = [.plain ')']
  | .settle _ => setsModes taken = true
  | _ => True

/-- The other symbols cannot be added to what was read before the first ones. -/
structure Continues (after other : List Symbol) : Prop where
  alike : StartsAlike after other
  counts : readCounts after = .ok none → readCounts other = .ok none

/-- In verbose mode a blank does not count, nor does what a number sign begins. -/
def Modes.hides (modes : Modes) : Symbol → Bool
  | .plain character => modes.verbose && (isAsciiBlank character || character == '#')
  | .escaped _ => false

theorem Modes.hides_of_not_verbose {modes : Modes} (visible : modes.verbose = false)
    (symbol : Symbol) : modes.hides symbol = false := by
  cases symbol with
  | plain character => rw [hides, visible, Bool.false_and]
  | escaped character => rfl

theorem Modes.hides_plain_eq_false {modes : Modes} {character : Char} :
    modes.hides (.plain character) = false ↔
      (modes.verbose && isAsciiBlank character) = false ∧
        (modes.verbose && character == '#') = false := by
  rw [hides, Bool.and_or_distrib_left, Bool.or_eq_false_iff]

/-- The reader makes a move, which depends on what is taken and not on the rest. -/
def Makes [Host] (lead : List Symbol)
    (read : Progress → List Symbol → Except Fault (Progress × List Symbol)) (progress : Progress)
    (symbols : List Symbol) (next : Progress) (after : List Symbol) : Prop :=
  ∃ move used, symbols = used ++ after ∧ move.apply progress = .ok next ∧
    Move.Spelled (lead ++ used) move ∧
    (move.IsFree → ∀ twin moved other, twin.modes.verbose = progress.modes.verbose →
      move.apply twin = .ok moved → Continues after other →
      read twin (used ++ other) = .ok (moved, other))

section Steps

variable {lead : List Symbol} {progress next : Progress} {symbols after : List Symbol}
  {read : Progress → List Symbol → Except Fault (Progress × List Symbol)}

/-- A reader that only adds a leaf. -/
theorem Nearsighted.makes [Host] {inner : List Symbol → Except Fault (Atom × List Symbol)}
    (near : Nearsighted inner)
    (adds : ∀ twin rest, twin.modes.verbose = progress.modes.verbose → read twin rest =
      inner rest >>= fun (atom, rest) => .ok (twin.push (.atom twin.modes atom), rest))
    (reads : read progress symbols = .ok (next, after)) :
    Makes lead read progress symbols next after := by
  rw [adds _ _ rfl] at reads
  obtain ⟨⟨atom, rest⟩, found, same⟩ := exists_of_bind_ok reads
  obtain ⟨rfl, rfl⟩ := Prod.mk.inj (Except.ok.inj same)
  obtain ⟨used, rfl, again⟩ := near found
  refine ⟨.leaf atom, used, rfl, rfl, trivial, ?_⟩
  intro _ twin moved other alike applied continues
  obtain rfl := Except.ok.inj applied
  rw [adds _ _ alike, again other continues.alike]
  rfl

theorem Makes.congr [Host] {other : Progress → List Symbol → Except Fault (Progress × List Symbol)}
    (makes : Makes lead read progress symbols next after)
    (same : ∀ twin rest, other twin rest = read twin rest) :
    Makes lead other progress symbols next after := by
  obtain ⟨move, used, parts, applied, spelled, again⟩ := makes
  refine ⟨move, used, parts, applied, spelled, ?_⟩
  intro free twin moved rest alike moves continues
  rw [same]
  exact again free twin moved rest alike moves continues

/-- A reader whose move is decided by the symbols it takes. -/
theorem makes_after [Host] (used : List Symbol) (move : Move)
    (spelled : Move.Spelled (lead ++ used) move)
    (moves : ∀ twin rest, twin.modes.verbose = progress.modes.verbose → read twin (used ++ rest) =
      move.apply twin >>= fun next => .ok (next, rest))
    (reads : read progress (used ++ symbols) = .ok (next, after)) :
    Makes lead read progress (used ++ symbols) next after := by
  rw [moves _ _ rfl] at reads
  obtain ⟨found, applied, same⟩ := exists_of_bind_ok reads
  obtain ⟨rfl, rfl⟩ := Prod.mk.inj (Except.ok.inj same)
  refine ⟨move, used, rfl, applied, spelled, ?_⟩
  intro _ twin moved other alike applied _
  rw [moves _ _ alike, applied]
  rfl

theorem apply_refer [Host] {group : Nat} (refers : progress.refer group = .ok next) :
    Move.apply progress (.refer group) = .ok next := by
  rw [Progress.refer] at refers
  split at refers
  · exact refers
  · cases refers

theorem readReference_makes [Host] {digit : Char}
    (reads : readReference progress digit symbols = .ok (next, after)) :
    Makes lead (fun progress => readReference progress digit) progress symbols next after := by
  have referred : ∀ {group : Nat} {used behind : List Symbol}, symbols = used ++ behind →
      (progress.refer group >>= fun next => .ok (next, behind)) = .ok (next, after) →
      Makes lead (fun progress => readReference progress digit) progress symbols next after := by
    intro group used behind parts reads
    obtain ⟨found, refers, same⟩ := exists_of_bind_ok reads
    obtain ⟨rfl, rfl⟩ := Prod.mk.inj (Except.ok.inj same)
    exact ⟨.refer group, used, parts, apply_refer refers, trivial, nofun⟩
  unfold readReference at reads
  dsimp only at reads
  split at reads
  · next second after found =>
      obtain ⟨parts, again⟩ := takePlain_again (by decide) found
      split at reads
      · next third beyond octal also =>
          obtain ⟨code, coded, same⟩ := exists_of_bind_ok reads
          obtain ⟨rfl, rfl⟩ := Prod.mk.inj (Except.ok.inj same)
          obtain ⟨rfl, against⟩ := takePlain_again (by decide) also
          refine ⟨.leaf (.literal code false), [.plain second, .plain third], parts, rfl, trivial,
            ?_⟩
          intro _ twin moved other _ applied continues
          obtain rfl := Except.ok.inj applied
          have first : takePlain Text.isPlainDigit 1 (.plain second :: .plain third :: other) =
              ([second], .plain third :: other) := again _ (.of_head? rfl)
          have last : takePlain isOctalDigit 1 (.plain third :: other) = ([third], other) :=
            against other continues.alike
          show readReference twin digit (.plain second :: .plain third :: other) = _
          unfold readReference
          rw [first]
          dsimp only
          rw [octal, last]
          dsimp only
          rw [coded]
          rfl
      · exact referred parts reads
  · exact referred (List.nil_append symbols).symm reads

theorem readEscape_makes [Host] {character : Char}
    (reads : readEscape progress character symbols = .ok (next, after)) :
    Makes lead (fun progress => readEscape progress character) progress symbols next after := by
  cases anchors : anchorOf? character with
  | some kind =>
      apply makes_after [] (.anchor kind) trivial _ reads
      intro twin rest _
      rw [List.nil_append, readEscape, anchors]
      rfl
  | none =>
      cases category : categoryOf? character with
      | some kind =>
          apply makes_after [] (.leaf (.oneOf [.category kind.1 kind.2] false)) trivial _ reads
          intro twin rest _
          rw [List.nil_append, readEscape, anchors, category]
          rfl
      | none =>
          have opened : ∀ progress symbols, readEscape progress character symbols =
              if character = '0' then
                octalCode (takePlain isOctalDigit 2 symbols).1 >>= fun code =>
                  .ok (progress.push (.atom progress.modes (.literal code false)),
                    (takePlain isOctalDigit 2 symbols).2)
              else if Text.isPlainDigit character then readReference progress character symbols
              else readCode character symbols >>= fun read =>
                .ok (progress.push (.atom progress.modes (.literal read.1 false)), read.2) := by
            intro progress symbols
            rw [readEscape, anchors, category]
            rfl
          by_cases zero : character = '0'
          · have near : Nearsighted fun symbols =>
                readOctal [] symbols >>= fun read => .ok (Atom.literal read.1 false, read.2) :=
              (nearsighted_readOctal []).bind fun code => nearsighted_pure (Atom.literal code false)
            apply near.makes _ reads
            intro twin rest _
            rw [opened, if_pos zero, readOctal, List.nil_append]
            dsimp only
            cases octalCode (takePlain isOctalDigit 2 rest).1 <;> rfl
          by_cases digit : Text.isPlainDigit character = true
          · have same : (fun progress => readEscape progress character) =
                fun progress => readReference progress character := by
              funext progress symbols
              rw [opened, if_neg zero, if_pos digit]
            rw [opened, if_neg zero, if_pos digit] at reads
            rw [same]
            exact readReference_makes reads
          · have near : Nearsighted fun symbols =>
                readCode character symbols >>= fun read =>
                  .ok (Atom.literal read.1 false, read.2) :=
              (nearsighted_readCode character).bind fun code =>
                nearsighted_pure (Atom.literal code false)
            apply near.makes _ reads
            intro twin rest _
            rw [opened, if_neg zero, if_neg digit]
            cases readCode character rest <;> rfl

theorem readGreed_again {symbols rest : List Symbol} {greed : Greed}
    (read : readGreed symbols = (greed, rest)) :
    ∃ mark, symbols = mark ++ rest ∧
      ∀ other, StartsAlike rest other → readGreed (mark ++ other) = (greed, other) := by
  unfold readGreed at read
  split at read
  · obtain ⟨rfl, rfl⟩ := Prod.mk.inj read
    exact ⟨[.plain '?'], rfl, fun _ _ => rfl⟩
  · obtain ⟨rfl, rfl⟩ := Prod.mk.inj read
    exact ⟨[.plain '+'], rfl, fun _ _ => rfl⟩
  · next notReluctant notPossessive =>
      obtain ⟨rfl, rfl⟩ := Prod.mk.inj read
      refine ⟨[], rfl, ?_⟩
      intro other alike
      rw [List.nil_append]
      unfold readGreed
      split
      · obtain ⟨tail, rfl⟩ := List.head?_eq_some_iff.mp (alike '?' (by decide) rfl)
        exact absurd rfl (notReluctant tail)
      · obtain ⟨tail, rfl⟩ := List.head?_eq_some_iff.mp (alike '+' (by decide) rfl)
        exact absurd rfl (notPossessive tail)
      · rfl

/-- A reader that repeats the last item, after some symbols that say how often. -/
theorem readRepetition_makes [Host] {least : Nat} {most : Option Nat} {used : List Symbol}
    (marked : ∀ mark, IsMark (lead ++ (used ++ mark)))
    (again : ∀ twin other, read twin (used ++ other) = readRepetition twin least most other)
    (reads : readRepetition progress least most symbols = .ok (next, after)) :
    Makes lead read progress (used ++ symbols) next after := by
  cases found : readGreed symbols with
  | mk greed rest =>
      obtain ⟨mark, rfl, against⟩ := readGreed_again found
      rw [readRepetition, found] at reads
      obtain ⟨repeated, applied, same⟩ := exists_of_bind_ok reads
      obtain ⟨rfl, rfl⟩ := Prod.mk.inj (Except.ok.inj same)
      refine ⟨.repetition greed least most, used ++ mark, (List.append_assoc _ _ _).symm, applied,
        marked mark, ?_⟩
      intro _ twin moved other _ moves continues
      rw [List.append_assoc, again, readRepetition, against other continues.alike]
      dsimp only
      rw [show twin.repeatLast greed least most = .ok moved from moves]
      rfl

section Modes

variable {letters lettersOff : Text} {on off change : ModeChange} {used : List Symbol} {move : Move}

/-- The letters turn on or off what the change says. -/
structure ModeChange.WrittenAs (change : ModeChange) (letters : Text) : Prop where
  all : ∀ letter ∈ letters, isModeLetter letter = true
  added : ModeChange.addAll? letters = some change

theorem ModeChange.WrittenAs.exists_cons (written : change.WrittenAs letters)
    (something : change ≠ .none) :
    ∃ first others, letters = first :: others ∧ isModeLetter first = true := by
  cases letters with
  | nil => exact absurd (Option.some.inj written.added).symm something
  | cons first others => exact ⟨first, others, rfl, written.all first List.mem_cons_self⟩

/-- How modes are written behind a question mark, and the move that they stand for. -/
inductive ModeHead : List Symbol → Move → Prop
  | on {letters : Text} {on : ModeChange} (written : on.WrittenAs letters)
      (something : on ≠ .none) (allowed : on.template = false) :
      ModeHead (letters.map .plain ++ [.plain ':']) (.modes on .none)
  | off {letters lettersOff : Text} {on off : ModeChange} (written : on.WrittenAs letters)
      (writtenOff : off.WrittenAs lettersOff)
      (fits : ¬(decide (off = .none) || off.ascii || off.full || on.template || off.template ||
        on.meets off) = true) :
      ModeHead (letters.map .plain ++ .plain '-' :: (lettersOff.map .plain ++ [.plain ':']))
        (.modes on off)
  | whole {letters : Text} {on : ModeChange} {modes : Modes} (written : on.WrittenAs letters)
      (something : on ≠ .none) : ModeHead (letters.map .plain ++ [.plain ')']) (.settle modes)

/-- Letters of modes, read up to what comes after them. -/
theorem takeAllPlain_letters (all : ∀ letter ∈ letters, isModeLetter letter = true) (sign : Char)
    (other : isModeLetter sign = false) (rest : List Symbol) :
    takeAllPlain isModeLetter (letters.map .plain ++ .plain sign :: rest) =
      (letters, .plain sign :: rest) := by
  apply takeAllPlain_append all
  rintro character ⟨⟩
  exact other

theorem readModes_on (written : on.WrittenAs letters) (something : on ≠ .none)
    (allowed : on.template = false) (progress : Progress) (rest : List Symbol) :
    readModes progress (letters.map .plain ++ .plain ':' :: rest) =
      .ok (progress.openFrame .enclosed (progress.modes.change on .none), rest) := by
  rw [readModes, takeAllPlain_letters written.all ':' (by decide)]
  dsimp only
  rw [written.added]
  have fits : ¬(decide (on = .none) || on.template) = true := by
    rw [allowed, Bool.or_false, decide_eq_true_eq]
    exact something
  exact if_neg fits

theorem readModes_off (written : on.WrittenAs letters) (writtenOff : off.WrittenAs lettersOff)
    (fits : ¬(decide (off = .none) || off.ascii || off.full || on.template || off.template ||
      on.meets off) = true)
    (progress : Progress) (rest : List Symbol) :
    readModes progress
        (letters.map .plain ++ .plain '-' :: (lettersOff.map .plain ++ .plain ':' :: rest)) =
      .ok (progress.openFrame .enclosed (progress.modes.change on off), rest) := by
  rw [readModes, takeAllPlain_letters written.all '-' (by decide)]
  dsimp only
  rw [written.added]
  simp only [takeAllPlain_letters writtenOff.all ':' (by decide) rest, writtenOff.added]
  exact if_neg fits

theorem ModeHead.readModes_eq [Host] (head : ModeHead used move) (free : move.IsFree)
    {twin moved : Progress} (applied : move.apply twin = .ok moved) (rest : List Symbol) :
    readModes twin (used ++ rest) = .ok (moved, rest) := by
  cases head with
  | on written something allowed =>
      obtain rfl := Except.ok.inj applied
      rw [List.append_assoc]
      exact readModes_on written something allowed twin rest
  | off written writtenOff fits =>
      obtain rfl := Except.ok.inj applied
      rw [List.append_assoc, List.cons_append, List.append_assoc]
      exact readModes_off written writtenOff fits twin rest
  | whole written something => cases free

theorem exists_modeHead [Host] (reads : readModes progress symbols = .ok (next, after)) :
    ∃ move used, symbols = used ++ after ∧ ModeHead used move ∧ move.apply progress = .ok next := by
  unfold readModes at reads
  cases found : takeAllPlain isModeLetter symbols with
  | mk letters rest =>
      obtain ⟨rfl, all, -⟩ := of_takeAllPlain found
      rw [found] at reads
      dsimp only at reads
      split at reads
      · cases reads
      next on added =>
        split at reads
        · split at reads
          · cases reads
          next fits =>
            obtain ⟨rfl, rfl⟩ := Prod.mk.inj (Except.ok.inj reads)
            obtain ⟨nothing, allowed⟩ := Bool.or_eq_false_iff.mp (Bool.not_eq_true _ ▸ fits)
            have something := of_decide_eq_false nothing
            exact ⟨_, _, by simp, .on ⟨all, added⟩ something allowed, rfl⟩
        · split at reads
          · cases reads
          next something =>
            obtain ⟨rfl, rfl⟩ := Prod.mk.inj (Except.ok.inj reads)
            have changed : on ≠ .none := by
              rintro rfl
              exact something rfl
            exact ⟨_, _, by simp, .whole ⟨all, added⟩ changed, rfl⟩
        · next behind =>
            cases foundOff : takeAllPlain isModeLetter behind with
            | mk lettersOff beyond =>
                obtain ⟨rfl, allOff, -⟩ := of_takeAllPlain foundOff
                rw [foundOff] at reads
                dsimp only at reads
                split at reads
                next off rest addedOff =>
                  split at reads
                  · cases reads
                  next fits =>
                    obtain ⟨rfl, rfl⟩ := Prod.mk.inj (Except.ok.inj reads)
                    exact ⟨_, _, by simp, .off ⟨all, added⟩ ⟨allOff, addedOff⟩ fits, rfl⟩
                · cases reads
        · cases reads

theorem ModeHead.spelled (head : ModeHead used move) :
    Move.Spelled (.plain '(' :: .plain '?' :: used) move := by
  cases head with
  | on written something allowed => rfl
  | off written writtenOff fits => rfl
  | whole written something =>
      obtain ⟨first, others, rfl, letter⟩ := written.exists_cons something
      simp [Move.Spelled, setsModes, letter]

/-- Modes begin with a letter or with a minus. -/
theorem ModeHead.exists_cons (head : ModeHead used move) :
    ∃ first others, used = .plain first :: others ∧ (isModeLetter first = true ∨ first = '-') := by
  cases head with
  | on written something | whole written something =>
      obtain ⟨first, others, rfl, letter⟩ := written.exists_cons something
      exact ⟨first, _, rfl, .inl letter⟩
  | @off letters _ _ _ written writtenOff fits =>
      cases letters with
      | nil => exact ⟨'-', _, rfl, .inr rfl⟩
      | cons first others => exact ⟨first, _, rfl, .inl (written.all first List.mem_cons_self)⟩

theorem ModeHead.readGroup_eq (head : ModeHead used move) (progress : Progress)
    (rest : List Symbol) :
    readGroup progress (.plain '?' :: (used ++ rest)) = readModes progress (used ++ rest) := by
  obtain ⟨first, others, rfl, letter⟩ := head.exists_cons
  have unlike : ∀ sign ∈ ":=!<>#(P".toList, first ≠ sign := by
    have signs : ":=!<>#(P".toList.all (fun sign => !isModeLetter sign && sign != '-') = true := by
      decide +kernel
    rintro sign listed rfl
    have other := List.all_eq_true.mp signs first listed
    rcases letter with letter | rfl
    · rw [letter] at other
      cases other
    · rw [bne_self_eq_false, Bool.and_false] at other
      cases other
  rw [List.cons_append]
  unfold readGroup
  simp only
  split <;> try rfl
  all_goals
    next same =>
      have begins := Symbol.plain.inj (List.cons.inj same).1
      exact absurd begins (unlike _ (by decide))

end Modes

section Groups

variable {used : List Symbol} {move : Move}

/-- What is written behind the opening parenthesis of a group that has a mark, and the move that it
stands for. -/
inductive Head : List Symbol → Move → Prop
  | wrap : Head [.plain '?', .plain ':'] .wrap
  | ahead : Head [.plain '?', .plain '='] (.ahead false)
  | notAhead : Head [.plain '?', .plain '!'] (.ahead true)
  | behind : Head [.plain '?', .plain '<', .plain '='] (.behind false)
  | notBehind : Head [.plain '?', .plain '<', .plain '!'] (.behind true)
  | atomic : Head [.plain '?', .plain '>'] .atomic
  | comment {text : List Symbol} (absent : .plain ')' ∉ text) :
      Head (.plain '?' :: .plain '#' :: (text ++ [.plain ')'])) .stay
  | condition {name : Text} {group : Nat} {conditions : List Nat}
      (known : Text.isIdentifier name = true ∨ (groupNumber? name).isSome = true) :
      Head (.plain '?' :: .plain '(' :: (name.map .plain ++ [.plain ')']))
        (.condition group conditions)
  | named {name : Text} (nonempty : name ≠ []) (absent : '>' ∉ name) :
      Head (.plain '?' :: .plain 'P' :: .plain '<' :: (name.map .plain ++ [.plain '>']))
        (.named name)
  | refer {name : Text} {group : Nat} (identifier : Text.isIdentifier name = true) :
      Head (.plain '?' :: .plain 'P' :: .plain '=' :: (name.map .plain ++ [.plain ')']))
        (.refer group)
  | modes {used : List Symbol} {move : Move} (head : ModeHead used move) :
      Head (.plain '?' :: used) move

theorem Head.spelled (head : Head used move) : Move.Spelled (.plain '(' :: used) move := by
  cases head with
  | wrap | ahead | notAhead | behind | notBehind | atomic | condition | named => rfl
  | comment | refer => trivial
  | modes head => exact head.spelled

/-- A search for a mark ends at the first one. -/
theorem dropWhile_append_mark {mark : Symbol} {comment : List Symbol} (absent : mark ∉ comment)
    (rest : List Symbol) : (comment ++ mark :: rest).dropWhile (· != mark) = mark :: rest := by
  have passed : ∀ symbol ∈ comment, (symbol != mark) = true := by
    intro symbol member
    rw [bne_iff_ne]
    rintro rfl
    exact absent member
  rw [List.dropWhile_append_of_pos passed, List.dropWhile_cons_of_neg (by simp)]

/-- A comment ends at the first closing parenthesis. -/
theorem readGroup_comment {comment : List Symbol} (absent : .plain ')' ∉ comment)
    (progress : Progress) (rest : List Symbol) :
    readGroup progress (.plain '?' :: .plain '#' :: (comment ++ .plain ')' :: rest)) =
      .ok (progress, rest) := by
  rw [readGroup, dropWhile_append_mark absent]

/-- A move that depends on nothing else is made wherever its head is read. -/
theorem Head.readGroup_eq [Host] (head : Head used move) (free : move.IsFree)
    {twin moved : Progress} (applied : move.apply twin = .ok moved) (rest : List Symbol) :
    readGroup twin (used ++ rest) = .ok (moved, rest) := by
  cases head with
  | wrap | ahead | notAhead | behind | notBehind | atomic =>
      obtain rfl := Except.ok.inj applied
      rfl
  | comment absent =>
      obtain rfl := Except.ok.inj applied
      rw [List.cons_append, List.cons_append, List.append_assoc]
      exact readGroup_comment absent twin rest
  | condition | refer => cases free
  | named nonempty absent =>
      rw [List.cons_append, List.cons_append, List.cons_append, List.append_assoc,
        List.singleton_append, readGroup, takeName?_append nonempty absent]
      dsimp only
      rw [show twin.openNamed _ = .ok moved from applied]
      rfl
  | modes head =>
      rw [List.cons_append, head.readGroup_eq]
      exact head.readModes_eq free applied rest

theorem readGroup_of_ne (unlike : symbols.head? ≠ some (.plain '?')) (progress : Progress) :
    readGroup progress symbols = .ok (progress.openCapture, symbols) := by
  unfold readGroup
  split
  · exact absurd rfl unlike
  · rfl

theorem readCondition_makes [Host] {name : Text} (reads : readCondition progress name = .ok next) :
    (Text.isIdentifier name = true ∨ (groupNumber? name).isSome = true) ∧
      ∃ group conditions, Move.apply progress (.condition group conditions) = .ok next := by
  have tested : ∀ {group : Nat} {conditions : List Nat},
      (if { progress with conditions := conditions }.mayRefer group then
        (.ok ({ progress with conditions := conditions }.openFrame (.conditional group)
          progress.modes) : Except Fault Progress)
      else .error .malformed) = .ok next →
      ∃ group conditions, Move.apply progress (.condition group conditions) = .ok next := by
    intro group conditions reads
    split at reads
    · exact ⟨group, conditions, reads⟩
    · cases reads
  unfold readCondition at reads
  dsimp only at reads
  split at reads
  · next identifier =>
      split at reads
      · exact ⟨.inl identifier, tested reads⟩
      · cases reads
  · split at reads
    · next numbered => exact ⟨.inr (Option.isSome_of_eq_some numbered), tested reads⟩
    · cases reads

theorem exists_of_dropWhile {mark closing : Symbol} {behind : List Symbol}
    (found : symbols.dropWhile (· != mark) = closing :: behind) :
    ∃ comment, symbols = comment ++ mark :: behind ∧ mark ∉ comment := by
  obtain rfl : closing = mark := by
    have last := List.head?_dropWhile_not (· != mark) symbols
    rw [found] at last
    simpa using last
  refine ⟨symbols.takeWhile (· != closing), ?_, ?_⟩
  · rw [← found, List.takeWhile_append_dropWhile]
  · intro member
    simpa using List.mem_takeWhile_imp member

theorem exists_head [Host] {rest : List Symbol}
    (reads : readGroup progress (.plain '?' :: rest) = .ok (next, after)) :
    ∃ move used, .plain '?' :: rest = used ++ after ∧ Head used move ∧
      move.apply progress = .ok next := by
  unfold readGroup at reads
  simp only at reads
  split at reads
  · obtain ⟨rfl, rfl⟩ := Prod.mk.inj (Except.ok.inj reads)
    exact ⟨_, _, rfl, .wrap, rfl⟩
  · obtain ⟨rfl, rfl⟩ := Prod.mk.inj (Except.ok.inj reads)
    exact ⟨_, _, rfl, .ahead, rfl⟩
  · obtain ⟨rfl, rfl⟩ := Prod.mk.inj (Except.ok.inj reads)
    exact ⟨_, _, rfl, .notAhead, rfl⟩
  · obtain ⟨rfl, rfl⟩ := Prod.mk.inj (Except.ok.inj reads)
    exact ⟨_, _, rfl, .behind, rfl⟩
  · obtain ⟨rfl, rfl⟩ := Prod.mk.inj (Except.ok.inj reads)
    exact ⟨_, _, rfl, .notBehind, rfl⟩
  · obtain ⟨rfl, rfl⟩ := Prod.mk.inj (Except.ok.inj reads)
    exact ⟨_, _, rfl, .atomic, rfl⟩
  · split at reads
    · cases reads
    next found =>
      obtain ⟨rfl, rfl⟩ := Prod.mk.inj (Except.ok.inj reads)
      obtain ⟨comment, rfl, absent⟩ := exists_of_dropWhile found
      exact ⟨_, _, by simp, .comment absent, rfl⟩
  · split at reads
    · next found =>
        obtain ⟨opened, tests, same⟩ := exists_of_bind_ok reads
        obtain ⟨rfl, rfl⟩ := Prod.mk.inj (Except.ok.inj same)
        obtain ⟨known, group, conditions, applied⟩ := readCondition_makes tests
        obtain ⟨rfl, -, -⟩ := of_takeName? found
        exact ⟨_, _, by simp, .condition known, applied⟩
    · cases reads
  · split at reads
    · next found =>
        obtain ⟨opened, opens, same⟩ := exists_of_bind_ok reads
        obtain ⟨rfl, rfl⟩ := Prod.mk.inj (Except.ok.inj same)
        obtain ⟨rfl, nonempty, absent⟩ := of_takeName? found
        exact ⟨_, _, by simp, .named nonempty absent, opens⟩
    · cases reads
  · split at reads
    · next found =>
        split at reads
        · next identifier _ =>
            obtain ⟨pushed, refers, same⟩ := exists_of_bind_ok reads
            obtain ⟨rfl, rfl⟩ := Prod.mk.inj (Except.ok.inj same)
            obtain ⟨rfl, -, -⟩ := of_takeName? found
            exact ⟨_, _, by simp, .refer identifier, apply_refer refers⟩
        · cases reads
    · cases reads
  · obtain ⟨move, used, rfl, head, applied⟩ := exists_modeHead reads
    exact ⟨move, _, rfl, .modes head, applied⟩

/-- A group captures if it has no mark. Otherwise the mark says which move is made. -/
theorem readGroup_cases [Host] (reads : readGroup progress symbols = .ok (next, after)) :
    (symbols.head? ≠ some (.plain '?') ∧ next = progress.openCapture ∧ after = symbols) ∨
      ∃ move used, symbols = used ++ after ∧ Head used move ∧ move.apply progress = .ok next := by
  by_cases question : symbols.head? = some (.plain '?')
  · obtain ⟨rest, rfl⟩ := List.head?_eq_some_iff.mp question
    exact .inr (exists_head reads)
  · rw [readGroup_of_ne question] at reads
    obtain ⟨rfl, rfl⟩ := Prod.mk.inj (Except.ok.inj reads)
    exact .inl ⟨question, rfl, rfl⟩

theorem readGroup_makes [Host] (reads : readGroup progress symbols = .ok (next, after)) :
    Makes [.plain '('] readGroup progress symbols next after := by
  rcases readGroup_cases reads with ⟨unmarked, rfl, rfl⟩ | ⟨move, used, rfl, head, applied⟩
  · refine ⟨.capture, [], rfl, rfl, rfl, ?_⟩
    intro _ twin moved other _ applied continues
    obtain rfl := Except.ok.inj applied
    apply readGroup_of_ne
    intro begins
    exact unmarked (continues.alike '?' (by decide) begins)
  · refine ⟨move, used, rfl, applied, head.spelled, ?_⟩
    intro free twin moved other _ moves _
    exact head.readGroup_eq free moves other

end Groups

/-- A mark of repetition that is one symbol. -/
theorem mark_makes [Host] (sign : Char) (listed : sign ∈ "?*+".toList) (least : Nat)
    (most : Option Nat)
    (again : ∀ twin rest, read twin rest = readRepetition twin least most rest)
    (reads : read progress symbols = .ok (next, after)) :
    Makes [.plain sign] read progress symbols next after := by
  rw [again] at reads
  have marked : ∀ mark, IsMark ([.plain sign] ++ ([] ++ mark)) := by
    intro mark
    refine ⟨?_, sign, List.mem_append_left ['\x7b'] listed, rfl⟩
    rintro ⟨⟩
    exact absurd listed (by decide)
  exact readRepetition_makes marked again reads

/-- A brace repeats the last item, or it stands for itself. -/
theorem brace_makes [Host]
    (opened : ∀ twin rest, read twin rest =
      readCounts rest >>= fun found =>
        match found with
        | some (least, most, rest) => readRepetition twin least most rest
        | none => .ok (twin.push (.atom twin.modes (.literal '\x7b'.toNat false)), rest))
    (reads : read progress symbols = .ok (next, after)) :
    Makes [.plain '\x7b'] read progress symbols next after := by
  rw [opened] at reads
  obtain ⟨found, counts, reads⟩ := exists_of_bind_ok reads
  cases found with
  | none =>
      obtain ⟨rfl, rfl⟩ := Prod.mk.inj (Except.ok.inj reads)
      refine ⟨.leaf (.literal '\x7b'.toNat false), [], rfl, rfl, trivial, ?_⟩
      intro _ twin moved other _ applied continues
      obtain rfl := Except.ok.inj applied
      rw [List.nil_append, opened, continues.counts counts]
      rfl
  | some found =>
      obtain ⟨least, most, rest⟩ := found
      obtain ⟨used, rfl, again⟩ := readCounts_again counts
      have several : used ≠ [] := by
        rintro rfl
        exact absurd (again []) nofun
      have marked : ∀ mark, IsMark ([.plain '\x7b'] ++ (used ++ mark)) := by
        intro mark
        refine ⟨?_, '\x7b', by decide, rfl⟩
        simp [several]
      apply readRepetition_makes marked _ reads
      intro twin other
      rw [opened, again other]
      rfl

/-- The characters that have a meaning of their own outside of classes. -/
def isSign (character : Char) : Bool :=
  "|)[.^$(?*+\x7b".toList.contains character

theorem mem_signs {character : Char} (sign : isSign character = true) :
    character = '|' ∨ character = ')' ∨ character = '[' ∨ character = '.' ∨ character = '^' ∨
      character = '$' ∨ character = '(' ∨ character = '?' ∨ character = '*' ∨ character = '+' ∨
      character = '\x7b' := by
  simpa using List.contains_iff_mem.mp sign

/-- A sign always counts. -/
theorem Modes.counts_of_isSign (modes : Modes) {character : Char}
    (sign : isSign character = true) :
    (modes.verbose && isAsciiBlank character) = false ∧
      (modes.verbose && character == '#') = false := by
  have plain : (isAsciiBlank character || character == '#') = false := by
    rcases mem_signs sign with rfl | rfl | rfl | rfl | rfl | rfl | rfl | rfl | rfl | rfl | rfl <;>
      decide
  rw [← hides_plain_eq_false, hides, plain, Bool.and_false]

section Signs

variable [Host] (progress : Progress) (symbols : List Symbol)

theorem readPlain_opening : readPlain progress '(' symbols = readGroup progress symbols := by
  have counts := progress.modes.counts_of_isSign (show isSign '(' = true by decide)
  simp only [readPlain, counts, Bool.false_eq_true, if_false]
  rfl

theorem readPlain_bracket :
    readPlain progress '[' symbols = readBracket symbols >>= fun (atom, rest) =>
      .ok (progress.push (.atom progress.modes atom), rest) := by
  have counts := progress.modes.counts_of_isSign (show isSign '[' = true by decide)
  simp only [readPlain, counts, Bool.false_eq_true, if_false]
  rfl

theorem readPlain_question :
    readPlain progress '?' symbols = readRepetition progress 0 (some 1) symbols := by
  have counts := progress.modes.counts_of_isSign (show isSign '?' = true by decide)
  simp only [readPlain, counts, Bool.false_eq_true, if_false]
  rfl

theorem readPlain_plus :
    readPlain progress '+' symbols = readRepetition progress 1 none symbols := by
  have counts := progress.modes.counts_of_isSign (show isSign '+' = true by decide)
  simp only [readPlain, counts, Bool.false_eq_true, if_false]
  rfl

end Signs

theorem readPlain_of_not_isSign [Host] {character : Char} (plain : isSign character = false)
    (shown : progress.modes.hides (.plain character) = false) (symbols : List Symbol) :
    readPlain progress character symbols =
      .ok (progress.push (.atom progress.modes (.literal character.toNat false)), symbols) := by
  have unlike : ∀ sign ∈ "|)[.^$(?*+\x7b".toList, character ≠ sign := by
    rintro sign listed rfl
    rw [isSign, List.contains_iff_mem.mpr listed] at plain
    cases plain
  have bar := unlike '|' (by decide)
  have closing := unlike ')' (by decide)
  obtain ⟨noBlank, noComment⟩ := Modes.hides_plain_eq_false.mp shown
  unfold readPlain
  split
  · exact absurd rfl bar
  · exact absurd rfl closing
  · simp only [noBlank, noComment, Bool.false_eq_true, if_false]
    split
    all_goals first
      | exact absurd rfl (unlike _ (by decide))
      | rfl

theorem readPlain_makes [Host] {character : Char}
    (shown : progress.modes.hides (.plain character) = false)
    (reads : readPlain progress character symbols = .ok (next, after)) :
    Makes [.plain character] (fun progress => readPlain progress character) progress symbols next
      after := by
  cases sign : isSign character with
  | false =>
      apply makes_after [] (.leaf (.literal character.toNat false)) trivial _ reads
      intro twin rest alike
      refine readPlain_of_not_isSign sign ?_ rest
      rw [Modes.hides, alike]
      exact shown
  | true =>
      have counts (modes : Modes) := modes.counts_of_isSign sign
      rcases mem_signs sign with rfl | rfl | rfl | rfl | rfl | rfl | rfl | rfl | rfl | rfl | rfl
      · exact makes_after [] .alternate rfl (fun _ _ _ => rfl) reads
      · exact makes_after [] .close rfl (fun _ _ _ => rfl) reads
      · exact nearsighted_readBracket.makes (fun twin rest _ => readPlain_bracket twin rest) reads
      · apply makes_after [] (.leaf .any) trivial _ reads
        intro twin rest _
        simp only [readPlain, counts twin.modes, Bool.false_eq_true, if_false]
        rfl
      · apply makes_after [] (.anchor .lineStart) trivial _ reads
        intro twin rest _
        simp only [readPlain, counts twin.modes, Bool.false_eq_true, if_false]
        rfl
      · apply makes_after [] (.anchor .lineEnd) trivial _ reads
        intro twin rest _
        simp only [readPlain, counts twin.modes, Bool.false_eq_true, if_false]
        rfl
      · rw [readPlain_opening] at reads
        exact (readGroup_makes reads).congr readPlain_opening
      · exact mark_makes '?' (by decide) 0 (some 1) readPlain_question reads
      · apply mark_makes '*' (by decide) 0 none _ reads
        intro twin rest
        simp only [readPlain, counts twin.modes, Bool.false_eq_true, if_false]
        rfl
      · exact mark_makes '+' (by decide) 1 none readPlain_plus reads
      · apply brace_makes _ reads
        intro twin rest
        simp only [readPlain, counts twin.modes, Bool.false_eq_true, if_false]
        rfl

/-- A step whose symbol counts makes a move that depends on nothing but the symbols it takes. -/
theorem readSymbol_makes [Host] {symbol : Symbol} (shown : progress.modes.hides symbol = false)
    (reads : readSymbol progress symbol symbols = .ok (next, after)) :
    Makes [symbol] (fun progress => readSymbol progress symbol) progress symbols next after := by
  cases symbol with
  | plain character => exact readPlain_makes shown reads
  | escaped character => exact readEscape_makes reads

/-- What does not count is passed over, up to the end of the line if a number sign begins it. -/
theorem readPlain_of_hides [Host] {character : Char}
    (hidden : progress.modes.hides (.plain character) = true) (symbols : List Symbol) :
    readPlain progress character symbols =
      .ok (progress, if isAsciiBlank character then symbols
        else (symbols.dropWhile (· != .plain '\n')).drop 1) := by
  obtain ⟨verbose, passed⟩ := Bool.and_eq_true_iff.mp hidden
  unfold readPlain
  split
  · exact absurd passed (by decide)
  · exact absurd passed (by decide)
  · rw [verbose, Bool.true_and, Bool.true_and]
    cases blank : isAsciiBlank character with
    | true => rfl
    | false =>
        rw [blank, Bool.false_or] at passed
        rw [passed]
        rfl

/-- The symbols are passed over: a comment or, in verbose mode, a blank or the end of a line from a
number sign on. -/
def Modes.passes (modes : Modes) : List Symbol → Bool
  | .plain '(' :: .plain '?' :: .plain '#' :: rest =>
      rest.dropWhile (· != .plain ')') == [.plain ')']
  | .plain character :: rest =>
      modes.hides (.plain character) &&
        if isAsciiBlank character then rest.isEmpty
        else rest.dropWhile (· != .plain '\n') == [.plain '\n']
  | _ => false

theorem readSymbol_of_passes [Host] {symbol : Symbol} {used : List Symbol}
    (passed : progress.modes.passes (symbol :: used) = true) (rest : List Symbol) :
    readSymbol progress symbol (used ++ rest) = .ok (progress, rest) := by
  unfold Modes.passes at passed
  split at passed
  · next body taken =>
      obtain ⟨rfl, rfl⟩ := List.cons.inj taken
      obtain ⟨comment, rfl, absent⟩ := exists_of_dropWhile (beq_iff_eq.mp passed)
      have group := readGroup_comment absent progress rest
      rw [readSymbol, readPlain_opening]
      simpa using group
  · next character body taken =>
      obtain ⟨rfl, rfl⟩ := List.cons.inj taken
      obtain ⟨hidden, ended⟩ := Bool.and_eq_true_iff.mp passed
      rw [readSymbol, readPlain_of_hides hidden]
      split at ended
      · next blank =>
          rw [if_pos blank, List.isEmpty_iff.mp ended, List.nil_append]
      · next other =>
          obtain ⟨comment, rfl, absent⟩ := exists_of_dropWhile (beq_iff_eq.mp ended)
          rw [if_neg other, List.append_assoc, List.singleton_append, dropWhile_append_mark absent]
          rfl
  · cases passed

/-- Every step makes some move. -/
theorem exists_move [Host] {symbol : Symbol}
    (reads : readSymbol progress symbol symbols = .ok (next, after)) :
    ∃ move : Move, move.apply progress = .ok next := by
  cases shown : progress.modes.hides symbol with
  | false =>
      obtain ⟨move, used, -, applied, -⟩ := readSymbol_makes shown reads
      exact ⟨move, applied⟩
  | true =>
      refine ⟨.stay, ?_⟩
      cases symbol with
      | escaped character => cases shown
      | plain character =>
          rw [readSymbol, readPlain_of_hides shown] at reads
          exact congrArg Except.ok (Prod.mk.inj (Except.ok.inj reads)).1

end Steps

end ItemFilter.Pattern
