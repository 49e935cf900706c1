/-
This file says how the steps of the reader are written: which of them have parentheses or brackets,
and what these do to the groups that are open.
-/

import ItemFilter.Proofs.Pattern.Steps

namespace ItemFilter.Pattern

/-- None of the signs stands among the symbols, unless it is escaped. -/
def Lacks (signs : Text) (symbols : List Symbol) : Prop :=
  ∀ sign ∈ signs, .plain sign ∉ symbols

instance (signs : Text) (symbols : List Symbol) : Decidable (Lacks signs symbols) :=
  List.decidableBAll _ signs

/-- The characters that hide the next one, or open and close classes and groups. -/
def delimiters : Text :=
  "\\[]()".toList

section Signs

variable {signs fewer : Text} {symbols others after : List Symbol} {symbol : Symbol}
  {wanted : Char → Bool} {text : Text}

theorem lacks_nil : Lacks signs [] :=
  fun _ _ => List.not_mem_nil

theorem lacks_append :
    Lacks signs (symbols ++ others) ↔ Lacks signs symbols ∧ Lacks signs others := by
  simp only [Lacks, List.mem_append, not_or, forall_and]

theorem lacks_cons : Lacks signs (symbol :: others) ↔ Lacks signs [symbol] ∧ Lacks signs others :=
  @lacks_append signs [symbol] others

theorem lacks_cons_sign {sign : Char} :
    Lacks (sign :: signs) symbols ↔ .plain sign ∉ symbols ∧ Lacks signs symbols :=
  List.forall_mem_cons

theorem lacks_singleton {sign : Char} : Lacks [sign] [symbol] ↔ symbol ≠ .plain sign := by
  simp [Lacks, eq_comm]

theorem lacks_plain {character : Char} :
    Lacks signs [.plain character] ↔ character ∉ signs := by
  constructor
  · intro lacks listed
    exact lacks character listed (List.mem_singleton_self _)
  · intro absent sign listed member
    obtain rfl := Symbol.plain.inj (List.mem_singleton.mp member)
    exact absent listed

theorem Lacks.mono (lacks : Lacks signs symbols) (listed : fewer ⊆ signs) : Lacks fewer symbols :=
  fun sign member => lacks sign (listed member)

/-- Whatever refuses the signs takes none of them. -/
theorem lacks_of_refused (refused : signs.all (fun sign => !wanted sign) = true)
    (all : ∀ character ∈ text, wanted character = true) : Lacks signs (text.map .plain) := by
  intro sign listed member
  obtain ⟨character, taken, same⟩ := List.mem_map.mp member
  obtain rfl := Symbol.plain.inj same
  have other := List.all_eq_true.mp refused character listed
  rw [all character taken] at other
  cases other

theorem lacks_of_takePlain {count : Nat}
    (refused : delimiters.all (fun sign => !wanted sign) = true)
    (found : takePlain wanted count symbols = (text, after)) :
    ∃ used, symbols = used ++ after ∧ Lacks delimiters used := by
  obtain ⟨parts, all, -⟩ := of_takePlain found
  exact ⟨text.map .plain, parts, lacks_of_refused refused all⟩

end Signs

section Readers

variable {α : Type}

/-- The reader takes no delimiters. -/
def LeavesDelimiters (read : List Symbol → Except Fault (α × List Symbol)) : Prop :=
  ∀ ⦃symbols value after⦄, read symbols = .ok (value, after) →
    ∃ used, symbols = used ++ after ∧ Lacks delimiters used

theorem leavesDelimiters_pure (value : α) :
    LeavesDelimiters fun symbols => .ok (value, symbols) := by
  intro symbols found after read
  obtain ⟨rfl, rfl⟩ := Prod.mk.inj (Except.ok.inj read)
  exact ⟨[], rfl, lacks_nil⟩

theorem leavesDelimiters_readHex (count : Nat) : LeavesDelimiters (readHex count) := by
  intro symbols code after read
  cases found : takePlain isHexDigit count symbols with
  | mk digits rest =>
      rw [readHex, found] at read
      dsimp only at read
      split at read
      · split at read
        · obtain ⟨rfl, rfl⟩ := Prod.mk.inj (Except.ok.inj read)
          exact lacks_of_takePlain (by decide) found
        · cases read
      · cases read

/-- The name of a character has no delimiters. -/
theorem lacks_of_named? [Host] {name : Text} {code : Nat} (known : Host.named? name = some code) :
    Lacks delimiters (name.map .plain) :=
  lacks_of_refused (by decide) (List.all_eq_true.mp (Host.named?_plain known))

theorem leavesDelimiters_readNamed [Host] : LeavesDelimiters readNamed := by
  intro symbols code after read
  unfold readNamed at read
  split at read
  · split at read
    · next name behind found =>
        split at read
        · next value known =>
            obtain ⟨rfl, rfl⟩ := Prod.mk.inj (Except.ok.inj read)
            obtain ⟨rfl, -, -⟩ := of_takeName? found
            refine ⟨.plain '\x7b' :: (name.map .plain ++ [.plain '\x7d']), by simp, ?_⟩
            exact lacks_cons.mpr
              ⟨by decide, lacks_append.mpr ⟨lacks_of_named? known, by decide⟩⟩
        · cases read
    · cases read
  · cases read

theorem leavesDelimiters_readCode [Host] (character : Char) :
    LeavesDelimiters (readCode character) := by
  intro symbols code after read
  unfold readCode at read
  split at read
  · exact leavesDelimiters_pure _ read
  split at read
  · exact leavesDelimiters_readHex 2 read
  split at read
  · exact leavesDelimiters_readHex 4 read
  split at read
  · exact leavesDelimiters_readHex 8 read
  split at read
  · exact leavesDelimiters_readNamed read
  split at read
  · cases read
  · exact leavesDelimiters_pure _ read

theorem leavesDelimiters_readMember [Host] (symbol : Symbol) :
    LeavesDelimiters (readMember symbol) := by
  intro symbols member after read
  unfold readMember at read
  split at read
  · exact leavesDelimiters_pure _ read
  next character =>
    split at read
    · exact leavesDelimiters_pure _ read
    split at read
    · exact leavesDelimiters_pure _ read
    split at read
    · cases found : takePlain isOctalDigit 2 symbols with
      | mk digits rest =>
          rw [found] at read
          obtain ⟨code, -, same⟩ := exists_of_bind_ok read
          obtain ⟨rfl, rfl⟩ := Prod.mk.inj (Except.ok.inj same)
          exact lacks_of_takePlain (by decide) found
    · obtain ⟨⟨code, rest⟩, coded, same⟩ := exists_of_bind_ok read
      obtain ⟨rfl, rfl⟩ := Prod.mk.inj (Except.ok.inj same)
      exact leavesDelimiters_readCode character coded

end Readers

section Classes

/-- A class ends at its first closing bracket that is not its first member. -/
theorem lacks_of_readMembers [Host] {room : Nat} {members listed : List Member}
    {symbols after : List Symbol} (read : readMembers room members symbols = .ok (listed, after)) :
    ∃ body, symbols = body ++ .plain ']' :: after ∧ Lacks [']'] body.tail ∧
      (members ≠ [] → Lacks [']'] body) := by
  induction room generalizing members symbols with
  | zero => cases read
  | succ room ih =>
      cases symbols with
      | nil => cases read
      | cons symbol rest =>
          by_cases closes : symbol = .plain ']' ∧ members ≠ []
          · rw [readMembers, if_pos closes] at read
            obtain ⟨rfl, rfl⟩ := Prod.mk.inj (Except.ok.inj read)
            exact ⟨[], by rw [closes.1]; rfl, lacks_nil, fun _ => lacks_nil⟩
          · have longer : ∀ body : List Symbol, rest = body ++ .plain ']' :: after →
                Lacks [']'] body → ∃ body, symbol :: rest = body ++ .plain ']' :: after ∧
                  Lacks [']'] body.tail ∧ (members ≠ [] → Lacks [']'] body) := by
              rintro body rfl lacks
              refine ⟨symbol :: body, rfl, lacks, fun some => lacks_cons.mpr ⟨?_, lacks⟩⟩
              exact lacks_singleton.mpr fun same => closes ⟨same, some⟩
            obtain ⟨member, behind, first, onward⟩ := readMembers_cases closes read
            obtain ⟨used, rfl, lacks⟩ := leavesDelimiters_readMember symbol first
            have lacks : Lacks [']'] used := lacks.mono (by decide)
            rcases onward with ⟨rfl, -⟩ | ⟨last, tail, final, beyond, range, apart, rfl,
              readLast, -, later⟩ | ⟨-, later⟩
            · apply longer (used ++ [.plain '-']) (by simp)
              exact lacks_append.mpr ⟨lacks, by decide⟩
            · obtain ⟨more, rfl, lacksMore⟩ := leavesDelimiters_readMember last readLast
              obtain ⟨body, rfl, -, others⟩ := ih later
              apply longer (used ++ ([.plain '-', last] ++ (more ++ body))) (by simp)
              have ends : Lacks [']'] [.plain '-', last] :=
                lacks_cons.mpr ⟨by decide, lacks_singleton.mpr apart⟩
              have follows : Lacks [']'] (more ++ body) :=
                lacks_append.mpr ⟨lacksMore.mono (by decide), others (List.cons_ne_nil _ _)⟩
              exact lacks_append.mpr ⟨lacks, lacks_append.mpr ⟨ends, follows⟩⟩
            · obtain ⟨body, rfl, -, others⟩ := ih later
              apply longer (used ++ body) (by simp)
              exact lacks_append.mpr ⟨lacks, others (List.cons_ne_nil _ _)⟩

/-- A class is written with its brackets, and none but its first member is a closing bracket. -/
theorem lacks_of_readBracket [Host] {symbols after : List Symbol} {atom : Atom}
    (read : readBracket symbols = .ok (atom, after)) :
    ∃ negation body, symbols = negation ++ body ++ .plain ']' :: after ∧
      (negation = [] ∨ negation = [.plain '^']) ∧ Lacks [']'] body.tail := by
  unfold readBracket at read
  split at read
  · obtain ⟨⟨listed, behind⟩, found, same⟩ := exists_of_bind_ok read
    obtain ⟨rfl, rfl⟩ := Prod.mk.inj (Except.ok.inj same)
    obtain ⟨body, rfl, lacks, -⟩ := lacks_of_readMembers found
    exact ⟨[.plain '^'], body, rfl, .inr rfl, lacks⟩
  · obtain ⟨⟨listed, behind⟩, found, same⟩ := exists_of_bind_ok read
    obtain ⟨rfl, rfl⟩ := Prod.mk.inj (Except.ok.inj same)
    obtain ⟨body, rfl, lacks, -⟩ := lacks_of_readMembers found
    exact ⟨[], body, rfl, .inl rfl, lacks⟩

end Classes

section Names

variable {name : Text}

theorem lacks_of_isIdentifier (identifier : Text.isIdentifier name = true) :
    Lacks delimiters (name.map .plain) := by
  cases name with
  | nil => exact lacks_nil
  | cons first others =>
      obtain ⟨start, tail⟩ := (Bool.and_eq_true _ _).mp identifier
      have all : ∀ character ∈ first :: others, Text.isIdentifierTail character = true := by
        refine List.forall_mem_cons.mpr ⟨?_, List.all_eq_true.mp tail⟩
        rw [Text.isIdentifierTail, start, Bool.true_or]
      exact lacks_of_refused (by decide +kernel) all

/-- A character that the number of a group is written with. -/
def isNumberSign (character : Char) : Bool :=
  Text.isBlank character || Text.isDigit character || "+-_".toList.contains character

theorem isNumberSign_of_looseDigits? {previousIsDigit : Bool} {text digits : Text}
    (read : looseDigits? previousIsDigit text = some digits) :
    ∀ character ∈ text, isNumberSign character = true := by
  have numberSign : ∀ {character : Char}, Text.isDigit character = true →
      isNumberSign character = true := by
    intro character digit
    rw [isNumberSign, digit, Bool.or_true]
    rfl
  fun_induction looseDigits? previousIsDigit text generalizing digits with
  | case1 => exact List.forall_mem_nil _
  | case2 => exact List.forall_mem_nil _
  | case3 previousIsDigit character rest digit ih =>
      obtain ⟨found, later, -⟩ := Option.map_eq_some_iff.mp read
      exact List.forall_mem_cons.mpr ⟨numberSign digit, ih later⟩
  | case4 previousIsDigit character nothing underscore => cases read
  | case5 previousIsDigit character other underscore next rest digit ih =>
      obtain ⟨found, later, -⟩ := Option.map_eq_some_iff.mp read
      rw [underscore.1]
      exact List.forall_mem_cons.mpr
        ⟨by decide, List.forall_mem_cons.mpr ⟨numberSign digit, ih later⟩⟩
  | case6 => cases read
  | case7 => cases read

theorem lacks_of_groupNumber? {number : Nat} (read : groupNumber? name = some number) :
    Lacks delimiters (name.map .plain) := by
  obtain ⟨lead, trail, parts, leading, trailing⟩ := Text.exists_padding name
  have blank : ∀ {text : Text}, Text.Blank text →
      ∀ character ∈ text, isNumberSign character = true := by
    intro text blank character member
    rw [isNumberSign, blank character member]
    rfl
  have inside : ∀ character ∈ Text.strip name, isNumberSign character = true := by
    unfold groupNumber? at read
    cases signed : Text.splitSign name.strip with
    | mk sign digits =>
        rw [signed] at read
        dsimp only at read
        split at read
        · next found =>
            have all := isNumberSign_of_looseDigits? found
            unfold Text.splitSign at signed
            split at signed
            · cases signed
            · next rest same =>
                obtain ⟨-, rfl⟩ := Prod.mk.inj signed
                rw [same]
                exact List.forall_mem_cons.mpr ⟨by decide, all⟩
            · obtain ⟨-, rfl⟩ := Prod.mk.inj signed
              exact all
        · cases read
  have all : ∀ character ∈ name, isNumberSign character = true := by
    rw [parts]
    exact List.forall_mem_append.mpr
      ⟨blank leading, List.forall_mem_append.mpr ⟨inside, blank trailing⟩⟩
  exact lacks_of_refused (by decide +kernel) all

end Names

/-- What the groups are that are not closed yet, from the inside to the outside. -/
def Progress.enclosing (progress : Progress) : List Opening :=
  progress.openings.dropLast

/-- The groups that are not closed yet, and how many groups have been counted. -/
def Progress.outline (progress : Progress) : List Opening × Nat :=
  (progress.enclosing, progress.groups)

/-- What stands after the question mark of a group that neither captures nor wraps. -/
def isSpecial (mark : Text) : Bool :=
  "<=".toList.isPrefixOf mark || "<!".toList.isPrefixOf mark || "P=".toList.isPrefixOf mark ||
    mark.head?.any fun first => !":P<".toList.contains first

/-- What stands after the question mark of a group that does not capture. -/
def Opening.MarkedBy (mark : Text) (opening : Opening) : Prop :=
  opening = .plain ∧ mark = [':'] ∨ opening ≠ .plain ∧ isSpecial mark = true

/-- What a step does to the open groups, by the symbols that it takes. -/
inductive Outline (progress next : Progress) (after : List Symbol) : List Symbol → Prop
  | quiet {taken : List Symbol} (same : next.outline = progress.outline)
      (lacks : Lacks "[()".toList taken) : Outline progress next after taken
  | bracket {negation body : List Symbol} (same : next.outline = progress.outline)
      (negates : negation = [] ∨ negation = [.plain '^']) (lacks : Lacks [']'] body.tail) :
      Outline progress next after (.plain '[' :: (negation ++ body ++ [.plain ']']))
  | close {opening : Opening}
      (closes : progress.outline = (opening :: next.enclosing, next.groups)) :
      Outline progress next after [.plain ')']
  | capture {group : Nat} {mark : Text}
      (opens : next.outline = (.capture group :: progress.enclosing, progress.groups + 1))
      (marked : mark = [] ∧ after.head? ≠ some (.plain '?') ∨ "?P<".toList <+: mark)
      (lacks : Lacks delimiters (mark.map .plain)) :
      Outline progress next after (.plain '(' :: mark.map .plain)
  | enclose {opening : Opening} {mark : Text}
      (opens : next.outline = (opening :: progress.enclosing, progress.groups))
      (marked : opening.MarkedBy mark) (lacks : Lacks delimiters (mark.map .plain)) :
      Outline progress next after (.plain '(' :: .plain '?' :: mark.map .plain)
  | aside {mark : Text} (same : next.outline = progress.outline) (special : isSpecial mark = true)
      (lacks : Lacks delimiters (mark.map .plain)) :
      Outline progress next after (.plain '(' :: .plain '?' :: (mark.map .plain ++ [.plain ')']))
  | condition {group : Nat} {name : Text}
      (opens : next.outline = (.conditional group :: progress.enclosing, progress.groups))
      (lacks : Lacks delimiters (name.map .plain)) :
      Outline progress next after
        (.plain '(' :: .plain '?' :: .plain '(' :: (name.map .plain ++ [.plain ')']))
  | comment (text : List Symbol) :
      Outline progress next after (.plain '(' :: .plain '?' :: .plain '#' :: text)

section Steps

variable {progress next : Progress} {symbols after : List Symbol}

theorem outline_of_refer {group : Nat} (refers : progress.refer group = .ok next) :
    next.outline = progress.outline := by
  unfold Progress.refer at refers
  split at refers
  · obtain rfl := Except.ok.inj refers
    rfl
  · cases refers

theorem Progress.isIdentifier_of_openNamed {name : Text}
    (opens : progress.openNamed name = .ok next) : Text.isIdentifier name = true := by
  unfold Progress.openNamed at opens
  split at opens
  · next fits => exact ((Bool.and_eq_true _ _).mp fits).1
  · cases opens

theorem outline_of_repeatLast {greed : Greed} {least : Nat} {most : Option Nat}
    (repeats : progress.repeatLast greed least most = .ok next) :
    next.outline = progress.outline := by
  obtain ⟨base, item, whole, -, rfl⟩ := Progress.repeatLast_eq_ok.mp repeats
  rw [Progress.outline, Progress.outline, Progress.enclosing, Progress.enclosing,
    Progress.openings, Progress.openings, whole]
  rfl

theorem outline_of_close [Host] (closes : progress.close = .ok next) :
    ∃ opening, progress.outline = (opening :: next.enclosing, next.groups) := by
  cases below : progress.below with
  | nil =>
      rw [Progress.close, below] at closes
      cases closes
  | cons outer others =>
      refine ⟨progress.top.opening, ?_⟩
      have closed : next.openings = (outer :: others).map Frame.opening ∧
          next.groups = progress.groups := by
        rw [Progress.close, below] at closes
        dsimp only at closes
        split at closes
        · cases closes
        all_goals try
          obtain rfl := Except.ok.inj closes
          exact ⟨rfl, rfl⟩
        split at closes
        all_goals
          obtain rfl := Except.ok.inj closes
          exact ⟨rfl, rfl⟩
      rw [Progress.outline, Progress.enclosing, Progress.enclosing, closed.1, closed.2,
        Progress.openings, below]
      rfl

/-- A step that takes no delimiters and opens and closes nothing. -/
def Quiet (progress next : Progress) (symbols after : List Symbol) : Prop :=
  next.outline = progress.outline ∧ ∃ used, symbols = used ++ after ∧ Lacks delimiters used

theorem readReference_quiet {digit : Char}
    (reads : readReference progress digit symbols = .ok (next, after)) :
    Quiet progress next symbols after := by
  unfold readReference at reads
  dsimp only at reads
  split at reads
  · next second behind found =>
      obtain ⟨used, rfl, lacks⟩ := lacks_of_takePlain (by decide) found
      split at reads
      · next third beyond octal also =>
          obtain ⟨code, coded, same⟩ := exists_of_bind_ok reads
          obtain ⟨rfl, rfl⟩ := Prod.mk.inj (Except.ok.inj same)
          obtain ⟨more, rfl, lacksMore⟩ := lacks_of_takePlain (by decide) also
          exact ⟨rfl, used ++ more, (List.append_assoc _ _ _).symm,
            lacks_append.mpr ⟨lacks, lacksMore⟩⟩
      · obtain ⟨found, refers, same⟩ := exists_of_bind_ok reads
        obtain ⟨rfl, rfl⟩ := Prod.mk.inj (Except.ok.inj same)
        exact ⟨outline_of_refer refers, used, rfl, lacks⟩
  · obtain ⟨found, refers, same⟩ := exists_of_bind_ok reads
    obtain ⟨rfl, rfl⟩ := Prod.mk.inj (Except.ok.inj same)
    exact ⟨outline_of_refer refers, [], rfl, lacks_nil⟩

theorem readEscape_quiet [Host] {character : Char}
    (reads : readEscape progress character symbols = .ok (next, after)) :
    Quiet progress next symbols after := by
  unfold readEscape at reads
  split at reads
  · obtain ⟨rfl, rfl⟩ := Prod.mk.inj (Except.ok.inj reads)
    exact ⟨rfl, [], rfl, lacks_nil⟩
  · obtain ⟨rfl, rfl⟩ := Prod.mk.inj (Except.ok.inj reads)
    exact ⟨rfl, [], rfl, lacks_nil⟩
  split at reads
  · cases found : takePlain isOctalDigit 2 symbols with
    | mk digits rest =>
        rw [found] at reads
        obtain ⟨code, -, same⟩ := exists_of_bind_ok reads
        obtain ⟨rfl, rfl⟩ := Prod.mk.inj (Except.ok.inj same)
        exact ⟨rfl, lacks_of_takePlain (by decide) found⟩
  split at reads
  · exact readReference_quiet reads
  · obtain ⟨⟨code, rest⟩, coded, same⟩ := exists_of_bind_ok reads
    obtain ⟨rfl, rfl⟩ := Prod.mk.inj (Except.ok.inj same)
    exact ⟨rfl, leavesDelimiters_readCode character coded⟩

theorem readRepetition_quiet {least : Nat} {most : Option Nat}
    (reads : readRepetition progress least most symbols = .ok (next, after)) :
    Quiet progress next symbols after := by
  cases found : readGreed symbols with
  | mk greed rest =>
      rw [readRepetition, found] at reads
      obtain ⟨repeated, repeats, same⟩ := exists_of_bind_ok reads
      obtain ⟨rfl, rfl⟩ := Prod.mk.inj (Except.ok.inj same)
      refine ⟨outline_of_repeatLast repeats, ?_⟩
      unfold readGreed at found
      split at found
      · obtain ⟨-, rfl⟩ := Prod.mk.inj found
        exact ⟨[.plain '?'], rfl, by decide⟩
      · obtain ⟨-, rfl⟩ := Prod.mk.inj found
        exact ⟨[.plain '+'], rfl, by decide⟩
      · obtain ⟨-, rfl⟩ := Prod.mk.inj found
        exact ⟨[], rfl, lacks_nil⟩

theorem lacks_of_readCounts {least : Nat} {most : Option Nat}
    (read : readCounts symbols = .ok (some (least, most, after))) :
    ∃ used, symbols = used ++ after ∧ Lacks delimiters used := by
  have unclosed : symbols.head? ≠ some (.plain '\x7d') := by
    intro closes
    obtain ⟨rest, rfl⟩ := List.head?_eq_some_iff.mp closes
    cases read
  obtain ⟨used, digits, more, rest, rfl, signs, same, -⟩ := readCounts_digits unclosed
  rw [same] at read
  obtain ⟨rfl, -⟩ := closeCounts_again read
  refine ⟨used.map .plain ++ [.plain '\x7d'], by simp, ?_⟩
  exact lacks_append.mpr ⟨lacks_of_refused (by decide) signs, by decide⟩

theorem isSpecial_cons {first : Char} (other : ":P<".toList.contains first = false) (rest : Text) :
    isSpecial (first :: rest) = true := by
  rw [isSpecial, List.head?_cons, Option.any_some, other, Bool.not_false, Bool.or_true]

theorem isSpecial_of_isModeLetter {first : Char} (letter : isModeLetter first = true)
    (rest : Text) : isSpecial (first :: rest) = true := by
  have refused : ":P<".toList.all (fun sign => !isModeLetter sign) = true := by decide
  apply isSpecial_cons
  rw [Bool.eq_false_iff]
  intro listed
  have other := List.all_eq_true.mp refused first (List.contains_iff_mem.mp listed)
  rw [letter] at other
  cases other

section Heads

variable {used : List Symbol} {move : Move}

/-- A mark that says what the group is. -/
theorem outline_of_mark (mark : Text) {opening : Opening}
    (opens : next.outline = (opening :: progress.enclosing, progress.groups))
    (marked : opening.MarkedBy mark) (lacks : Lacks delimiters used)
    (written : used = mark.map .plain) :
    Outline progress next after (.plain '(' :: .plain '?' :: used) := by
  subst written
  exact .enclose opens marked lacks

theorem ModeChange.WrittenAs.lacks {change : ModeChange} {letters : Text}
    (written : change.WrittenAs letters) : Lacks delimiters (letters.map .plain) :=
  lacks_of_refused (by decide) written.all

theorem ModeHead.outline [Host] (head : ModeHead used move)
    (applied : move.apply progress = .ok next) :
    Outline progress next after (.plain '(' :: .plain '?' :: used) := by
  cases head with
  | on written something allowed =>
      obtain rfl := Except.ok.inj applied
      obtain ⟨first, others, rfl, letter⟩ := written.exists_cons something
      exact outline_of_mark (first :: others ++ [':']) rfl
        (.inr ⟨nofun, isSpecial_of_isModeLetter letter _⟩)
        (lacks_append.mpr ⟨written.lacks, by decide⟩) (by simp)
  | @off letters lettersOff on off written writtenOff fits =>
      obtain rfl := Except.ok.inj applied
      have special : isSpecial (letters ++ '-' :: (lettersOff ++ [':'])) = true := by
        cases letters with
        | nil => exact isSpecial_cons (by decide) _
        | cons first others =>
            exact isSpecial_of_isModeLetter (written.all first List.mem_cons_self) _
      have lacks := lacks_append.mpr ⟨writtenOff.lacks, (by decide : Lacks delimiters [.plain ':'])⟩
      exact outline_of_mark _ rfl (.inr ⟨nofun, special⟩)
        (lacks_append.mpr ⟨written.lacks, lacks_cons.mpr ⟨by decide, lacks⟩⟩) (by simp)
  | whole written something =>
      obtain rfl := Except.ok.inj applied
      obtain ⟨first, others, rfl, letter⟩ := written.exists_cons something
      refine .aside ?_ (isSpecial_of_isModeLetter letter others) written.lacks
      rfl

theorem Head.outline [Host] (head : Head used move) (applied : move.apply progress = .ok next) :
    Outline progress next after (.plain '(' :: used) := by
  cases head with
  | wrap =>
      obtain rfl := Except.ok.inj applied
      exact outline_of_mark [':'] rfl (.inl ⟨rfl, rfl⟩) (by decide) rfl
  | ahead =>
      obtain rfl := Except.ok.inj applied
      exact outline_of_mark ['='] rfl (.inr ⟨nofun, by decide⟩) (by decide) rfl
  | notAhead =>
      obtain rfl := Except.ok.inj applied
      exact outline_of_mark ['!'] rfl (.inr ⟨nofun, by decide⟩) (by decide) rfl
  | behind =>
      obtain rfl := Except.ok.inj applied
      exact outline_of_mark ['<', '='] rfl (.inr ⟨nofun, by decide⟩) (by decide) rfl
  | notBehind =>
      obtain rfl := Except.ok.inj applied
      exact outline_of_mark ['<', '!'] rfl (.inr ⟨nofun, by decide⟩) (by decide) rfl
  | atomic =>
      obtain rfl := Except.ok.inj applied
      exact outline_of_mark ['>'] rfl (.inr ⟨nofun, by decide⟩) (by decide) rfl
  | comment => exact .comment _
  | @condition name group conditions known =>
      obtain rfl := Except.ok.inj applied
      have lacks : Lacks delimiters (name.map .plain) := by
        rcases known with identifier | numbered
        · exact lacks_of_isIdentifier identifier
        · obtain ⟨number, numbered⟩ := Option.isSome_iff_exists.mp numbered
          exact lacks_of_groupNumber? numbered
      exact .condition rfl lacks
  | @named name =>
      have identifier := Progress.isIdentifier_of_openNamed applied
      have lacks : Lacks delimiters (("?P<".toList ++ (name ++ ['>'])).map .plain) := by
        rw [List.map_append, List.map_append]
        exact lacks_append.mpr
          ⟨by decide, lacks_append.mpr ⟨lacks_of_isIdentifier identifier, by decide⟩⟩
      have opens : next.outline = (.capture (progress.groups + 1) :: progress.enclosing,
          progress.groups + 1) := by
        rw [Progress.eq_of_openNamed applied]
        rfl
      have outline : Outline progress next after _ :=
        .capture opens (.inr (List.prefix_append "?P<".toList (name ++ ['>']))) lacks
      rwa [List.map_append, List.map_append] at outline
  | @refer name group identifier =>
      obtain rfl := Except.ok.inj applied
      have special : isSpecial ("P=".toList ++ name) = true := by
        rw [isSpecial, List.isPrefixOf_iff_prefix.mpr (List.prefix_append "P=".toList name)]
        simp
      have lacks : Lacks delimiters (("P=".toList ++ name).map .plain) := by
        rw [List.map_append]
        exact lacks_append.mpr ⟨by decide, lacks_of_isIdentifier identifier⟩
      refine .aside ?_ special lacks
      rfl
  | modes head => exact head.outline applied

end Heads

theorem readGroup_outline (reads : readGroup progress symbols = .ok (next, after)) :
    ∃ used, symbols = used ++ after ∧ Outline progress next after (.plain '(' :: used) := by
  rcases readGroup_cases reads with ⟨unmarked, rfl, rfl⟩ | ⟨move, used, rfl, head, applied⟩
  · have outline : Outline progress progress.openCapture after
        (.plain '(' :: ([] : Text).map .plain) :=
      .capture rfl (.inl ⟨rfl, unmarked⟩) lacks_nil
    exact ⟨[], rfl, outline⟩
  · exact ⟨used, rfl, head.outline applied⟩

theorem Quiet.outline {lead : Symbol} (quiet : Quiet progress next symbols after)
    (plain : Lacks "[()".toList [lead]) :
    ∃ used, symbols = used ++ after ∧ Outline progress next after (lead :: used) := by
  obtain ⟨same, used, rfl, lacks⟩ := quiet
  exact ⟨used, rfl, .quiet same (lacks_cons.mpr ⟨plain, lacks.mono (by decide)⟩)⟩

theorem readPlain_outline [Host] {character : Char} (visible : progress.modes.verbose = false)
    (reads : readPlain progress character symbols = .ok (next, after)) :
    ∃ used, symbols = used ++ after ∧ Outline progress next after (.plain character :: used) := by
  cases sign : isSign character with
  | false =>
      rw [readPlain_of_not_isSign sign (Modes.hides_of_not_verbose visible _)] at reads
      obtain ⟨rfl, rfl⟩ := Prod.mk.inj (Except.ok.inj reads)
      have plain : ∀ other ∈ [character], (!isSign other) = true := by
        rw [List.forall_mem_singleton, sign, Bool.not_false]
      exact ⟨[], rfl, .quiet rfl (lacks_of_refused (by decide) plain)⟩
  | true =>
      unfold readPlain at reads
      rcases mem_signs sign with rfl | rfl | rfl | rfl | rfl | rfl | rfl | rfl | rfl | rfl | rfl
      all_goals simp only [visible, Bool.false_and, Bool.false_eq_true, if_false] at reads
      · obtain ⟨found, alternates, same⟩ := exists_of_bind_ok reads
        obtain ⟨rfl, rfl⟩ := Prod.mk.inj (Except.ok.inj same)
        obtain rfl := Progress.eq_of_alternate alternates
        exact ⟨[], rfl, .quiet rfl (by decide)⟩
      · obtain ⟨found, closes, same⟩ := exists_of_bind_ok reads
        obtain ⟨rfl, rfl⟩ := Prod.mk.inj (Except.ok.inj same)
        obtain ⟨opening, closed⟩ := outline_of_close closes
        exact ⟨[], rfl, .close closed⟩
      · obtain ⟨⟨atom, rest⟩, found, same⟩ := exists_of_bind_ok reads
        obtain ⟨rfl, rfl⟩ := Prod.mk.inj (Except.ok.inj same)
        obtain ⟨negation, body, rfl, negates, lacks⟩ := lacks_of_readBracket found
        refine ⟨negation ++ body ++ [.plain ']'], by simp, .bracket ?_ negates lacks⟩
        rfl
      · obtain ⟨rfl, rfl⟩ := Prod.mk.inj (Except.ok.inj reads)
        exact ⟨[], rfl, .quiet rfl (by decide)⟩
      · obtain ⟨rfl, rfl⟩ := Prod.mk.inj (Except.ok.inj reads)
        exact ⟨[], rfl, .quiet rfl (by decide)⟩
      · obtain ⟨rfl, rfl⟩ := Prod.mk.inj (Except.ok.inj reads)
        exact ⟨[], rfl, .quiet rfl (by decide)⟩
      · exact readGroup_outline reads
      · exact (readRepetition_quiet reads).outline (by decide)
      · exact (readRepetition_quiet reads).outline (by decide)
      · exact (readRepetition_quiet reads).outline (by decide)
      · obtain ⟨found, counts, reads⟩ := exists_of_bind_ok reads
        cases found with
        | none =>
            obtain ⟨rfl, rfl⟩ := Prod.mk.inj (Except.ok.inj reads)
            exact ⟨[], rfl, .quiet rfl (by decide)⟩
        | some found =>
            obtain ⟨least, most, rest⟩ := found
            obtain ⟨used, rfl, lacks⟩ := lacks_of_readCounts counts
            obtain ⟨same, mark, rfl, lacksMark⟩ := readRepetition_quiet reads
            have quiet : Quiet progress next (used ++ (mark ++ after)) after :=
              ⟨same, used ++ mark, (List.append_assoc _ _ _).symm,
                lacks_append.mpr ⟨lacks, lacksMark⟩⟩
            exact quiet.outline (by decide)

/-- Outside of verbose mode the symbols of a step say what it does to the open groups. -/
theorem readSymbol_outline [Host] {symbol : Symbol} (visible : progress.modes.verbose = false)
    (reads : readSymbol progress symbol symbols = .ok (next, after)) :
    ∃ used, symbols = used ++ after ∧ Outline progress next after (symbol :: used) := by
  cases symbol with
  | plain character => exact readPlain_outline visible reads
  | escaped character => exact (readEscape_quiet reads).outline (by simp [Lacks])

end Steps

end ItemFilter.Pattern
