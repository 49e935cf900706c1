/-
This file says how far the readers of symbols look. A reader takes some symbols, and takes them
again whatever comes next, as long as that does not begin with a symbol that could be added.
-/

import ItemFilter.Pattern.Reader
import ItemFilter.Proofs.Traversal

namespace ItemFilter.Pattern

section Plain

variable {wanted : Char → Bool} {taken : Text} {symbols after : List Symbol} {count : Nat}

/-- The symbols do not begin with a wanted character. -/
def StartsUnwanted (wanted : Char → Bool) (symbols : List Symbol) : Prop :=
  ∀ character, symbols.head? = some (.plain character) → wanted character = false

theorem takePlain_of_startsUnwanted (unwanted : StartsUnwanted wanted symbols) (count : Nat) :
    takePlain wanted count symbols = ([], symbols) := by
  cases count with
  | zero => rfl
  | succ count =>
      cases symbols with
      | nil => rfl
      | cons symbol rest =>
          cases symbol with
          | escaped character => rfl
          | plain character =>
              rw [takePlain, unwanted character rfl]
              rfl

/-- What is taken is a start of the symbols, and it ends at the first unwanted symbol or when there
are enough. -/
theorem of_takePlain (read : takePlain wanted count symbols = (taken, after)) :
    symbols = taken.map .plain ++ after ∧ (∀ character ∈ taken, wanted character = true) ∧
      taken.length ≤ count ∧ (taken.length < count → StartsUnwanted wanted after) := by
  induction count generalizing symbols taken with
  | zero =>
      obtain ⟨rfl, rfl⟩ := Prod.mk.inj read
      exact ⟨rfl, nofun, Nat.le_refl 0, nofun⟩
  | succ count ih =>
      by_cases begins : ∃ character rest, symbols = .plain character :: rest ∧
          wanted character = true
      · obtain ⟨character, rest, rfl, accepted⟩ := begins
        rw [takePlain, if_pos accepted] at read
        obtain ⟨rfl, same⟩ := Prod.mk.inj read
        obtain ⟨parts, all, few, ends⟩ := ih (Prod.ext rfl same)
        refine ⟨?_, List.forall_mem_cons.mpr ⟨accepted, all⟩, Nat.succ_le_succ few, ?_⟩
        · rw [List.map_cons, List.cons_append, ← parts]
        · exact fun fewer => ends (Nat.lt_of_succ_lt_succ fewer)
      · have unwanted : StartsUnwanted wanted symbols := by
          intro character first
          obtain ⟨rest, rfl⟩ := List.head?_eq_some_iff.mp first
          cases accepted : wanted character with
          | false => rfl
          | true => exact absurd ⟨character, rest, rfl, accepted⟩ begins
        rw [takePlain_of_startsUnwanted unwanted] at read
        obtain ⟨rfl, rfl⟩ := Prod.mk.inj read
        exact ⟨rfl, nofun, Nat.zero_le _, fun _ => unwanted⟩

theorem takePlain_append (all : ∀ character ∈ taken, wanted character = true)
    (few : taken.length ≤ count) (ends : taken.length < count → StartsUnwanted wanted after) :
    takePlain wanted count (taken.map .plain ++ after) = (taken, after) := by
  induction taken generalizing count with
  | nil =>
      rcases Nat.eq_zero_or_pos count with rfl | positive
      · rfl
      · exact takePlain_of_startsUnwanted (ends positive) count
  | cons character rest ih =>
      obtain ⟨accepted, others⟩ := List.forall_mem_cons.mp all
      obtain ⟨room, rfl⟩ := Nat.exists_eq_succ_of_ne_zero (Nat.ne_zero_of_lt few)
      have inner := ih others (Nat.le_of_succ_le_succ few) fun fewer =>
        ends (Nat.succ_lt_succ fewer)
      rw [List.map_cons, List.cons_append, takePlain, if_pos accepted, inner]

theorem of_takeAllPlain (read : takeAllPlain wanted symbols = (taken, after)) :
    symbols = taken.map .plain ++ after ∧ (∀ character ∈ taken, wanted character = true) ∧
      StartsUnwanted wanted after := by
  obtain ⟨parts, all, few, ends⟩ := of_takePlain read
  refine ⟨parts, all, ?_⟩
  rcases Nat.lt_or_eq_of_le few with fewer | enough
  · exact ends fewer
  · have nothing : after = [] := by
      have length := congrArg List.length parts
      rw [List.length_append, List.length_map] at length
      exact List.eq_nil_of_length_eq_zero (by omega)
    rw [nothing]
    exact nofun

theorem takeAllPlain_append (all : ∀ character ∈ taken, wanted character = true)
    (ends : StartsUnwanted wanted after) :
    takeAllPlain wanted (taken.map .plain ++ after) = (taken, after) := by
  apply takePlain_append all
  · rw [List.length_append, List.length_map]
    exact Nat.le_add_right _ _
  · exact fun _ => ends

/-- A name is not empty and ends at the first closing character. -/
theorem of_takeName? {closing : Char} {name : Text}
    (read : takeName? closing symbols = some (name, after)) :
    symbols = name.map .plain ++ .plain closing :: after ∧ name ≠ [] ∧ closing ∉ name := by
  unfold takeName? at read
  split at read
  · cases read
  · cases read
  · cases read
  · next last rest nonempty found =>
      obtain ⟨rfl, rfl⟩ := Prod.mk.inj (Option.some.inj read)
      obtain ⟨parts, all, ends⟩ := of_takeAllPlain found
      have closes : last = closing := by simpa using ends last rfl
      refine ⟨by rw [← closes, parts], nonempty, ?_⟩
      · intro member
        simpa using all closing member

theorem takeName?_append {closing : Char} {name : Text} (nonempty : name ≠ [])
    (absent : closing ∉ name) (after : List Symbol) :
    takeName? closing (name.map .plain ++ .plain closing :: after) = some (name, after) := by
  have all : ∀ character ∈ name, (character != closing) = true := by
    intro character member
    rw [bne_iff_ne]
    rintro rfl
    exact absent member
  have ends : StartsUnwanted (· != closing) (.plain closing :: after) := by
    rintro character ⟨⟩
    simp
  rw [takeName?, takeAllPlain_append all ends]
  cases name with
  | nil => exact absurd rfl nonempty
  | cons first others => rfl

end Plain

section Readers

variable {α β : Type}

/-- The other symbols begin with a character only if the first ones do. The parenthesis that closes
everything is apart from that. -/
def StartsAlike (after other : List Symbol) : Prop :=
  ∀ character, character ≠ ')' → other.head? = some (.plain character) →
    after.head? = some (.plain character)

theorem StartsAlike.of_head? {after other : List Symbol} (same : other.head? = after.head?) :
    StartsAlike after other :=
  fun _ _ begins => same ▸ begins

/-- Symbols that are put in front hide the difference. -/
theorem StartsAlike.append {after other : List Symbol} (alike : StartsAlike after other)
    (used : List Symbol) : StartsAlike (used ++ after) (used ++ other) := by
  cases used with
  | nil => exact alike
  | cons symbol rest => exact .of_head? rfl

theorem StartsUnwanted.of_startsAlike {wanted : Char → Bool} {after other : List Symbol}
    (unwanted : StartsUnwanted wanted after) (closing : wanted ')' = false)
    (alike : StartsAlike after other) : StartsUnwanted wanted other := by
  intro character begins
  by_cases closes : character = ')'
  · rw [closes, closing]
  · exact unwanted character (alike character closes begins)

/-- The reader takes a start of the symbols, and takes it again before other symbols that begin
alike. -/
def Nearsighted (read : List Symbol → Except Fault (α × List Symbol)) : Prop :=
  ∀ ⦃symbols value after⦄, read symbols = .ok (value, after) →
    ∃ used, symbols = used ++ after ∧
      ∀ other, StartsAlike after other → read (used ++ other) = .ok (value, other)

theorem nearsighted_pure (value : α) : Nearsighted fun symbols => .ok (value, symbols) := by
  intro symbols found after read
  obtain ⟨rfl, rfl⟩ := Prod.mk.inj (Except.ok.inj read)
  exact ⟨[], rfl, fun other _ => rfl⟩

theorem nearsighted_error (fault : Fault) :
    Nearsighted fun _ => (.error fault : Except Fault (α × List Symbol)) :=
  nofun

/-- One reader after the other looks no farther than they do. -/
theorem Nearsighted.bind {first : List Symbol → Except Fault (α × List Symbol)}
    {second : α → List Symbol → Except Fault (β × List Symbol)} (near : Nearsighted first)
    (nearSecond : ∀ value, Nearsighted (second value)) :
    Nearsighted fun symbols => first symbols >>= fun (value, rest) => second value rest := by
  intro symbols value after read
  obtain ⟨⟨found, rest⟩, readFirst, readSecond⟩ := exists_of_bind_ok read
  obtain ⟨used, rfl, again⟩ := near readFirst
  obtain ⟨more, rfl, against⟩ := nearSecond found readSecond
  refine ⟨used ++ more, (List.append_assoc _ _ _).symm, ?_⟩
  intro other alike
  show first (used ++ more ++ other) >>= _ = _
  rw [List.append_assoc, again _ (alike.append more)]
  exact against other alike

theorem takePlain_again {wanted : Char → Bool} (closing : wanted ')' = false) {count : Nat}
    {symbols after : List Symbol} {taken : Text}
    (read : takePlain wanted count symbols = (taken, after)) :
    symbols = taken.map .plain ++ after ∧
      ∀ other, StartsAlike after other →
        takePlain wanted count (taken.map .plain ++ other) = (taken, other) := by
  obtain ⟨parts, all, few, ends⟩ := of_takePlain read
  refine ⟨parts, ?_⟩
  intro other alike
  exact takePlain_append all few fun fewer => (ends fewer).of_startsAlike closing alike

theorem nearsighted_readHex (count : Nat) : Nearsighted (readHex count) := by
  intro symbols code after read
  rw [readHex] at read
  cases found : takePlain isHexDigit count symbols with
  | mk digits rest =>
      obtain ⟨parts, again⟩ := takePlain_again (by decide) found
      rw [found] at read
      dsimp only at read
      split at read
      · next value hexadecimal =>
          split at read
          · next fits =>
              obtain ⟨rfl, rfl⟩ := Prod.mk.inj (Except.ok.inj read)
              refine ⟨_, parts, ?_⟩
              intro other alike
              rw [readHex, again other alike]
              dsimp only
              rw [hexadecimal]
              exact if_pos fits
          · cases read
      · cases read

theorem nearsighted_readNamed [Host] : Nearsighted readNamed := by
  intro symbols code after read
  unfold readNamed at read
  split at read
  · next rest =>
      split at read
      · next name behind found =>
          split at read
          · next value known =>
              obtain ⟨rfl, rfl⟩ := Prod.mk.inj (Except.ok.inj read)
              obtain ⟨rfl, nonempty, absent⟩ := of_takeName? found
              refine ⟨.plain '{' :: (name.map .plain ++ [.plain '}']), by simp, ?_⟩
              intro other _
              have again := takeName?_append nonempty absent other
              rw [List.cons_append, List.append_assoc, List.singleton_append, readNamed, again]
              dsimp only
              rw [known]
          · cases read
      · cases read
  · cases read

theorem nearsighted_readCode [Host] (character : Char) : Nearsighted (readCode character) := by
  cases control : controlCode? character with
  | some code =>
      have same : readCode character = fun rest => .ok (code, rest) := by
        funext rest
        rw [readCode, control]
      rw [same]
      exact nearsighted_pure code
  | none =>
      have same : readCode character = fun rest =>
          if character = 'x' then readHex 2 rest
          else if character = 'u' then readHex 4 rest
          else if character = 'U' then readHex 8 rest
          else if character = 'N' then readNamed rest
          else if character.isAlpha || Text.isPlainDigit character then .error .malformed
          else .ok (character.toNat, rest) := by
        funext rest
        rw [readCode, control]
      rw [same]
      by_cases two : character = 'x'
      · simp only [if_pos two]
        exact nearsighted_readHex 2
      by_cases four : character = 'u'
      · simp only [if_neg two, if_pos four]
        exact nearsighted_readHex 4
      by_cases eight : character = 'U'
      · simp only [if_neg two, if_neg four, if_pos eight]
        exact nearsighted_readHex 8
      by_cases named : character = 'N'
      · simp only [if_neg two, if_neg four, if_neg eight, if_pos named]
        exact nearsighted_readNamed
      by_cases meaningless : (character.isAlpha || Text.isPlainDigit character) = true
      · simp only [if_neg two, if_neg four, if_neg eight, if_neg named, if_pos meaningless]
        exact nearsighted_error .malformed
      · simp only [if_neg two, if_neg four, if_neg eight, if_neg named, if_neg meaningless]
        exact nearsighted_pure character.toNat

/-- The code point written with the octal digit and up to two more. -/
def readOctal (lead : Text) (symbols : List Symbol) : Except Fault (Nat × List Symbol) :=
  octalCode (lead ++ (takePlain isOctalDigit 2 symbols).1) >>= fun code =>
    .ok (code, (takePlain isOctalDigit 2 symbols).2)

theorem nearsighted_readOctal (lead : Text) : Nearsighted (readOctal lead) := by
  intro symbols code after read
  cases found : takePlain isOctalDigit 2 symbols with
  | mk digits rest =>
      obtain ⟨parts, again⟩ := takePlain_again (by decide) found
      rw [readOctal, found] at read
      obtain ⟨value, coded, same⟩ := exists_of_bind_ok read
      obtain ⟨rfl, rfl⟩ := Prod.mk.inj (Except.ok.inj same)
      refine ⟨_, parts, ?_⟩
      intro other alike
      rw [readOctal, again other alike, coded]
      rfl

theorem nearsighted_readMember [Host] (symbol : Symbol) : Nearsighted (readMember symbol) := by
  cases symbol with
  | plain character => exact nearsighted_pure _
  | escaped character =>
      cases category : categoryOf? character with
      | some kind =>
          have same : readMember (.escaped character) = fun rest =>
              .ok (.category kind.1 kind.2, rest) := by
            funext rest
            rw [readMember, category]
          rw [same]
          exact nearsighted_pure _
      | none =>
          by_cases backspace : character = 'b'
          · have same : readMember (.escaped character) = fun rest => .ok (.single 8, rest) := by
              funext rest
              rw [readMember, category]
              exact if_pos backspace
            rw [same]
            exact nearsighted_pure _
          by_cases octal : isOctalDigit character = true
          · have same : readMember (.escaped character) = fun rest =>
                readOctal [character] rest >>= fun read => .ok (.single read.1, read.2) := by
              funext rest
              rw [readMember, category]
              simp only [if_neg backspace, if_pos octal, readOctal, List.singleton_append]
              cases octalCode (character :: (takePlain isOctalDigit 2 rest).1) <;> rfl
            rw [same]
            exact (nearsighted_readOctal [character]).bind fun code =>
              nearsighted_pure (Member.single code)
          · have same : readMember (.escaped character) = fun rest =>
                readCode character rest >>= fun read => .ok (.single read.1, read.2) := by
              funext rest
              rw [readMember, category]
              simp only [if_neg backspace, if_neg octal]
              rfl
            rw [same]
            exact (nearsighted_readCode character).bind fun code =>
              nearsighted_pure (Member.single code)

end Readers

section Classes

variable {room : Nat} {members listed : List Member} {member : Member} {symbol : Symbol}
  {rest behind after : List Symbol}

theorem readMembers_dash [Host] (open' : ¬(symbol = .plain ']' ∧ members ≠ []))
    (first : readMember symbol rest = .ok (member, .plain '-' :: .plain ']' :: after)) :
    readMembers (room + 1) members (symbol :: rest) =
      .ok ((.single '-'.toNat :: member :: members).reverse, after) := by
  rw [readMembers, if_neg open', first]
  rfl

theorem readMembers_range [Host] {last : Symbol} (open' : ¬(symbol = .plain ']' ∧ members ≠ []))
    (first : readMember symbol rest = .ok (member, .plain '-' :: last :: behind))
    (other : last ≠ .plain ']') :
    readMembers (room + 1) members (symbol :: rest) =
      (readMember last behind >>= fun (final, beyond) => rangeOf member final >>= fun range =>
        readMembers room (range :: members) beyond) := by
  rw [readMembers, if_neg open', first]
  dsimp only [bind, Except.bind]
  split
  · next same =>
      obtain ⟨closes, -⟩ : last = .plain ']' ∧ behind = _ := by simpa using same
      exact absurd closes other
  · next same =>
      obtain ⟨rfl, rfl⟩ : last = _ ∧ behind = _ := by simpa using same
      rfl
  · next same => cases same
  · next others _ => exact (others last behind rfl).elim

theorem readMembers_single [Host] (open' : ¬(symbol = .plain ']' ∧ members ≠ []))
    (first : readMember symbol rest = .ok (member, behind))
    (other : behind.head? ≠ some (.plain '-')) :
    readMembers (room + 1) members (symbol :: rest) =
      readMembers room (member :: members) behind := by
  rw [readMembers, if_neg open', first]
  dsimp only [bind, Except.bind]
  split
  · exact absurd rfl other
  · exact absurd rfl other
  · exact absurd rfl other
  · rfl

/-- What a class holds next, unless it ends here. -/
theorem readMembers_cases [Host] (open' : ¬(symbol = .plain ']' ∧ members ≠ []))
    (read : readMembers (room + 1) members (symbol :: rest) = .ok (listed, after)) :
    ∃ member behind, readMember symbol rest = .ok (member, behind) ∧
      (behind = .plain '-' :: .plain ']' :: after ∧
          listed = (.single '-'.toNat :: member :: members).reverse ∨
        (∃ last tail final beyond range, last ≠ .plain ']' ∧ behind = .plain '-' :: last :: tail ∧
          readMember last tail = .ok (final, beyond) ∧ rangeOf member final = .ok range ∧
          readMembers room (range :: members) beyond = .ok (listed, after)) ∨
        behind.head? ≠ some (.plain '-') ∧
          readMembers room (member :: members) behind = .ok (listed, after)) := by
  rw [readMembers, if_neg open'] at read
  obtain ⟨⟨member, behind⟩, first, read⟩ := exists_of_bind_ok read
  refine ⟨member, behind, first, ?_⟩
  dsimp only at read
  split at read
  · obtain ⟨rfl, rfl⟩ := Prod.mk.inj (Except.ok.inj read)
    exact .inl ⟨rfl, rfl⟩
  · next last tail other =>
      obtain ⟨⟨final, beyond⟩, readLast, read⟩ := exists_of_bind_ok read
      obtain ⟨range, ranged, read⟩ := exists_of_bind_ok read
      have apart : last ≠ .plain ']' := by
        rintro rfl
        exact other rfl
      exact .inr (.inl ⟨last, tail, final, beyond, range, apart, rfl, readLast, ranged, read⟩)
  · cases read
  · next nothing lone last =>
      refine .inr (.inr ⟨?_, read⟩)
      intro begins
      obtain ⟨tail, rfl⟩ := List.head?_eq_some_iff.mp begins
      cases tail with
      | nil => exact last rfl
      | cons next others => exact lone next others rfl

/-- A class is read up to its closing bracket and no farther. -/
theorem readMembers_again [Host] {symbols : List Symbol}
    (read : readMembers room members symbols = .ok (listed, after)) :
    ∃ used, symbols = used ++ after ∧ used ≠ [] ∧
      ∀ enough other, used.length ≤ enough →
        readMembers enough members (used ++ other) = .ok (listed, other) := by
  induction room generalizing members symbols with
  | zero => cases read
  | succ room ih =>
      cases symbols with
      | nil => cases read
      | cons symbol rest =>
          by_cases closes : symbol = .plain ']' ∧ members ≠ []
          · rw [readMembers, if_pos closes] at read
            obtain ⟨rfl, rfl⟩ := Prod.mk.inj (Except.ok.inj read)
            refine ⟨[symbol], rfl, List.cons_ne_nil _ _, ?_⟩
            intro enough other fits
            obtain ⟨enough, rfl⟩ := Nat.exists_eq_succ_of_ne_zero (Nat.ne_zero_of_lt fits)
            rw [List.singleton_append, readMembers, if_pos closes]
          · obtain ⟨member, behind, first, onward⟩ := readMembers_cases closes read
            obtain ⟨used, rfl, again⟩ := nearsighted_readMember symbol first
            -- The class goes on behind the member, so the member is read again.
            rcases onward with ⟨rfl, rfl⟩ | ⟨last, tail, final, beyond, range, apart, rfl,
              readLast, ranged, later⟩ | ⟨unlike, later⟩
            · refine ⟨symbol :: (used ++ [.plain '-', .plain ']']), by simp, List.cons_ne_nil _ _,
                ?_⟩
              intro enough other fits
              obtain ⟨enough, rfl⟩ := Nat.exists_eq_succ_of_ne_zero (Nat.ne_zero_of_lt fits)
              rw [List.cons_append, List.append_assoc]
              exact readMembers_dash closes (again _ (.of_head? rfl))
            · obtain ⟨more, rfl, against⟩ := nearsighted_readMember last readLast
              obtain ⟨others, rfl, nonempty, finish⟩ := ih later
              refine ⟨symbol :: (used ++ .plain '-' :: last :: (more ++ others)), by simp,
                List.cons_ne_nil _ _, ?_⟩
              intro enough other fits
              obtain ⟨enough, rfl⟩ := Nat.exists_eq_succ_of_ne_zero (Nat.ne_zero_of_lt fits)
              have alike : StartsAlike (others ++ after) (others ++ other) := by
                obtain ⟨next, tail, rfl⟩ := List.exists_cons_of_ne_nil nonempty
                exact .of_head? rfl
              have few : others.length ≤ enough := by
                simp only [List.length_cons, List.length_append] at fits
                omega
              have same := again (.plain '-' :: last :: (more ++ (others ++ other))) (.of_head? rfl)
              rw [List.cons_append, List.append_assoc, List.cons_append, List.cons_append,
                List.append_assoc, readMembers_range closes same apart, against _ alike]
              show rangeOf member final >>= _ = _
              rw [ranged]
              exact finish enough other few
            · obtain ⟨more, rfl, nonempty, finish⟩ := ih later
              refine ⟨symbol :: (used ++ more), by simp, List.cons_ne_nil _ _, ?_⟩
              intro enough other fits
              obtain ⟨enough, rfl⟩ := Nat.exists_eq_succ_of_ne_zero (Nat.ne_zero_of_lt fits)
              obtain ⟨next, tail, rfl⟩ := List.exists_cons_of_ne_nil nonempty
              have few : (next :: tail).length ≤ enough := by
                simp only [List.length_cons, List.length_append] at fits ⊢
                omega
              have same := again (next :: tail ++ other) (.of_head? rfl)
              rw [List.cons_append, List.append_assoc, readMembers_single closes same unlike]
              exact finish enough other few

/-- Whatever comes after a class, it is read again. -/
theorem readBracket_again [Host] {symbols : List Symbol} {atom : Atom}
    (read : readBracket symbols = .ok (atom, after)) :
    ∃ used, symbols = used ++ after ∧
      ∀ other, readBracket (used ++ other) = .ok (atom, other) := by
  by_cases negates : ∃ rest, symbols = .plain '^' :: rest
  · obtain ⟨rest, rfl⟩ := negates
    obtain ⟨⟨listed, behind⟩, found, same⟩ := exists_of_bind_ok read
    obtain ⟨rfl, rfl⟩ := Prod.mk.inj (Except.ok.inj same)
    obtain ⟨used, rfl, -, again⟩ := readMembers_again found
    refine ⟨.plain '^' :: used, rfl, ?_⟩
    intro other
    have fits : used.length ≤ (used ++ other).length + 1 := by
      rw [List.length_append]
      omega
    rw [List.cons_append, readBracket, again _ other fits]
    rfl
  · have positive : ∀ symbols : List Symbol, symbols.head? ≠ some (.plain '^') →
        readBracket symbols = readMembers (symbols.length + 1) [] symbols >>= fun read =>
          .ok (classAtom read.1 false, read.2) := by
      intro symbols unlike
      unfold readBracket
      split
      · exact absurd rfl unlike
      · rfl
    have unlike : symbols.head? ≠ some (.plain '^') := by
      intro begins
      exact negates (List.head?_eq_some_iff.mp begins)
    rw [positive _ unlike] at read
    obtain ⟨⟨listed, behind⟩, found, same⟩ := exists_of_bind_ok read
    obtain ⟨rfl, rfl⟩ := Prod.mk.inj (Except.ok.inj same)
    obtain ⟨used, rfl, nonempty, again⟩ := readMembers_again found
    refine ⟨used, rfl, ?_⟩
    intro other
    have fits : used.length ≤ (used ++ other).length + 1 := by
      rw [List.length_append]
      omega
    obtain ⟨first, others, rfl⟩ := List.exists_cons_of_ne_nil nonempty
    rw [positive (first :: others ++ other) unlike, again _ other fits]
    rfl

theorem nearsighted_readBracket [Host] : Nearsighted readBracket := by
  intro symbols atom after read
  obtain ⟨used, parts, again⟩ := readBracket_again read
  exact ⟨used, parts, fun other _ => again other⟩

end Classes

section Counts

variable {symbols tail rest after : List Symbol} {digits more : Text}

/-- The counts, when their digits have been read and the brace should close. -/
def closeCounts (least most : Text) (symbols : List Symbol) :
    Except Fault (Option (Nat × Option Nat × List Symbol)) :=
  match symbols with
  | .plain '}' :: rest => do
      let least := (← readCount least).getD 0
      let most ← readCount most
      if most.any (· < least) then .error .malformed
      else return some (least, most, rest)
  | _ => .ok none

/-- The digits of the upper count, which are those of the lower one if there is no comma. -/
def upperDigits (digits : Text) (symbols : List Symbol) : Text × List Symbol :=
  match symbols with
  | .plain ',' :: rest => takeAllPlain Text.isPlainDigit rest
  | _ => (digits, symbols)

theorem readCounts_open (unclosed : symbols.head? ≠ some (.plain '}'))
    (lower : takeAllPlain Text.isPlainDigit symbols = (digits, rest))
    (upper : upperDigits digits rest = (more, tail)) :
    readCounts symbols = closeCounts digits more tail := by
  have opened : readCounts symbols =
      closeCounts (takeAllPlain Text.isPlainDigit symbols).1
        (upperDigits (takeAllPlain Text.isPlainDigit symbols).1
          (takeAllPlain Text.isPlainDigit symbols).2).1
        (upperDigits (takeAllPlain Text.isPlainDigit symbols).1
          (takeAllPlain Text.isPlainDigit symbols).2).2 := by
    unfold readCounts
    split
    · exact absurd rfl unclosed
    · rfl
  rw [opened, lower]
  dsimp only
  rw [upper]

/-- A character that counts are written with, apart from the opening brace. -/
def isCountSign (character : Char) : Bool :=
  Text.isPlainDigit character || character == ',' || character == '}'

theorem isCountSign_of_isPlainDigit {character : Char}
    (digit : Text.isPlainDigit character = true) : isCountSign character = true := by
  rw [isCountSign, digit]
  rfl

theorem upperDigits_of_unlike (unlike : symbols.head? ≠ some (.plain ',')) :
    upperDigits digits symbols = (digits, symbols) := by
  unfold upperDigits
  split
  · exact absurd rfl unlike
  · rfl

theorem upperDigits_again (upper : upperDigits digits rest = (more, tail)) :
    ∃ used : Text, rest = used.map .plain ++ tail ∧
      (∀ character ∈ used, isCountSign character = true) ∧
      ∀ other, StartsAlike tail other →
        upperDigits digits (used.map .plain ++ other) = (more, other) := by
  by_cases comma : rest.head? = some (.plain ',')
  · obtain ⟨behind, rfl⟩ := List.head?_eq_some_iff.mp comma
    obtain ⟨rfl, all, ends⟩ := of_takeAllPlain upper
    refine ⟨',' :: more, rfl, ?_, ?_⟩
    · exact List.forall_mem_cons.mpr
        ⟨rfl, fun character member => isCountSign_of_isPlainDigit (all character member)⟩
    · intro other alike
      exact takeAllPlain_append all (ends.of_startsAlike (by decide) alike)
  · rw [upperDigits_of_unlike comma] at upper
    obtain ⟨rfl, rfl⟩ := Prod.mk.inj upper
    refine ⟨[], rfl, nofun, ?_⟩
    intro other alike
    apply upperDigits_of_unlike
    intro begins
    exact comma (alike ',' (by decide) begins)

theorem closeCounts_eq_none (unclosed : symbols.head? ≠ some (.plain '}')) (least most : Text) :
    closeCounts least most symbols = .ok none := by
  unfold closeCounts
  split
  · exact absurd rfl unclosed
  · rfl

theorem head?_of_closeCounts_eq_none {least most : Text}
    (none : closeCounts least most symbols = .ok none) :
    symbols.head? ≠ some (.plain '}') := by
  intro closes
  obtain ⟨rest, rfl⟩ := List.head?_eq_some_iff.mp closes
  obtain ⟨found, -, none⟩ := exists_of_bind_ok none
  obtain ⟨also, -, none⟩ := exists_of_bind_ok none
  split at none <;> cases none

theorem closeCounts_again {least most : Text} {low : Nat} {high : Option Nat}
    (read : closeCounts least most symbols = .ok (some (low, high, after))) :
    symbols = .plain '}' :: after ∧
      ∀ other, closeCounts least most (.plain '}' :: other) = .ok (some (low, high, other)) := by
  by_cases closes : symbols.head? = some (.plain '}')
  · obtain ⟨rest, rfl⟩ := List.head?_eq_some_iff.mp closes
    obtain ⟨found, readLeast, read⟩ := exists_of_bind_ok read
    obtain ⟨also, readMost, read⟩ := exists_of_bind_ok read
    split at read
    · cases read
    · next inOrder =>
        obtain ⟨rfl, rfl, rfl⟩ : _ = low ∧ _ = high ∧ _ = after := by
          simpa using Except.ok.inj read
        refine ⟨rfl, ?_⟩
        intro other
        rw [closeCounts, readLeast]
        dsimp only [bind, Except.bind]
        rw [readMost]
        exact if_neg inOrder
  · rw [closeCounts_eq_none closes] at read
    cases read

/-- The digits of counts are read again before what cannot be added to them. -/
theorem readCounts_digits (unclosed : symbols.head? ≠ some (.plain '}')) :
    ∃ (used : Text) (digits more : Text) (rest : List Symbol),
      symbols = used.map .plain ++ rest ∧ (∀ character ∈ used, isCountSign character = true) ∧
      readCounts symbols = closeCounts digits more rest ∧
      ∀ other, StartsAlike rest other → (used.map Symbol.plain ++ other).head? ≠ some (.plain '}') →
        readCounts (used.map .plain ++ other) = closeCounts digits more other := by
  cases lower : takeAllPlain Text.isPlainDigit symbols with
  | mk digits behind =>
      cases upper : upperDigits digits behind with
      | mk more rest =>
          obtain ⟨rfl, all, ends⟩ := of_takeAllPlain lower
          obtain ⟨used, rfl, signs, again⟩ := upperDigits_again upper
          refine ⟨digits ++ used, digits, more, rest, by simp, ?_,
            readCounts_open unclosed lower upper, ?_⟩
          · exact List.forall_mem_append.mpr
              ⟨fun character member => isCountSign_of_isPlainDigit (all character member), signs⟩
          intro other alike open'
          have stops : StartsUnwanted Text.isPlainDigit (used.map .plain ++ other) :=
            ends.of_startsAlike (by decide) (alike.append _)
          rw [List.map_append, List.append_assoc] at open' ⊢
          exact readCounts_open open' (takeAllPlain_append all stops) (again other alike)

/-- Counts are read up to their closing brace and no farther. -/
theorem readCounts_again {least : Nat} {most : Option Nat}
    (read : readCounts symbols = .ok (some (least, most, after))) :
    ∃ used, symbols = used ++ after ∧
      ∀ other, readCounts (used ++ other) = .ok (some (least, most, other)) := by
  have unclosed : symbols.head? ≠ some (.plain '}') := by
    intro closes
    obtain ⟨rest, rfl⟩ := List.head?_eq_some_iff.mp closes
    cases read
  obtain ⟨used, digits, more, rest, rfl, -, same, again⟩ := readCounts_digits unclosed
  rw [same] at read
  obtain ⟨rfl, closes⟩ := closeCounts_again read
  refine ⟨used.map .plain ++ [.plain '}'], by simp, ?_⟩
  intro other
  have open' : (used.map Symbol.plain ++ .plain '}' :: other).head? ≠ some (.plain '}') := by
    cases used with
    | nil => exact absurd rfl unclosed
    | cons first others => exact unclosed
  rw [List.append_assoc, List.singleton_append, again (.plain '}' :: other) (.of_head? rfl) open']
  exact closes other

/-- A brace that stands for itself does so before whatever cannot make it a count. -/
theorem readCounts_eq_none (none : readCounts symbols = .ok none) :
    ∃ (used : Text) (rest : List Symbol), symbols = used.map .plain ++ rest ∧
      (∀ character ∈ used, isCountSign character = true) ∧
      ∀ other, StartsAlike rest other →
        readCounts (used.map .plain ++ other) = .ok Option.none := by
  by_cases closes : symbols.head? = some (.plain '}')
  · obtain ⟨rest, rfl⟩ := List.head?_eq_some_iff.mp closes
    exact ⟨['}'], rest, rfl, List.forall_mem_singleton.mpr rfl, fun _ _ => rfl⟩
  · obtain ⟨used, digits, more, rest, rfl, signs, same, again⟩ := readCounts_digits closes
    rw [same] at none
    have unclosed := head?_of_closeCounts_eq_none none
    refine ⟨used, rest, rfl, signs, ?_⟩
    intro other alike
    have open' : other.head? ≠ some (.plain '}') := by
      intro begins
      exact unclosed (alike '}' (by decide) begins)
    have still : (used.map Symbol.plain ++ other).head? ≠ some (.plain '}') := by
      cases used with
      | nil => exact open'
      | cons first others => exact closes
    rw [again other alike still, closeCounts_eq_none open']

end Counts

end ItemFilter.Pattern
