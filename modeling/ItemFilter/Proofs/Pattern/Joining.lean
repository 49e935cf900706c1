/-
This file says what normalizing does to the symbols of a pattern: wrappers become groups, and each
run of blanks becomes one. All other symbols stay, so that what begins a rest of the pattern begins
it afterwards, too.
-/

import ItemFilter.Proofs.Normalization
import ItemFilter.Proofs.Pattern.Move

namespace ItemFilter

namespace Text

theorem replaceFrom_of_not_includes {old new text : Text}
    (absent : includes old text = false) : replaceFrom old new 0 text = text := by
  induction text with
  | nil => rfl
  | cons character rest ih =>
      rw [includes, Bool.or_eq_false_iff] at absent
      rw [replaceFrom, absent.1, ih absent.2]
      rfl

theorem includes_append_of_includes {part text : Text} (before : Text)
    (included : includes part text = true) : includes part (before ++ text) = true := by
  induction before with
  | nil => exact included
  | cons character rest ih =>
      rw [List.cons_append, includes, ih, Bool.or_true]

theorem includes_append (part after : Text) (nonempty : part ≠ []) :
    includes part (part ++ after) = true := by
  obtain ⟨first, others, rfl⟩ := List.exists_cons_of_ne_nil nonempty
  rw [List.cons_append, includes, Bool.or_eq_true, List.isPrefixOf_iff_prefix]
  exact .inl (List.prefix_append (first :: others) after)

end Text

namespace Pattern

/-- A blank that is written out. -/
def Symbol.isBlank : Symbol → Bool
  | .plain character => character == ' ' || character == '\t'
  | .escaped _ => false

theorem Symbol.eq_of_isBlank {symbol : Symbol} (blank : symbol.isBlank = true) :
    symbol = .plain ' ' ∨ symbol = .plain '\t' := by
  cases symbol with
  | plain character => simpa [Symbol.isBlank] using blank
  | escaped character => cases blank

/-- The wrapper of a group that is not counted. -/
def wrapper : List Symbol :=
  [.plain '(', .plain '?', .plain ':']

/-- The symbols that a run of blanks becomes. -/
def gap : List Symbol :=
  [.escaped 's', .plain '+']

/-- The symbols begin with a blank or with `\s+`. -/
def startsRun : List Symbol → Bool
  | .escaped 's' :: .plain '+' :: _ => true
  | symbol :: _ => symbol.isBlank
  | [] => false

/-- Wrappers become groups and runs of blanks become `\s+`. -/
def joined (inRun : Bool) : List Symbol → List Symbol
  | [] => []
  | .plain '(' :: .plain '?' :: .plain ':' :: rest => .plain '(' :: joined false rest
  | .escaped 's' :: .plain '+' :: rest =>
      if inRun then joined true rest else .escaped 's' :: .plain '+' :: joined true rest
  | symbol :: rest =>
      if symbol.isBlank then
        if inRun then joined true rest else .escaped 's' :: .plain '+' :: joined true rest
      else symbol :: joined false rest

section Symbols

variable {symbol : Symbol} {symbols rest : List Symbol}

theorem joined_of_not_startsRun (visible : startsRun symbols = false) (inRun : Bool) :
    joined inRun symbols = joined false symbols := by
  fun_cases joined inRun symbols with
  | case1 => rfl
  | case2 rest => rfl
  | case3 rest => cases visible
  | case4 rest fresh => cases visible
  | case5 symbol rest wrapped written blank =>
      rw [startsRun, blank] at visible
      · cases visible
      · exact written
  | case6 symbol rest wrapped written blank fresh =>
      rw [startsRun, blank] at visible
      · cases visible
      · exact written
  | case7 symbol rest wrapped written other =>
      rw [joined, if_neg other]
      · exact wrapped
      · exact written

theorem joined_plain {character : Char} (visible : (Symbol.plain character).isBlank = false)
    (other : character ≠ '(') (inRun : Bool) :
    joined inRun (.plain character :: rest) = .plain character :: joined false rest := by
  rw [joined, visible]
  · rfl
  · exact fun _ same => absurd (Symbol.plain.inj same) other
  · nofun

/-- What closes the pattern for a whole argument. -/
def lineClosing : List Symbol :=
  [.plain ')', .plain '$']

theorem head?_joined {character : Char}
    (begins : (joined false symbols).head? = some (.plain character)) :
    symbols.head? = some (.plain character) := by
  fun_cases joined false symbols with
  | case1 => cases begins
  | case2 rest => exact begins
  | case3 rest inRun => cases inRun
  | case4 rest fresh => cases begins
  | case5 symbol rest wrapped written blank inRun => cases inRun
  | case6 symbol rest wrapped written blank fresh =>
      rw [joined, blank] at begins
      · cases begins
      · exact wrapped
      · exact written
  | case7 symbol rest wrapped written other =>
      rw [joined, if_neg other] at begins
      · exact begins
      · exact wrapped
      · exact written

theorem startsAlike_joined (symbols : List Symbol) :
    StartsAlike symbols (joined false symbols ++ lineClosing) := by
  intro character other begins
  rw [List.head?_append] at begins
  cases first : (joined false symbols).head? with
  | none =>
      rw [first] at begins
      exact absurd (Symbol.plain.inj (Option.some.inj begins)).symm other
  | some symbol =>
      rw [first] at begins
      obtain rfl := Option.some.inj begins
      exact head?_joined first

/-- No sign of a count is changed. -/
theorem joined_countSigns {signs : Text} (all : ∀ sign ∈ signs, isCountSign sign = true)
    (rest : List Symbol) :
    joined false (signs.map .plain ++ rest) = signs.map .plain ++ joined false rest := by
  induction signs with
  | nil => rfl
  | cons sign others ih =>
      obtain ⟨own, later⟩ := List.forall_mem_cons.mp all
      have unlike : ∀ other, isCountSign other = false → sign ≠ other := by
        intro other no same
        rw [same, no] at own
        cases own
      have visible : (Symbol.plain sign).isBlank = false := by
        rw [Symbol.isBlank, beq_eq_false_iff_ne.mpr (unlike ' ' (by decide)),
          beq_eq_false_iff_ne.mpr (unlike '\t' (by decide))]
        rfl
      rw [List.map_cons, List.cons_append, joined_plain visible (unlike '(' (by decide)), ih later]
      rfl

/-- What was read before a rest of the pattern is read before the joined rest. -/
theorem continues_joined (symbols : List Symbol) :
    Continues symbols (joined false symbols ++ lineClosing) := by
  refine ⟨startsAlike_joined symbols, ?_⟩
  intro none
  obtain ⟨signs, rest, rfl, all, again⟩ := readCounts_eq_none none
  rw [joined_countSigns all, List.append_assoc]
  exact again _ (startsAlike_joined rest)

end Symbols

section Spelling

def Symbol.text : Symbol → Text
  | .plain character => [character]
  | .escaped character => ['\\', character]

def spelling (symbols : List Symbol) : Text :=
  symbols.flatMap Symbol.text

variable {symbols : List Symbol} {text : Text}

theorem spelling_append (left right : List Symbol) :
    spelling (left ++ right) = spelling left ++ spelling right :=
  List.flatMap_append

theorem spelling_map_plain (text : Text) : spelling (text.map .plain) = text := by
  induction text with
  | nil => rfl
  | cons character rest ih => exact congrArg (character :: ·) ih

theorem spelling_of_symbols? (read : symbols? text = some symbols) :
    text = spelling symbols ∧ .plain '\\' ∉ symbols := by
  fun_induction symbols? text generalizing symbols with
  | case1 =>
      obtain rfl := Option.some.inj read
      exact ⟨rfl, List.not_mem_nil⟩
  | case2 character rest ih =>
      obtain ⟨others, same, rfl⟩ := Option.map_eq_some_iff.mp read
      obtain ⟨rfl, plain⟩ := ih same
      refine ⟨rfl, ?_⟩
      rw [List.mem_cons, not_or]
      exact ⟨nofun, plain⟩
  | case3 rest single => cases read
  | case4 character rest single other ih =>
      obtain ⟨others, same, rfl⟩ := Option.map_eq_some_iff.mp read
      obtain ⟨rfl, plain⟩ := ih same
      refine ⟨rfl, ?_⟩
      rw [List.mem_cons, not_or]
      exact ⟨fun same => other (Symbol.plain.inj same).symm, plain⟩

theorem symbols?_spelling (plain : .plain '\\' ∉ symbols) :
    symbols? (spelling symbols) = some symbols := by
  induction symbols with
  | nil => rfl
  | cons symbol rest ih =>
      rw [List.mem_cons, not_or] at plain
      cases symbol with
      | plain character =>
          have other : character ≠ '\\' := fun same => plain.1 (congrArg Symbol.plain same.symm)
          show symbols? (character :: spelling rest) = _
          rw [symbols?, if_neg other, ih plain.2]
          · rfl
          · exact fun _ _ same => absurd same other
      | escaped character =>
          show (symbols? (spelling rest)).map (Symbol.escaped character :: ·) = _
          rw [ih plain.2]
          rfl

theorem includes_spelling {part : List Symbol} (nonempty : spelling part ≠ [])
    (inside : part <:+: symbols) : Text.includes (spelling part) (spelling symbols) = true := by
  obtain ⟨before, after, rfl⟩ := inside
  rw [spelling_append, spelling_append, List.append_assoc]
  exact Text.includes_append_of_includes _ (Text.includes_append _ _ nonempty)

/-- Plain characters at the start of the text are plain symbols. -/
theorem map_plain_prefix_of_prefix {part : Text} (plain : '\\' ∉ part)
    (begins : part <+: spelling symbols) : part.map .plain <+: symbols := by
  induction part generalizing symbols with
  | nil => exact List.nil_prefix
  | cons character others ih =>
      rw [List.mem_cons, not_or] at plain
      cases symbols with
      | nil => cases List.prefix_nil.mp begins
      | cons symbol rest =>
          cases symbol with
          | plain own =>
              obtain ⟨rfl, later⟩ := List.cons_prefix_cons.mp begins
              exact List.cons_prefix_cons.mpr ⟨rfl, ih plain.2 later⟩
          | escaped own => exact absurd (List.cons_prefix_cons.mp begins).1.symm plain.1

/-- No escape is changed: none is a doubled backslash or a word boundary, a blank or the start of a
wrapper. -/
structure Unescaped (symbols : List Symbol) : Prop where
  characters : ∀ character ∈ "\\b \t".toList, .escaped character ∉ symbols
  wrappers : ¬[.escaped '(', .plain '?', .plain ':'] <:+: symbols

theorem Unescaped.tail {symbol : Symbol} (unescaped : Unescaped (symbol :: symbols)) :
    Unescaped symbols := by
  constructor
  · intro character listed member
    exact unescaped.characters character listed (List.mem_cons_of_mem symbol member)
  · intro inside
    exact unescaped.wrappers (List.infix_cons inside)

/-- The text with groups in place of wrappers. -/
def unwrapped (text : Text) : Text :=
  text.replace "(?:".toList "(".toList

theorem unwrapped_cons {character : Char} {rest : Text}
    (other : ¬(character = '(' ∧ "?:".toList <+: rest)) :
    unwrapped (character :: rest) = character :: unwrapped rest := by
  have apart : ¬"(?:".toList.isPrefixOf (character :: rest) = true := by
    intro begins
    obtain ⟨same, behind⟩ := List.cons_prefix_cons.mp (List.isPrefixOf_iff_prefix.mp begins)
    exact other ⟨same.symm, behind⟩
  exact if_neg apart

theorem head?_unwrapped (text : Text) : (unwrapped text).head? = text.head? := by
  cases text with
  | nil => rfl
  | cons character rest =>
      by_cases begins : character = '(' ∧ "?:".toList <+: rest
      · obtain ⟨rfl, tail, rfl⟩ := begins
        rfl
      · rw [unwrapped_cons begins]
        rfl

/-- Removing wrappers makes no boundary. -/
theorem includes_boundary_replaceFrom (skipped : Nat)
    (absent : Text.includes "\\b".toList text = false) :
    Text.includes "\\b".toList
      (Text.replaceFrom "(?:".toList "(".toList skipped text) = false := by
  induction text generalizing skipped with
  | nil => rfl
  | cons character rest ih =>
      rw [Text.includes, Bool.or_eq_false_iff] at absent
      cases skipped with
      | succ skipped => exact ih skipped absent.2
      | zero =>
          by_cases begins : character = '(' ∧ "?:".toList <+: rest
          · obtain ⟨rfl, tail, rfl⟩ := begins
            exact ih 2 absent.2
          · show Text.includes "\\b".toList (unwrapped (character :: rest)) = false
            rw [unwrapped_cons begins, Text.includes, Bool.or_eq_false_iff]
            refine ⟨?_, ih 0 absent.2⟩
            -- What comes after a backslash is what came after it before.
            have same := head?_unwrapped rest
            have unlike := absent.1
            cases rest with
            | nil => exact unlike
            | cons next others =>
                obtain ⟨tail, found⟩ := List.head?_eq_some_iff.mp same
                rw [found]
                exact unlike

theorem squeezeBlanks_plain {character : Char} (visible : (Symbol.plain character).isBlank = false)
    (other : character ≠ '\\') (inRun : Bool) (rest : Text) :
    Matcher.squeezeBlanks inRun (character :: rest) =
      character :: Matcher.squeezeBlanks false rest := by
  rw [Matcher.squeezeBlanks]
  · exact if_neg (Bool.not_eq_true _ ▸ visible)
  · exact fun _ same => absurd same other

theorem squeezeBlanks_escaped {character : Char}
    (visible : (Symbol.plain character).isBlank = false) (other : character ≠ '\\')
    {rest : Text} (apart : ¬(character = 's' ∧ rest.head? = some '+')) (inRun : Bool) :
    Matcher.squeezeBlanks inRun ('\\' :: character :: rest) =
      '\\' :: character :: Matcher.squeezeBlanks false rest := by
  rw [Matcher.squeezeBlanks]
  · show '\\' :: Matcher.squeezeBlanks false (character :: rest) = _
    rw [squeezeBlanks_plain visible other]
  · intro tail _ same
    obtain ⟨rfl, rfl⟩ := List.cons.inj same
    exact apart ⟨rfl, rfl⟩

/-- Wrappers and blanks change in the text as they do among the symbols. -/
theorem squeezeBlanks_unwrapped (unescaped : Unescaped symbols) (plain : .plain '\\' ∉ symbols)
    (inRun : Bool) :
    Matcher.squeezeBlanks inRun (unwrapped (spelling symbols)) =
      spelling (joined inRun symbols) := by
  fun_induction joined inRun symbols with
  | case1 inRun => rfl
  | case2 inRun rest ih =>
      have later := ih unescaped.tail.tail.tail (List.not_mem_of_not_mem_cons
        (List.not_mem_of_not_mem_cons (List.not_mem_of_not_mem_cons plain)))
      show Matcher.squeezeBlanks inRun ('(' :: unwrapped (spelling rest)) =
        '(' :: spelling (joined false rest)
      rw [squeezeBlanks_plain rfl (by decide), later]
  | case3 rest ih =>
      exact ih unescaped.tail.tail
        (List.not_mem_of_not_mem_cons (List.not_mem_of_not_mem_cons plain))
  | case4 inRun rest fresh ih =>
      have later := ih unescaped.tail.tail
        (List.not_mem_of_not_mem_cons (List.not_mem_of_not_mem_cons plain))
      show Matcher.squeezeBlanks inRun ('\\' :: 's' :: '+' :: unwrapped (spelling rest)) =
        '\\' :: 's' :: '+' :: spelling (joined true rest)
      rw [Matcher.squeezeBlanks, if_neg fresh, later]
  | case5 symbol rest wrapped written blank ih =>
      have later := ih unescaped.tail (List.not_mem_of_not_mem_cons plain)
      rcases Symbol.eq_of_isBlank blank with rfl | rfl
      · exact later
      · exact later
  | case6 inRun symbol rest wrapped written blank fresh ih =>
      have later := ih unescaped.tail (List.not_mem_of_not_mem_cons plain)
      have run : ∀ text, (if inRun then text else '\\' :: 's' :: '+' :: text) =
          '\\' :: 's' :: '+' :: text := fun text => if_neg fresh
      rcases Symbol.eq_of_isBlank blank with rfl | rfl
      · exact (run _).trans (congrArg ("\\s+".toList ++ ·) later)
      · exact (run _).trans (congrArg ("\\s+".toList ++ ·) later)
  | case7 inRun symbol rest wrapped written other ih =>
      have later := ih unescaped.tail (List.not_mem_of_not_mem_cons plain)
      have visible := Bool.not_eq_true _ ▸ other
      have behind : "?:".toList <+: spelling rest →
          [.plain '?', .plain ':'] <+: rest := map_plain_prefix_of_prefix (by decide)
      cases symbol with
      | plain character =>
          have apart : ¬(character = '(' ∧ "?:".toList <+: spelling rest) := by
            rintro ⟨rfl, begins⟩
            obtain ⟨tail, rfl⟩ := behind begins
            exact wrapped tail rfl rfl
          have mark : character ≠ '\\' := by
            rintro rfl
            exact plain List.mem_cons_self
          show Matcher.squeezeBlanks inRun (unwrapped (character :: spelling rest)) =
            character :: spelling (joined false rest)
          rw [unwrapped_cons apart, squeezeBlanks_plain visible mark, later]
      | escaped character =>
          have unlike : ∀ listed ∈ "\\b \t".toList, character ≠ listed := by
            rintro listed member rfl
            exact unescaped.characters character member List.mem_cons_self
          have hidden : (Symbol.plain character).isBlank = false := by
            rw [Symbol.isBlank, beq_eq_false_iff_ne.mpr (unlike ' ' (by decide)),
              beq_eq_false_iff_ne.mpr (unlike '\t' (by decide))]
            rfl
          have apart : ¬(character = '(' ∧ "?:".toList <+: spelling rest) := by
            rintro ⟨rfl, begins⟩
            obtain ⟨tail, rfl⟩ := behind begins
            exact unescaped.wrappers ⟨[], tail, rfl⟩
          have ends : ¬(character = 's' ∧ (unwrapped (spelling rest)).head? = some '+') := by
            rintro ⟨rfl, begins⟩
            rw [head?_unwrapped] at begins
            obtain ⟨tail, same⟩ := List.head?_eq_some_iff.mp begins
            have first : ['+'] <+: spelling rest := ⟨tail, same.symm⟩
            obtain ⟨others, rfl⟩ := map_plain_prefix_of_prefix (by decide) first
            exact written others rfl rfl
          show Matcher.squeezeBlanks inRun (unwrapped ('\\' :: character :: spelling rest)) =
            '\\' :: character :: spelling (joined false rest)
          rw [unwrapped_cons (by simp), unwrapped_cons apart,
            squeezeBlanks_escaped hidden (unlike '\\' (by decide)) ends, later]

theorem mem_of_mem_joined {inRun : Bool} {symbol : Symbol}
    (member : symbol ∈ joined inRun symbols) :
    symbol ∈ symbols ∨ symbol = .escaped 's' ∨ symbol = .plain '+' := by
  fun_induction joined inRun symbols with
  | case1 inRun => exact .inl member
  | case2 inRun rest ih =>
      rcases List.mem_cons.mp member with rfl | later
      · exact .inl List.mem_cons_self
      · exact (ih later).imp_left (List.mem_append_right wrapper)
  | case3 rest ih => exact (ih member).imp_left (List.mem_append_right gap)
  | case4 inRun rest fresh ih =>
      rcases List.mem_cons.mp member with rfl | later
      · exact .inr (.inl rfl)
      rcases List.mem_cons.mp later with rfl | later
      · exact .inr (.inr rfl)
      · exact (ih later).imp_left (List.mem_append_right gap)
  | case5 first rest wrapped written blank ih =>
      exact (ih member).imp_left (List.mem_cons_of_mem first)
  | case6 inRun first rest wrapped written blank fresh ih =>
      rcases List.mem_cons.mp member with rfl | later
      · exact .inr (.inl rfl)
      rcases List.mem_cons.mp later with rfl | later
      · exact .inr (.inr rfl)
      · exact (ih later).imp_left (List.mem_cons_of_mem first)
  | case7 inRun first rest wrapped written other ih =>
      rcases List.mem_cons.mp member with rfl | later
      · exact .inl List.mem_cons_self
      · exact (ih later).imp_left (List.mem_cons_of_mem first)

/-- Joining makes no backslash. -/
theorem not_mem_joined (plain : .plain '\\' ∉ symbols) (inRun : Bool) :
    .plain '\\' ∉ joined inRun symbols := by
  intro member
  rcases mem_of_mem_joined member with kept | added | added
  · exact plain kept
  · cases added
  · exact absurd (Symbol.plain.inj added) (by decide)

/-- Escapes that normalizing would leave without what they escape. -/
def brokenEscapes : List Text :=
  ["\\ ".toList, "\\\t".toList, "\\(?:".toList]

/-- No escape that normalizing changes stands in the text. -/
structure Intact (symbols : List Symbol) : Prop where
  plain : .plain '\\' ∉ symbols
  escapes : ∀ escape ∈ "\\\\".toList :: "\\b".toList :: brokenEscapes,
    Text.includes escape (spelling symbols) = false

namespace Intact

theorem of_append {before : List Symbol} (intact : Intact (before ++ symbols)) :
    Intact symbols := by
  refine ⟨fun member => intact.plain (List.mem_append_right before member), ?_⟩
  intro escape listed
  have absent := intact.escapes escape listed
  rw [spelling_append] at absent
  cases included : Text.includes escape (spelling symbols) with
  | false => rfl
  | true =>
      rw [Text.includes_append_of_includes (spelling before) included] at absent
      cases absent

theorem unescaped (intact : Intact symbols) : Unescaped symbols := by
  have absent : ∀ part : List Symbol, part ≠ [] →
      spelling part ∈ "\\\\".toList :: "\\b".toList :: brokenEscapes → ¬part <:+: symbols := by
    intro part nonempty listed inside
    have apart := intact.escapes _ listed
    obtain ⟨first, others, rfl⟩ := List.exists_cons_of_ne_nil nonempty
    rw [includes_spelling (by cases first <;> nofun) inside] at apart
    cases apart
  have single : ∀ character, ['\\', character] ∈
      "\\\\".toList :: "\\b".toList :: brokenEscapes → .escaped character ∉ symbols := by
    intro character listed member
    obtain ⟨before, after, rfl⟩ := List.append_of_mem member
    exact absent [.escaped character] (List.cons_ne_nil _ _) listed ⟨before, after, by simp⟩
  constructor
  · intro character listed
    apply single
    have listed : character = '\\' ∨ character = 'b' ∨ character = ' ' ∨ character = '\t' := by
      simpa using listed
    rcases listed with rfl | rfl | rfl | rfl <;> decide
  · exact absent [.escaped '(', .plain '?', .plain ':'] (List.cons_ne_nil _ _) (by decide)

/-- Normalizing a text joins its symbols. -/
theorem normalize_spelling (intact : Intact symbols) :
    Matcher.normalize (spelling symbols) = spelling (joined false symbols) := by
  have single : (spelling symbols).replace "\\\\".toList "\\".toList = spelling symbols :=
    Text.replaceFrom_of_not_includes (intact.escapes _ (by decide))
  have bounded : (unwrapped (spelling symbols)).replace "\\b".toList [] =
      unwrapped (spelling symbols) := by
    apply Text.replaceFrom_of_not_includes
    exact includes_boundary_replaceFrom 0 (intact.escapes _ (by decide))
  rw [← squeezeBlanks_unwrapped intact.unescaped intact.plain, ← bounded, Matcher.normalize, single]
  rfl

theorem plain_joined (intact : Intact symbols) (inRun : Bool) :
    .plain '\\' ∉ joined inRun symbols :=
  not_mem_joined intact.plain inRun

/-- What becomes of the start of the text becomes of the first symbols. -/
theorem joined_append {taken after other : List Symbol} (intact : Intact (taken ++ after))
    (unescaped : .plain '\\' ∉ other)
    (becomes : Matcher.normalize (spelling (taken ++ after)) =
      spelling other ++ Matcher.normalize (spelling after)) :
    joined false (taken ++ after) = other ++ joined false after := by
  rw [intact.normalize_spelling, intact.of_append.normalize_spelling, ← spelling_append] at becomes
  have plain : .plain '\\' ∉ other ++ joined false after := by
    rw [List.mem_append, not_or]
    exact ⟨unescaped, intact.of_append.plain_joined false⟩
  have same := congrArg symbols? becomes
  rw [symbols?_spelling (intact.plain_joined false), symbols?_spelling plain] at same
  exact Option.some.inj same

theorem plain_left {taken after : List Symbol} (intact : Intact (taken ++ after)) :
    .plain '\\' ∉ taken :=
  fun member => intact.plain (List.mem_append_left after member)

/-- Symbols that are joined apart from those after them. -/
theorem joined_apart {taken after : List Symbol} (intact : Intact (taken ++ after))
    (apart : Matcher.normalize (spelling (taken ++ after)) =
      spelling (joined false taken) ++ Matcher.normalize (spelling after)) :
    joined false (taken ++ after) = joined false taken ++ joined false after :=
  intact.joined_append (not_mem_joined intact.plain_left false) apart

end Intact

end Spelling

end Pattern

end ItemFilter
