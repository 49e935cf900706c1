/-
This file says which tokens the matcher for quoted values accepts. Several spans with blanks between
them would do, but a token has no blanks outside of quotes; so it is a bare word or a single span.
-/

import Mathlib.Data.List.TakeWhile
import ItemFilter.Proofs.Pattern.Spans
import ItemFilter.Proofs.Quoting
import ItemFilter.Proofs.Violation

namespace ItemFilter

namespace Token

/-- The text has no quotes, or exactly two, which stand at its ends. -/
def IsSingleValue (text : Text) : Prop :=
  quotes text = 0 ∨ (text.head? = some '"' ∧ text.getLast? = some '"' ∧ quotes text = 2)

instance (text : Text) : Decidable (IsSingleValue text) :=
  inferInstanceAs (Decidable (_ ∨ _))

theorem quotes_eq_zero_iff (text : Text) : quotes text = 0 ↔ '"' ∉ text :=
  List.count_eq_zero

theorem quotes_span (inner : Text) : quotes ('"' :: inner ++ ['"']) = quotes inner + 2 := by
  simp [quotes]

/-- A blank in a token stands between quotes. -/
theorem odd_quotes_of_isBlank {text before after : Text} {token : Token} {character : Char}
    (member : token ∈ split text) (parts : token.text = before ++ character :: after)
    (blank : Text.isBlank character = true) : Odd (quotes before) := by
  have fills := fills_of_mem_split member
  obtain ⟨front, behind, whole, start⟩ := (standsIn_of_mem_split member).place
  have split : text = (front ++ before) ++ character :: (after ++ behind) := by
    rw [whole, parts]
    simp
  have even : Even (quotes front) := by
    have even := even_of_startsAt fills.run.begins
    rwa [whole, ← start, List.take_left] at even
  have free : ¬ Separator text (front ++ before).length := by
    apply fills.run.free
    · rw [← start, List.length_append]
      exact Nat.le_add_right _ _
    · rw [stop, ← start, parts, List.length_append, List.length_append, List.length_cons]
      omega
  rw [split, separator_length, not_and, quotes_append, Nat.even_add, iff_true_left even] at free
  exact Nat.not_even_iff_odd.mp (free blank)

end Token

namespace Matcher

/-- A span goes up to the next quote. -/
theorem isQuotedFrom_inside {inner : Text} (free : '"' ∉ inner) (rest : Text) :
    isQuotedFrom .inside (inner ++ '"' :: rest) = isQuotedFrom .closed rest := by
  induction inner with
  | nil => rfl
  | cons character others ih =>
      rw [List.mem_cons, not_or] at free
      rw [List.cons_append, isQuotedFrom, beq_false_of_ne (Ne.symm free.1)]
      exact ih free.2

theorem exists_of_isQuotedFrom_inside {text : Text} (quoted : isQuotedFrom .inside text = true) :
    ∃ inner rest, text = inner ++ '"' :: rest ∧ '"' ∉ inner ∧
      isQuotedFrom .closed rest = true := by
  induction text with
  | nil => cases quoted
  | cons character others ih =>
      by_cases quote : character = '"'
      · refine ⟨[], others, by rw [quote]; rfl, List.not_mem_nil, ?_⟩
        simpa [isQuotedFrom, quote] using quoted
      · rw [isQuotedFrom, beq_false_of_ne quote] at quoted
        obtain ⟨inner, rest, parts, free, closed⟩ := ih quoted
        refine ⟨character :: inner, rest, by rw [parts]; rfl, ?_, closed⟩
        rw [List.mem_cons, not_or]
        exact ⟨Ne.symm quote, free⟩

section Tokens

variable {text : Text} {token : Token} (member : token ∈ Token.split text)

include member

/-- A token without a quote at its start is a bare word or refused. -/
theorem isWellQuoted_bare_iff (other : token.text.head? ≠ some '"') :
    isWellQuoted token.text = true ↔ Token.quotes token.text = 0 := by
  have unquoted : Token.quotes (token.text.takeWhile isBare) = 0 := by
    rw [Token.quotes_eq_zero_iff]
    intro quote
    have bare := List.mem_takeWhile_imp quote
    simp [isBare] at bare
  have parts : token.text.takeWhile isBare ++ token.text.dropWhile isBare = token.text :=
    List.takeWhile_append_dropWhile
  rw [isWellQuoted_eq_of_head? other]
  constructor
  · intro accepted
    obtain ⟨-, ends⟩ := (Bool.and_eq_true _ _).mp accepted
    rcases (Bool.or_eq_true _ _).mp ends with nothing | newline
    · rw [List.isEmpty_iff] at nothing
      rw [← parts, Token.quotes_append, unquoted, nothing]
      rfl
    · rw [beq_iff_eq] at newline
      rw [newline] at parts
      have odd := Token.odd_quotes_of_isBlank member parts.symm (by decide)
      rw [unquoted] at odd
      exact absurd odd (by decide)
  · intro none
    have bare : ∀ character ∈ token.text, isBare character = true := by
      intro character inside
      have visible : Text.isBlank character = false := by
        rw [Bool.eq_false_iff]
        intro blank
        obtain ⟨before, after, split⟩ := List.append_of_mem inside
        have odd := Token.odd_quotes_of_isBlank member split blank
        have few : Token.quotes before = 0 := by
          rw [split, Token.quotes_append] at none
          omega
        rw [few] at odd
        exact absurd odd (by decide)
      have noQuote : character ≠ '"' := by
        intro quote
        exact (Token.quotes_eq_zero_iff _).mp none (quote ▸ inside)
      simp [isBare, visible, noQuote]
    have nonempty := (Token.standsIn_of_mem_split member).nonempty
    rw [List.takeWhile_eq_self_iff.mpr bare, List.dropWhile_eq_nil_iff.mpr bare]
    simpa [isEnd] using nonempty

/-- A token with a quote at its start is a single span or refused. -/
theorem isWellQuoted_span_iff {rest : Text} (whole : token.text = '"' :: rest) :
    isWellQuoted token.text = true ↔
      token.text.getLast? = some '"' ∧ Token.quotes token.text = 2 := by
  have accepted_iff : isWellQuoted token.text = isQuotedFrom .inside rest := by
    rw [whole, isWellQuoted]
  rw [accepted_iff]
  constructor
  · intro accepted
    obtain ⟨inner, after, parts, free, closed⟩ := exists_of_isQuotedFrom_inside accepted
    -- What follows the span would be a blank behind two quotes.
    have nothing : after = [] := by
      cases after with
      | nil => rfl
      | cons character others =>
          have blank : Text.isBlank character = true := by
            rw [isQuotedFrom, Bool.or_eq_true, Bool.and_eq_true, Bool.and_eq_true,
              beq_iff_eq] at closed
            rcases closed with ⟨rfl, -⟩ | ⟨blank, -⟩
            · decide
            · exact blank
          have split : token.text = ('"' :: inner ++ ['"']) ++ character :: others := by
            rw [whole, parts]
            simp
          have odd := Token.odd_quotes_of_isBlank member split blank
          rw [Token.quotes_span, (Token.quotes_eq_zero_iff inner).mpr free] at odd
          exact absurd odd (by decide)
    have span : token.text = '"' :: inner ++ ['"'] := by
      rw [whole, parts, nothing]
      rfl
    rw [span, Token.quotes_span, (Token.quotes_eq_zero_iff inner).mpr free]
    exact ⟨List.getLast?_concat, rfl⟩
  · rintro ⟨last, two⟩
    obtain ⟨inner, parts⟩ : ∃ inner, rest = inner ++ ['"'] := by
      cases rest with
      | nil => simp [whole, Token.quotes] at two
      | cons first others =>
          rw [whole, List.getLast?_cons_cons] at last
          exact ⟨_, (List.dropLast_append_getLast? _ last).symm⟩
    have span : token.text = '"' :: inner ++ ['"'] := by
      rw [whole, parts]
      rfl
    have free : '"' ∉ inner := by
      rw [span, Token.quotes_span] at two
      exact (Token.quotes_eq_zero_iff inner).mp (by omega)
    rw [parts, isQuotedFrom_inside free]
    rfl

/-- A token is accepted as a quoted value if it is a bare word or a single span. -/
theorem isWellQuoted_iff :
    isWellQuoted token.text = true ↔ Token.IsSingleValue token.text := by
  by_cases opens : token.text.head? = some '"'
  · obtain ⟨rest, whole⟩ := List.head?_eq_some_iff.mp opens
    have some : Token.quotes token.text ≠ 0 := by
      rw [whole]
      simp [Token.quotes]
    rw [isWellQuoted_span_iff member whole, Token.IsSingleValue, or_iff_right some,
      and_iff_right opens]
  · rw [isWellQuoted_bare_iff member opens, Token.IsSingleValue, or_iff_left]
    exact fun span => opens span.1

end Tokens

end Matcher

/-- Different arguments start at different columns. -/
theorem CodeLine.eq_of_start_eq {line : Line} {code : CodeLine} (read : ofLine? line = some code)
    {first second : Nat} {argument other : Token} (here : code.arguments[first]? = some argument)
    (there : code.arguments[second]? = some other) (same : argument.start = other.start) :
    first = second := by
  have ordered := arguments_ordered read
  rw [List.pairwise_iff_getElem] at ordered
  obtain ⟨firstWithin, rfl⟩ := List.getElem?_eq_some_iff.mp here
  obtain ⟨secondWithin, rfl⟩ := List.getElem?_eq_some_iff.mp there
  rcases Nat.lt_trichotomy first second with before | equal | after
  · have := (ordered first second firstWithin secondWithin before).start_lt
    omega
  · exact equal
  · have := (ordered second first secondWithin firstWithin after).start_lt
    omega

namespace Signature

/-- A diagnostic says that its argument is refused. -/
def ReportsMismatch (signature : Signature) (code : CodeLine) (argument : Token) : Prop :=
  ∃ diagnostic ∈ signature.check code, diagnostic.code = .parameterMismatch ∧
    diagnostic.span = argument.span code.line.number

/-- An argument is reported if its parameter refuses it, whatever the other ones do. -/
theorem reportsMismatch_iff {line : Line} {code : CodeLine}
    (read : CodeLine.ofLine? line = some code) {signature : Signature} {index : Nat}
    {parameter : Parameter} {argument : Token} (declared : signature[index]? = some parameter)
    (present : code.arguments[index]? = some argument) :
    signature.ReportsMismatch code argument ↔ parameter.accepts argument.text = false := by
  have parts : signature.check code =
      (signature.refusedPairs code).map (fun pair => mismatch code pair.1.1 pair.1.2) ++
        ((signature.drop code.arguments.length).find? Parameter.required).toList.map
          (missing code) := by
    rw [check, checkFrom_eq, ← map_fst_refusedPairs, List.map_map]
    rfl
  constructor
  · rintro ⟨diagnostic, reported, kind, span⟩
    rw [parts, List.mem_append] at reported
    rcases reported with refused | lacking
    · obtain ⟨⟨⟨other, token⟩, place⟩, member, rfl⟩ := List.mem_map.mp refused
      obtain ⟨⟨declaredThere, presentThere⟩, refuses⟩ :=
        (mem_refusedPairs_iff signature code).mp member
      have start : token.start = argument.start := congrArg Span.start span
      obtain rfl := CodeLine.eq_of_start_eq read presentThere present start
      obtain rfl : other = parameter := Option.some.inj (declaredThere.symm.trans declared)
      obtain rfl : token = argument := Option.some.inj (presentThere.symm.trans present)
      exact refuses
    · obtain ⟨needed, -, rfl⟩ := List.mem_map.mp lacking
      cases kind
  · intro refuses
    refine ⟨mismatch code parameter argument, ?_, rfl, rfl⟩
    rw [parts]
    apply List.mem_append_left
    exact List.mem_map.mpr ⟨((parameter, argument), index),
      (mem_refusedPairs_iff signature code).mpr ⟨⟨declared, present⟩, refuses⟩, rfl⟩

end Signature

namespace Matcher

/-- A token is accepted as a quoted value if it is a bare word or a single span. So an argument of a
parameter with this matcher is reported if it is neither. All captures that mention a quote have
this matcher, and it agrees with its pattern on all texts, wherever the pattern can be read. -/
theorem quoted_accepts_iff [Host] :
    (∀ (text : Text) (token : Token), token ∈ Token.split text →
      (accepts .quoted token.text = true ↔ Token.IsSingleValue token.text)) ∧
      (∀ (line : Line) (code : CodeLine) (signature : Signature) (index : Nat)
        (parameter : Parameter) (argument : Token), CodeLine.ofLine? line = some code →
        signature[index]? = some parameter → parameter.matcher = some .quoted →
        code.arguments[index]? = some argument →
        (signature.ReportsMismatch code argument ↔ ¬ Token.IsSingleValue argument.text)) ∧
      (∀ capture : Text, '"' ∈ capture → compile capture = .ok .quoted) ∧
      ∃ tree, (∀ limit, 4 ≤ limit → Pattern.parseWithin limit (source .quoted) = .ok tree) ∧
        ∀ text : Text, tree.accepts text = accepts .quoted text := by
  refine ⟨?_, ?_, ?_, valueTree, fun _ => parseWithin_source_quoted, accepts_valueTree⟩
  · intro text token member
    exact isWellQuoted_iff member
  · intro line code signature index parameter argument read declared matcher present
    have member : argument ∈ Token.split (Token.stripComment line.text) := by
      rw [(CodeLine.ofLine?_tokens read).2]
      exact List.mem_cons_of_mem _ (List.mem_of_getElem? present)
    have accepted : parameter.accepts argument.text = isWellQuoted argument.text := by
      rw [Parameter.accepts, matcher]
      rfl
    rw [Signature.reportsMismatch_iff read declared present, accepted, Bool.eq_false_iff, Ne,
      isWellQuoted_iff member]
  · intro capture quote
    rw [compile, if_pos (List.contains_iff_mem.mpr quote)]

/-- A span may hold blanks, but nothing may be glued to it. -/
theorem quoted_accepts_iff_ring :
    let line : Line := ⟨0, "BaseType \"Gold Ring\" a\"b c\"".toList⟩
    let base : Parameter := ⟨.string, true, some .quoted, some "\"[^\"]*\"".toList, none⟩
    let code : CodeLine := ⟨line, ⟨"BaseType".toList, 0⟩,
      [⟨"\"Gold Ring\"".toList, 9⟩, ⟨"a\"b c\"".toList, 21⟩]⟩
    CodeLine.ofLine? line = some code ∧
      ⟨"\"Gold Ring\"".toList, 9⟩ ∈ Token.split line.text ∧
      accepts .quoted "\"Gold Ring\"".toList = true ∧
      ¬ Signature.ReportsMismatch [base, base] code ⟨"\"Gold Ring\"".toList, 9⟩ ∧
      Signature.ReportsMismatch [base, base] code ⟨"a\"b c\"".toList, 21⟩ := by
  intro line base code
  have read : CodeLine.ofLine? line = some code := by decide +kernel
  have member : ⟨"\"Gold Ring\"".toList, 9⟩ ∈ Token.split line.text := by decide +kernel
  obtain ⟨tokens, reports, -⟩ := quoted_accepts_iff
  have first := reports line code [base, base] 0 base _ read rfl rfl rfl
  have second := reports line code [base, base] 1 base _ read rfl rfl rfl
  refine ⟨read, member, (tokens _ _ member).mpr (by decide), ?_, second.mpr (by decide)⟩
  intro reported
  exact first.mp reported (by decide)

end Matcher

end ItemFilter
