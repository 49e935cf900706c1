/-
This file compares the matcher for quoted values with the pattern that it stands for. The pattern is
read to a regular tree, and the matcher goes through the states of its language.
-/

import ItemFilter.Matcher
import ItemFilter.Proofs.Leniency
import ItemFilter.Proofs.Pattern.Regular

namespace ItemFilter

open scoped Computability
open Pattern

namespace Matcher

/-- The characters of a bare word. -/
def isBare (character : Char) : Bool :=
  !Text.isBlank character && character != '"'

/-- A text that does not start with a quote is accepted as a bare word, up to one newline. -/
theorem isWellQuoted_eq_of_head? {text : Text} (other : text.head? ≠ some '"') :
    isWellQuoted text =
      (!(text.takeWhile isBare).isEmpty && isEnd (text.dropWhile isBare)) := by
  unfold isWellQuoted
  split
  · exact absurd rfl other
  · rfl

section Languages

/-- A double quote. -/
def quoteLanguage : Language Char :=
  characterLanguage fun character => character == '"'

/-- Any number of other characters. -/
def innerLanguage : Language Char :=
  (characterLanguage fun character => character != '"')∗

/-- A blank. -/
def blankLanguage : Language Char :=
  characterLanguage Text.isBlank

/-- A bare word. -/
def wordLanguage : Language Char :=
  characterLanguage isBare * (characterLanguage isBare)∗

/-- Nothing, or one newline. -/
def endLanguage : Language Char :=
  {text | isEnd text = true}

/-- Further spans, each behind blanks. -/
def furtherLanguage : Language Char :=
  (blankLanguage * (blankLanguage∗ * (quoteLanguage * (innerLanguage * quoteLanguage))))∗

/-- The texts that may follow in a state. -/
def stateLanguage : QuotedState → Language Char
  | .closed => furtherLanguage * endLanguage
  | .inside => innerLanguage * (quoteLanguage * (furtherLanguage * endLanguage))
  | .spaced =>
      blankLanguage∗ * (quoteLanguage *
        (innerLanguage * (quoteLanguage * (furtherLanguage * endLanguage))))

/-- The texts of quoted spans or a bare word. -/
def valueLanguage : Language Char :=
  (quoteLanguage * (innerLanguage * (quoteLanguage * furtherLanguage)) + wordLanguage) * endLanguage

theorem stateLanguage_inside :
    stateLanguage .inside = quoteLanguage * stateLanguage .closed +
      characterLanguage (fun character => character != '"') * stateLanguage .inside :=
  kstar_mul_eq _ _

theorem stateLanguage_spaced :
    stateLanguage .spaced = quoteLanguage * stateLanguage .inside +
      blankLanguage * stateLanguage .spaced :=
  kstar_mul_eq _ _

theorem stateLanguage_closed :
    stateLanguage .closed = endLanguage + blankLanguage * stateLanguage .spaced := by
  rw [stateLanguage, furtherLanguage, kstar_mul_eq, mul_assoc blankLanguage,
    mul_assoc blankLanguage∗, mul_assoc quoteLanguage, mul_assoc innerLanguage]
  rfl

theorem mem_endLanguage_iff (text : Text) : text ∈ endLanguage ↔ isEnd text = true :=
  Iff.rfl

theorem not_nil_mem_characterLanguage_mul {accepts : Char → Bool} {language : Language Char} :
    [] ∉ characterLanguage accepts * language := by
  rw [mem_characterLanguage_mul]
  rintro ⟨character, others, same, -⟩
  cases same

theorem cons_mem_characterLanguage_mul_iff {accepts : Char → Bool} {language : Language Char}
    {character : Char} {rest : Text} :
    character :: rest ∈ characterLanguage accepts * language ↔
      accepts character = true ∧ rest ∈ language := by
  rw [mem_characterLanguage_mul]
  constructor
  · rintro ⟨first, others, same, accepted, member⟩
    obtain ⟨rfl, rfl⟩ := List.cons.inj same
    exact ⟨accepted, member⟩
  · rintro ⟨accepted, member⟩
    exact ⟨character, rest, rfl, accepted, member⟩

theorem cons_mem_quoteLanguage_mul_iff {language : Language Char} {character : Char} {rest : Text} :
    character :: rest ∈ quoteLanguage * language ↔ character = '"' ∧ rest ∈ language := by
  rw [quoteLanguage, cons_mem_characterLanguage_mul_iff, beq_iff_eq]

/-- The matcher accepts the texts that may follow in its state. -/
theorem isQuotedFrom_iff (state : QuotedState) (text : Text) :
    isQuotedFrom state text = true ↔ text ∈ stateLanguage state := by
  induction text generalizing state with
  | nil =>
      cases state with
      | inside =>
          rw [stateLanguage_inside, Language.mem_add]
          simp [isQuotedFrom, quoteLanguage, not_nil_mem_characterLanguage_mul]
      | closed =>
          rw [stateLanguage_closed, Language.mem_add]
          simp [isQuotedFrom, mem_endLanguage_iff, isEnd]
      | spaced =>
          rw [stateLanguage_spaced, Language.mem_add]
          simp [isQuotedFrom, quoteLanguage, blankLanguage, not_nil_mem_characterLanguage_mul]
  | cons character rest ih =>
      cases state with
      | inside =>
          rw [stateLanguage_inside, Language.mem_add, cons_mem_quoteLanguage_mul_iff,
            cons_mem_characterLanguage_mul_iff, ← ih, ← ih, isQuotedFrom]
          by_cases quote : character = '"' <;> simp [quote]
      | closed =>
          rw [stateLanguage_closed, Language.mem_add, blankLanguage,
            cons_mem_characterLanguage_mul_iff, ← ih, isQuotedFrom]
          simp [mem_endLanguage_iff, isEnd]
      | spaced =>
          rw [stateLanguage_spaced, Language.mem_add, cons_mem_quoteLanguage_mul_iff, blankLanguage,
            cons_mem_characterLanguage_mul_iff, ← ih, ← ih, isQuotedFrom]
          by_cases quote : character = '"'
          · have visible : Text.isBlank '"' = false := by decide
            simp [quote, visible]
          · simp [quote]

/-- The end of a bare word is the first character that is not part of it. -/
theorem mem_kstar_isBare_iff (text : Text) :
    text ∈ (characterLanguage isBare)∗ * endLanguage ↔ isEnd (text.dropWhile isBare) = true := by
  induction text with
  | nil =>
      rw [kstar_mul_eq, Language.mem_add, mem_endLanguage_iff]
      exact iff_of_true (.inl rfl) rfl
  | cons character rest ih =>
      rw [kstar_mul_eq, Language.mem_add, cons_mem_characterLanguage_mul_iff, ih,
        mem_endLanguage_iff]
      by_cases bare : isBare character = true
      · have noEnd : isEnd (character :: rest) = false := by
          have other : character ≠ '\n' := by
            rintro rfl
            revert bare
            decide
          simp [isEnd, other]
        simp [bare, noEnd]
      · simp [bare]

/-- The matcher for quoted values accepts the texts of its language. -/
theorem isWellQuoted_iff_mem (text : Text) :
    isWellQuoted text = true ↔ text ∈ valueLanguage := by
  rw [valueLanguage, add_mul, Language.mem_add, wordLanguage, mul_assoc, mul_assoc, mul_assoc,
    mul_assoc]
  cases text with
  | nil =>
      exact iff_of_false nofun (not_or.mpr
        ⟨not_nil_mem_characterLanguage_mul, not_nil_mem_characterLanguage_mul⟩)
  | cons character rest =>
      rw [cons_mem_quoteLanguage_mul_iff, cons_mem_characterLanguage_mul_iff, mem_kstar_isBare_iff]
      by_cases quote : character = '"'
      · have bare : isBare '"' = false := by decide
        have spans := isQuotedFrom_iff .inside rest
        rw [quote, bare]
        simpa [isWellQuoted, stateLanguage] using spans
      · have head : (character :: rest).head? ≠ some '"' := by simpa using quote
        rw [isWellQuoted_eq_of_head? head]
        by_cases bare : isBare character = true <;> simp [bare, quote]

end Languages

end Matcher

section Trees

/-- The tree of a double quote. -/
def quoteTree : Node :=
  .atom .none (.literal 0x22 false)

/-- The tree of any number of other characters. -/
def innerTree : Node :=
  .repeated .greedy 0 none (.atom .none (.literal 0x22 true))

/-- The tree of one or more blanks. -/
def gapTree : Node :=
  .repeated .greedy 1 none (.atom .none (.oneOf [.category .blank false] false))

/-- The tree of a bare word. -/
def wordTree : Node :=
  .repeated .greedy 1 none (.atom .none (.oneOf [.category .blank false, .single 0x22] true))

/-- The tree of quoted spans with blanks between them. -/
def spansTree : Node :=
  .sequence quoteTree (.sequence innerTree (.sequence quoteTree
    (.repeated .greedy 0 none
      (.sequence gapTree (.sequence quoteTree (.sequence innerTree quoteTree))))))

/-- The tree of quoted spans, or a bare word, and nothing else. -/
def valueTree : Node :=
  .sequence (.anchor .none .lineStart)
    (.sequence (.choice spansTree wordTree) (.anchor .none .lineEnd))

section Reading

theorem toNat_beq_quote (character : Char) : (character.toNat == 0x22) = (character == '"') := by
  rw [Bool.eq_iff_iff, beq_iff_eq, beq_iff_eq]
  exact Char.toNat_inj (d := '"')

theorem reads_quoteTree : quoteTree.search.Reads Matcher.quoteLanguage := by
  have same : (fun character => Atom.accepts .none character (.literal 0x22 false)) =
      fun character => character == '"' := by
    funext character
    simp [Atom.accepts, Modes.equates, Modes.none, toNat_beq_quote]
  have reads := Way.reads_atom .none (.literal 0x22 false)
  rwa [same] at reads

theorem reads_innerTree : innerTree.search.Reads Matcher.innerLanguage := by
  have same : (fun character => Atom.accepts .none character (.literal 0x22 true)) =
      fun character => character != '"' := by
    funext character
    simp [Atom.accepts, Modes.equates, Modes.none, toNat_beq_quote, bne]
  have reads := (Way.reads_atom .none (.literal 0x22 true)).turns 0
  rwa [same, pow_zero, one_mul] at reads

theorem reads_gapTree :
    gapTree.search.Reads (Matcher.blankLanguage * Matcher.blankLanguage∗) := by
  have same : (fun character =>
      Atom.accepts .none character (.oneOf [.category .blank false] false)) = Text.isBlank := by
    funext character
    simp [Atom.accepts, Modes.none, Member.contains, Category.contains]
  have reads := (Way.reads_atom .none (.oneOf [.category .blank false] false)).turns 1
  rwa [same, pow_one] at reads

theorem reads_wordTree : wordTree.search.Reads Matcher.wordLanguage := by
  have same : (fun character =>
      Atom.accepts .none character (.oneOf [.category .blank false, .single 0x22] true)) =
      Matcher.isBare := by
    funext character
    simp [Atom.accepts, Modes.none, Member.contains, Category.contains, toNat_beq_quote,
      Matcher.isBare, bne]
  have reads := (Way.reads_atom .none (.oneOf [.category .blank false, .single 0x22] true)).turns 1
  rwa [same, pow_one] at reads

theorem reads_spansTree :
    spansTree.search.Reads (Matcher.quoteLanguage * (Matcher.innerLanguage *
      (Matcher.quoteLanguage * Matcher.furtherLanguage))) := by
  have further := (reads_gapTree.sequence
    (reads_quoteTree.sequence (reads_innerTree.sequence reads_quoteTree))).turns 0
  rw [pow_zero, one_mul, mul_assoc] at further
  exact reads_quoteTree.sequence (reads_innerTree.sequence (reads_quoteTree.sequence further))

end Reading

/-- The pattern has groups within groups, so a little depth is needed to read it. -/
theorem parseWithin_source_quoted [Host] {limit : Nat} (deep : 4 ≤ limit) :
    parseWithin limit (Matcher.source .quoted) = .ok valueTree := by
  have shallow : parseWithin 4 (Matcher.source .quoted) = .ok valueTree := by rfl
  exact parseWithin_mono deep shallow

theorem decides_lineEnd :
    Search.Decides ((Node.anchor .none .lineEnd).search some) Matcher.endLanguage := by
  intro place _
  have same : Anchor.holds .none place .lineEnd = Matcher.isEnd place.ahead := by
    simp [Anchor.holds, Modes.none, Matcher.isEnd]
  rw [Node.search, Matcher.mem_endLanguage_iff]
  dsimp only
  rw [same]
  split
  · next holds => exact iff_of_true rfl holds
  · next fails => exact iff_of_false Bool.false_ne_true fails

/-- The pattern accepts what the matcher for quoted values accepts. -/
theorem accepts_valueTree (text : Text) : valueTree.accepts text = Matcher.isWellQuoted text := by
  have unreferenced : valueTree.Unreferenced := by
    simp [valueTree, spansTree, wordTree, gapTree, innerTree, quoteTree, Node.Unreferenced]
  rw [unreferenced.accepts_eq, Bool.eq_iff_iff, Matcher.isWellQuoted_iff_mem]
  exact (reads_spansTree.choice reads_wordTree) decides_lineEnd (.start text) rfl

end Trees

end ItemFilter
