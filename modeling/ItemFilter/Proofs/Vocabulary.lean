/-
This file says that every command of a grammar's catalog is well formed and can be written. Its name
is a word, and a line that starts with the word is read with it as the command.
-/

import Mathlib.Data.List.TakeWhile
import Mathlib.Data.Option.Basic
import ItemFilter.Proofs.Declaration
import ItemFilter.Proofs.Rendering
import ItemFilter.Proofs.Unknown

namespace ItemFilter

namespace Text

theorem Ranges.exists_of_covers {ranges : Ranges} {code : Nat}
    (covers : ranges.covers code = true) :
    ∃ range ∈ ranges, range.1 ≤ code ∧ code ≤ range.2 := by
  induction ranges with
  | nil => cases covers
  | cons range rest ih =>
      rw [Ranges.covers] at covers
      split at covers
      · cases covers
      · next reached =>
          rcases Bool.or_eq_true_iff.mp covers with inside | later
          · exact ⟨range, List.mem_cons_self, by omega, of_decide_eq_true inside⟩
          · obtain ⟨other, member, bounds⟩ := ih later
            exact ⟨other, List.mem_cons_of_mem range member, bounds⟩

/-- Every interval of the one table lies wholly on one side of every interval of the other. -/
def Ranges.Apart (left right : Ranges) : Prop :=
  ∀ first ∈ left, ∀ second ∈ right, first.2 < second.1 ∨ second.2 < first.1

instance (left right : Ranges) : Decidable (left.Apart right) :=
  inferInstanceAs (Decidable (∀ first ∈ left, ∀ second ∈ right, _))

theorem Ranges.Apart.contains {left right : Ranges} (apart : left.Apart right) {character : Char}
    (inside : left.contains character = true) : right.contains character = false := by
  rw [← Bool.not_eq_true]
  intro both
  obtain ⟨first, member, _⟩ := exists_of_covers inside
  obtain ⟨second, there, _⟩ := exists_of_covers both
  have := apart first member second there
  omega

theorem letters_apart : letters.Apart blanks := by
  decide +kernel

theorem numerals_apart : numerals.Apart blanks := by
  decide +kernel

/-- A word character ends no token and begins no quote and no comment. -/
theorem plain_of_isWord {character : Char} (word : isWord character = true) :
    isBlank character = false ∧ character ≠ '"' ∧ character ≠ '#' ∧ character ≠ '\\' := by
  refine ⟨?_, ?_⟩
  · simp only [isWord, Bool.or_eq_true, beq_iff_eq] at word
    rcases word with (rfl | letter) | numeral
    · decide
    · exact letters_apart.contains letter
    · exact numerals_apart.contains numeral
  · refine ⟨?_, ?_, ?_⟩ <;> rintro rfl <;> revert word <;> decide +kernel

/-- The separators are lost and nothing is added. -/
theorem mem_of_mem_pieces {separator : Char} {text piece : Text}
    (listed : piece ∈ text.pieces separator) {character : Char} (member : character ∈ piece) :
    character ∈ text ∧ character ≠ separator := by
  induction text generalizing piece with
  | nil =>
      obtain rfl := List.mem_singleton.mp listed
      cases member
  | cons first rest ih =>
      rw [pieces] at listed
      split at listed
      · rcases List.mem_cons.mp listed with rfl | later
        · cases member
        · exact (ih later member).imp_left (List.mem_cons_of_mem first)
      · next kept =>
          split at listed
          · next none =>
              obtain rfl := List.mem_singleton.mp listed
              obtain rfl := List.mem_singleton.mp member
              exact ⟨List.mem_cons_self, kept⟩
          · next start others parts =>
              rw [parts] at ih
              rcases List.mem_cons.mp listed with rfl | later
              · rcases List.mem_cons.mp member with rfl | inside
                · exact ⟨List.mem_cons_self, kept⟩
                · exact (ih List.mem_cons_self inside).imp_left (List.mem_cons_of_mem first)
              · exact (ih (List.mem_cons_of_mem start later) member).imp_left
                  (List.mem_cons_of_mem first)

/-- A text that may name a command. -/
structure IsName (text : Text) : Prop where
  nonempty : text ≠ []
  word : ∀ character ∈ text, isWord character = true

end Text

namespace CommandName

theorem isNameOrBar_of_mem_groupAtStart? {text group : Text}
    (found : groupAtStart? text = some group) {character : Char} (member : character ∈ group) :
    isNameOrBar character = true := by
  unfold groupAtStart? at found
  split at found
  · dsimp only at found
    split at found
    · obtain rfl := Option.some.inj found
      exact List.mem_takeWhile_imp member
    · cases found
  · cases found

theorem isNameOrBar_of_mem_groupAnywhere? {text group : Text}
    (found : groupAnywhere? text = some group) {character : Char} (member : character ∈ group) :
    isNameOrBar character = true := by
  induction text with
  | nil => cases found
  | cons first rest ih =>
      rw [groupAnywhere?] at found
      rcases (Option.orElse_eq_some _ _ _).mp found with here | ⟨_, later⟩
      · exact isNameOrBar_of_mem_groupAtStart? here member
      · exact ih later

theorem isNameOrBar_of_mem_loneWord? {text word : Text} (found : loneWord? text = some word)
    {character : Char} (member : character ∈ word) : isNameOrBar character = true := by
  have inside : character ∈ text.takeWhile Text.isWord := by
    unfold loneWord? at found
    split at found
    · exact Option.some.inj found ▸ member
    · exact Option.some.inj found ▸ member
    · cases found
  rw [isNameOrBar, List.mem_takeWhile_imp inside, Bool.true_or]

theorem isName_of_mem_namesIn {alternation : Text}
    (alphabet : ∀ character ∈ alternation, isNameOrBar character = true) {name : Text}
    (listed : name ∈ namesIn alternation) : name.IsName := by
  obtain ⟨piece, nonempty⟩ := List.mem_filter.mp listed
  refine ⟨by simpa using nonempty, fun character member => ?_⟩
  obtain ⟨inside, separator⟩ := Text.mem_of_mem_pieces piece member
  simpa [isNameOrBar, separator] using alphabet character inside

/-- A name is taken from one of the three forms. -/
theorem exists_form_of_mem_extract {expression name : Text} (listed : name ∈ extract expression) :
    let stripped := (expression.replace "\\b".toList []).strip
    ∃ alternation, name ∈ namesIn alternation ∧
      (groupAtStart? (dropMarks stripped) = some alternation ∨
        groupAnywhere? stripped = some alternation ∨
        loneWord? (dropMarks stripped) = some alternation) := by
  intro stripped
  unfold extract at listed
  dsimp only at listed
  cases found : List.find? (fun names : List Text => !names.isEmpty) _ with
  | none =>
      rw [found] at listed
      cases listed
  | some names =>
      rw [found] at listed
      obtain ⟨form, member, same⟩ := List.mem_filterMap.mp (List.mem_of_find?_eq_some found)
      obtain ⟨alternation, rfl, rfl⟩ := Option.map_eq_some_iff.mp same
      simp only [List.mem_cons, List.not_mem_nil, or_false] at member
      exact ⟨alternation, listed, member.imp Eq.symm (Or.imp Eq.symm Eq.symm)⟩

/-- Whatever the expression, only words are taken from it. -/
theorem isName_of_mem_extract {expression name : Text} (listed : name ∈ extract expression) :
    name.IsName := by
  obtain ⟨alternation, inside, form⟩ := exists_form_of_mem_extract listed
  refine isName_of_mem_namesIn (fun character member => ?_) inside
  rcases form with group | group | lone
  · exact isNameOrBar_of_mem_groupAtStart? group member
  · exact isNameOrBar_of_mem_groupAnywhere? group member
  · exact isNameOrBar_of_mem_loneWord? lone member

end CommandName

/-- A name can stand in a line as it is. -/
def Text.IsName.bareWord {name : Text} (isName : name.IsName) : BareWord :=
  ⟨name, isName.nonempty, fun character member =>
    Text.plain_of_isWord (isName.word character member)⟩

/-- A comment may begin right behind a token. -/
theorem Token.parted_stripComment {rest : Text}
    (separated : ∀ character ∈ rest.head?, Text.isBlank character = true ∨ character = '#') :
    Parted (stripComment rest) := by
  have empty : Parted [] := by
    intro character begins
    cases begins
  cases rest with
  | nil => exact empty
  | cons first others =>
      rcases separated first rfl with blank | rfl
      · obtain ⟨quote, sign, backslash⟩ := Text.ne_of_isBlank blank
        rw [stripComment, beforeComment_cons fun hides => backslash hides.1, if_neg quote,
          if_neg fun comment => sign comment.1]
        intro character begins
        rw [← Option.some.inj begins, blank]
      · rw [stripComment, beforeComment_cons (by decide)]
        exact empty

/-- A line that starts with a bare word has it as the command, whatever else it holds. -/
theorem CodeLine.ofLine?_of_bareWord (word : BareWord) (indent : Blanks) {rest : Text}
    (separated : ∀ character ∈ rest.head?, Text.isBlank character = true ∨ character = '#')
    {line : Line} (text : line.text = indent.text ++ (word.text ++ rest)) :
    ∃ arguments, ofLine? line = some ⟨line, ⟨word.text, indent.text.length⟩, arguments⟩ := by
  have cut : Token.stripComment line.text =
      indent.text ++ (word.text ++ Token.stripComment rest) := by
    rw [text, Token.stripComment, indent.uncommented, word.uncommented]
    rfl
  have tokens : Token.split (Token.stripComment line.text) =
      ⟨word.text, indent.text.length⟩ ::
        Token.splitFrom (indent.text.length + word.text.length) none (Token.stripComment rest) := by
    rw [cut, Token.split, Token.splitFrom_blanks indent.blank, Nat.zero_add]
    exact word.whole _ _ (Token.parted_stripComment separated)
  obtain ⟨first, others, parts⟩ := List.exists_cons_of_ne_nil word.nonempty
  obtain ⟨visible, _, sign, _⟩ := word.plain first (by simp [parts])
  obtain ⟨stripped, begins⟩ := Text.strip_append indent.blank visible (others ++ rest)
  have stripped : line.text.strip = first :: stripped := by
    rw [text, parts]
    exact begins
  exact ⟨_, ofLine?_of_tokens stripped sign tokens⟩

/-- A command that can be written and checked. -/
structure Command.WellFormed [Host] (command : Command) : Prop where
  named : command.name.IsName
  signed : command.signatures ≠ []
  compiled : ∀ signature ∈ command.signatures, signature.Compiled

namespace Grammar

theorem wellFormed_of_build [Host] {grammar : Json} {catalog : Catalog} {notices : List Notice}
    (built : build grammar = .ok (catalog, notices)) {command : Command}
    (member : command ∈ catalog) : command.WellFormed := by
  have gathers := gathers_of_build built
  have found := Catalog.find?_of_mem gathers.distinct member
  have wellFormed : ∀ mention ∈ (declarations grammar).flatMap Declaration.mentions,
      mention.1.WellFormed ∧ mention.2 ∈ mention.1.names := by
    intro mention listed
    obtain ⟨declaration, declared, there⟩ := List.mem_flatMap.mp listed
    obtain ⟨own, named⟩ := (declaration.mem_mentions_iff mention).mp there
    rw [own]
    exact ⟨wellFormed_of_mem_declarations declared, named⟩
  obtain ⟨first, earliest, _, leads⟩ := gathers.first found
  obtain ⟨declared, named⟩ := wellFormed first (List.mem_of_find?_eq_some earliest)
  refine ⟨?_, ?_, fun signature signed => ?_⟩
  · obtain ⟨expression, names⟩ := declared.extracted
    have same : first.2 = command.name := by simpa using List.find?_some earliest
    rw [names, same] at named
    exact CommandName.isName_of_mem_extract named
  · intro none
    rw [none] at leads
    exact declared.signed (List.prefix_nil.mp leads)
  · obtain ⟨mention, listed, _, there⟩ := (gathers.signatures found signature).mp signed
    exact (wellFormed mention listed).1.compiled signature there

/-- In the catalog of a grammar no two commands share a name, so each is found by its own. The name
is a word, and there are signatures, all of whose parameters have matchers. A line that starts with
the name has it as the command and is never reported for it, neither in a pass, whatever has come
before, nor in the report on a document. -/
theorem build_wellFormed [Host] {grammar : Json} {catalog : Catalog} {notices : List Notice}
    (built : build grammar = .ok (catalog, notices)) :
    catalog.names.Nodup ∧
    ∀ command ∈ catalog, catalog.find? command.name = some command ∧ command.WellFormed ∧
      ∀ (indent : Blanks) (rest : Text), Token.Parted rest →
        ∀ line : Line, line.text = indent.text ++ (command.name ++ rest) →
          (∃ arguments, CodeLine.ofLine? line =
            some ⟨line, ⟨command.name, indent.text.length⟩, arguments⟩) ∧
          (∀ options directory probe state,
            ∀ diagnostic ∈ (Pass.step ⟨catalog, options, directory⟩ probe state line).diagnostics,
              diagnostic.code ≠ .unknownCommand) ∧
          ∀ document options services report, line ∈ document.numbered →
            Validation.validate document catalog options services = .ok report →
            ∃ diagnostics,
              report.diagnostics =
                diagnostics ++ (Validation.checkWhole document services.checker).diagnostics ∧
              ∀ diagnostic ∈ diagnostics,
                diagnostic.span.line = line.number → diagnostic.code ≠ .unknownCommand := by
  have distinct := (gathers_of_build built).distinct
  refine ⟨distinct, fun command member => ?_⟩
  have wellFormed := wellFormed_of_build built member
  refine ⟨Catalog.find?_of_mem distinct member, wellFormed, ?_⟩
  intro indent rest parted line text
  obtain ⟨arguments, read⟩ := CodeLine.ofLine?_of_bareWord wellFormed.named.bareWord indent
    (fun character begins => .inl (parted character begins)) text
  have known : command.name ∈ catalog.names := List.mem_map_of_mem member
  refine ⟨⟨arguments, read⟩, fun options directory => ?_, ?_⟩
  · exact Pass.step_of_known read known
  · intro document options services report present returned
    rcases Validation.validate_cases document catalog options services with
      ⟨fault, failed, _⟩ | ⟨other, directory, again, parts⟩
    · rw [returned] at failed
      cases failed
    · obtain rfl := Except.ok.inj (returned.symm.trans again)
      refine ⟨_, parts, fun diagnostic reported place unknown => ?_⟩
      have listed : _ ∈ document.codeLines := List.mem_filterMap.mpr ⟨line, present, read⟩
      let setting : Setting := ⟨catalog, options, directory⟩
      have commands : ¬ setting.catalog.isEmpty = true := by
        rw [List.isEmpty_iff]
        exact List.ne_nil_of_mem member
      have unnamed := (Validation.mem_lineDiagnostics_unknown_iff services.probe commands listed
        diagnostic).mp ⟨reported, unknown, place⟩
      exact unnamed.1 known

/-- A name may have letters of any alphabet, and a quote that is left open may follow it. -/
theorem build_wellFormed_letters :
    let rule : Json := .object [("match".toList, .string "^\\s*(Größe_2|Hide)\\b".toList)]
    let grammar : Json := .object [("repository".toList,
      .object [("actions".toList, .array [rule])])]
    let line : Line := ⟨4, "\tGröße_2 \"a # b".toList⟩
    ∃ catalog,
      build grammar = .ok (catalog, []) ∧
      (∃ command ∈ catalog, command.name = "Größe_2".toList ∧ command.WellFormed) ∧
      (∃ arguments, CodeLine.ofLine? line = some ⟨line, ⟨"Größe_2".toList, 1⟩, arguments⟩) ∧
      ∀ diagnostic ∈ (Pass.step ⟨catalog, .standard, none⟩ (fun _ => none) .start line).diagnostics,
        diagnostic.code ≠ .unknownCommand := by
  intro rule grammar line
  have built : ∃ catalog, build grammar = .ok (catalog, []) ∧
      ∃ command ∈ catalog, command.name = "Größe_2".toList :=
    ⟨_, by with_unfolding_all rfl, _, List.mem_cons_self, by with_unfolding_all rfl⟩
  obtain ⟨catalog, built, command, member, name⟩ := built
  obtain ⟨_, wellFormed, lines⟩ := (build_wellFormed built).2 command member
  have text : line.text = ['\t'] ++ (command.name ++ " \"a # b".toList) := by
    rw [name]
    rfl
  have blank : ∀ character ∈ ['\t'], Text.isBlank character = true := by
    intro character member
    rw [List.mem_singleton.mp member]
    decide
  have parted : Token.Parted " \"a # b".toList := by
    intro character begins
    rw [← Option.some.inj begins]
    decide
  obtain ⟨read, unreported, _⟩ := lines ⟨['\t'], blank⟩ _ parted line text
  rw [name] at read
  exact ⟨catalog, built, ⟨command, member, name, wellFormed⟩, read, unreported _ _ _ _⟩

end Grammar

end ItemFilter
