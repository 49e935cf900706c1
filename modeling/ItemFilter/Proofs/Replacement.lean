/-
This file says that the hint about an unknown command can be followed. The hint names a command of
the catalog, and with that name in the place of the old one the line is no longer reported for its
command.
-/

import ItemFilter.Proofs.Slice
import ItemFilter.Proofs.Vocabulary

namespace ItemFilter

namespace Span

/-- The text with other characters in the columns of the span. -/
def replace (span : Span) (text new : Text) : Text :=
  text.take span.start ++ (new ++ text.drop span.stop)

theorem replace_append (line : Nat) (before part after new : Text) :
    replace ⟨line, before.length, part.length⟩ (before ++ (part ++ after)) new =
      before ++ (new ++ after) := by
  have behind : (before ++ (part ++ after)).drop (before.length + part.length) = after := by
    rw [← List.append_assoc, ← List.length_append, List.drop_left]
  rw [replace, stop, List.take_left, behind]

end Span

namespace Suggestion

theorem mem_names_of_mem_ranked {word : Text} {catalog : Catalog} {most : Int} {name : Text}
    (listed : name ∈ ranked word catalog most) : name ∈ catalog.names := by
  obtain ⟨pair, member, rfl⟩ := List.mem_map.mp listed
  rw [List.mem_mergeSort] at member
  obtain ⟨known, present, rfl⟩ := List.mem_map.mp (List.mem_filter.mp member).1
  exact present

theorem mem_names_of_correction? {word : Text} {catalog : Catalog} {name : Text}
    (found : correction? word catalog = some name) : name ∈ catalog.names := by
  obtain ⟨_, known⟩ := Option.filter_eq_some_iff.mp found
  apply Decidable.byContradiction
  intro absent
  rw [Catalog.hasName, (catalog.find?_eq_none_iff name).mpr absent] at known
  cases known

theorem mem_names_of_mem_candidates {word : Text} {catalog : Catalog} {most : Int} {name : Text}
    (listed : name ∈ candidates word catalog most) : name ∈ catalog.names := by
  unfold candidates at listed
  split at listed
  · next correction found =>
      rcases List.mem_cons.mp listed with rfl | near
      · exact mem_names_of_correction? found
      · exact mem_names_of_mem_ranked (List.mem_filter.mp near).1
  · exact mem_names_of_mem_ranked listed

/-- Whatever the limits are, only commands of the catalog are suggested. -/
theorem mem_names_of_mem_suggest {word : Text} {catalog : Catalog} {most limit : Int} {name : Text}
    (listed : name ∈ suggest word catalog most limit) : name ∈ catalog.names := by
  unfold suggest cut at listed
  split at listed <;> exact mem_names_of_mem_candidates (List.mem_of_mem_take listed)

/-- The hint to write another command. -/
def hint (name : Text) : String :=
  "Replace with `" ++ name.shown ++ "`."

theorem hint_injective : Function.Injective hint := by
  intro left right same
  have whole := congrArg String.toList same
  unfold hint at whole
  rw [String.toList_append, String.toList_append, String.toList_append, String.toList_append] at whole
  have names := List.append_cancel_left (List.append_cancel_right whole)
  rwa [Text.shown, Text.shown, String.toList_ofList, String.toList_ofList] at names

end Suggestion

/-- The hint of the diagnostic names the first suggestion. -/
theorem Setting.hint_unknownCommand (setting : Setting) (code : CodeLine) :
    (setting.unknownCommand code).hint =
      (Suggestion.suggest code.command.text setting.catalog setting.options.suggestionDistance
        setting.options.suggestionCount).head?.map Suggestion.hint := by
  dsimp only [unknownCommand]
  cases (Suggestion.suggest code.command.text setting.catalog setting.options.suggestionDistance
    setting.options.suggestionCount).head? <;> rfl

/-- A bare word may take the place of any command: what separated the old command from the rest of
the line separates the new one. -/
theorem CodeLine.ofLine?_replace {line : Line} {code : CodeLine} (read : ofLine? line = some code)
    (word : BareWord) {fixed : Line}
    (text : fixed.text = code.commandSpan.replace line.text word.text) :
    ∃ arguments, ofLine? fixed = some ⟨fixed, ⟨word.text, code.command.start⟩, arguments⟩ := by
  obtain ⟨indent, rest, parts, start, blank, separated⟩ := exists_indent read
  rw [commandSpan, Token.span, ← start, parts, Span.replace_append] at text
  rw [← start]
  exact ofLine?_of_bareWord word ⟨indent, blank⟩ separated text

namespace Validation

/-- Under the catalog of a grammar, if it has commands, a line is reported for its command exactly
when the catalog does not have it. Only commands of the catalog are offered. If the hint is
followed, the line has the offered command and is not reported for it again, whatever the options
and whatever has come before. -/
theorem validate_replacement [Host] {grammar : Json} {catalog : Catalog} {notices : List Notice}
    (built : Grammar.build grammar = .ok (catalog, notices))
    (commands : ¬ catalog.isEmpty = true) (document : Document) (options : Options)
    (services : Services) :
    match validate document catalog options services with
    | .error fault => document.directory services.workplace = .error fault
    | .ok report =>
        ∃ diagnostics,
          report.diagnostics = diagnostics ++ (checkWhole document services.checker).diagnostics ∧
          ∀ code ∈ document.codeLines,
            ((∃ diagnostic ∈ diagnostics, diagnostic.code = .unknownCommand ∧
                diagnostic.span.line = code.line.number) ↔
              code.command.text ∉ catalog.names) ∧
            ∀ diagnostic ∈ diagnostics, diagnostic.code = .unknownCommand →
              diagnostic.span.line = code.line.number →
              ∃ names,
                (∀ name ∈ names, name ∈ catalog.names) ∧
                diagnostic.message = Suggestion.message code.command.text names ∧
                diagnostic.hint = names.head?.map Suggestion.hint ∧
                ∀ name, diagnostic.hint = some (Suggestion.hint name) →
                  name ∈ catalog.names ∧
                  ∀ fixed : Line, fixed.text = diagnostic.span.replace code.line.text name →
                    (∃ arguments, CodeLine.ofLine? fixed =
                      some ⟨fixed, ⟨name, diagnostic.span.start⟩, arguments⟩) ∧
                    ∀ options directory probe state,
                      ∀ again ∈ (Pass.step ⟨catalog, options, directory⟩ probe state
                        fixed).diagnostics, again.code ≠ .unknownCommand := by
  rcases validate_cases document catalog options services with
    ⟨fault, failed, unresolved⟩ | ⟨report, directory, returned, parts⟩
  · rw [failed]
    exact unresolved
  · rw [returned]
    refine ⟨_, parts, fun code member => ?_⟩
    let setting : Setting := ⟨catalog, options, directory⟩
    have populated : ¬ setting.catalog.isEmpty = true := commands
    have unknown := mem_lineDiagnostics_unknown_iff services.probe populated member
    refine ⟨⟨?_, ?_⟩, ?_⟩
    · rintro ⟨diagnostic, reported⟩
      exact ((unknown diagnostic).mp reported).1
    · intro unnamed
      exact ⟨_, (unknown _).mpr ⟨unnamed, rfl⟩⟩
    · intro diagnostic reported isUnknown place
      obtain ⟨_, rfl⟩ := (unknown diagnostic).mp ⟨reported, isUnknown, place⟩
      obtain ⟨_, _, _, read⟩ := Document.exists_split_of_mem_codeLines member
      refine ⟨_, fun name => Suggestion.mem_names_of_mem_suggest, rfl,
        setting.hint_unknownCommand code, fun name hint => ?_⟩
      rw [setting.hint_unknownCommand code] at hint
      obtain ⟨first, leads, same⟩ := Option.map_eq_some_iff.mp hint
      obtain rfl := Suggestion.hint_injective same
      have known : first ∈ catalog.names :=
        Suggestion.mem_names_of_mem_suggest (List.mem_of_mem_head? leads)
      refine ⟨known, fun fixed text => ?_⟩
      obtain ⟨command, present, rfl⟩ := List.mem_map.mp known
      have named := (Grammar.wellFormed_of_build built present).named
      obtain ⟨arguments, reread⟩ := CodeLine.ofLine?_replace read named.bareWord text
      exact ⟨⟨arguments, reread⟩, fun options directory => Pass.step_of_known reread known⟩

/-- The quotes belong to the command that is replaced, and the comment begins right behind it. -/
theorem validate_replacement_quoted :
    let rule : Json := .object [("match".toList, .string "(Show|Hide)".toList)]
    let grammar : Json := .object [("repository".toList,
      .object [("blocks".toList, .array [rule])])]
    let document : Document := ⟨["\tSh\"ow\"#note".toList], none⟩
    let services : Services := ⟨⟨[], []⟩, fun _ => none, .silent⟩
    let fixed : Line := ⟨7, "\tShow#note".toList⟩
    ∃ catalog report,
      Grammar.build grammar = .ok (catalog, []) ∧
      validate document catalog .standard services = .ok report ∧
      (∃ diagnostic ∈ report.diagnostics, diagnostic.code = .unknownCommand ∧
        diagnostic.hint = some "Replace with `Show`.") ∧
      (∃ arguments, CodeLine.ofLine? fixed = some ⟨fixed, ⟨"Show".toList, 1⟩, arguments⟩) ∧
      ∀ again ∈ (Pass.step ⟨catalog, .standard, none⟩ (fun _ => none) .start fixed).diagnostics,
        again.code ≠ .unknownCommand := by
  intro rule grammar document services fixed
  let catalog : Catalog := [⟨"Show".toList, .blocks, [[]]⟩, ⟨"Hide".toList, .blocks, [[]]⟩]
  let diagnostic : Diagnostic := ⟨.unknownCommand, ⟨0, 1, 6⟩,
    "Unknown command \"Sh\"ow\"\". Did you mean \"Show\"?", some "Replace with `Show`."⟩
  let code : CodeLine := ⟨⟨0, "\tSh\"ow\"#note".toList⟩, ⟨"Sh\"ow\"".toList, 1⟩, []⟩
  have built : Grammar.build grammar = .ok (catalog, []) := by with_unfolding_all rfl
  have returned : validate document catalog .standard services = .ok ⟨[diagnostic], [], []⟩ := by
    decide +kernel
  have replaced := validate_replacement built (by decide) document .standard services
  rw [returned] at replaced
  obtain ⟨diagnostics, parts, lines⟩ := replaced
  have all : diagnostics = [diagnostic] := (List.append_nil diagnostics).symm.trans parts.symm
  have member : code ∈ document.codeLines := by decide +kernel
  have reported : diagnostic ∈ diagnostics := by
    rw [all]
    exact List.mem_singleton_self diagnostic
  obtain ⟨_, _, _, _, follow⟩ := (lines code member).2 diagnostic reported rfl rfl
  obtain ⟨_, edited⟩ := follow "Show".toList rfl
  obtain ⟨read, unreported⟩ := edited fixed rfl
  exact ⟨catalog, _, built, returned, ⟨diagnostic, List.mem_cons_self, rfl, rfl⟩, read,
    unreported _ _ _ _⟩

end Validation

end ItemFilter
