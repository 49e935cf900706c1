/-
This file follows the hint about a missing sound file. The hint offers the command with `Optional`
behind its name. Under that name the line keeps its arguments, some columns further to the right,
and it still misses the file. Whether this is a warning now depends on the suffix that the options
have, which the hint does not know.
-/

import ItemFilter.Proofs.Probing
import ItemFilter.Proofs.Quoting
import ItemFilter.Proofs.Replacement

namespace ItemFilter

namespace Token

/-- The token some columns further to the right. -/
def right (token : Token) (count : Nat) : Token :=
  { token with start := token.start + count }

def Unfinished.right (begun : Unfinished) (count : Nat) : Unfinished :=
  { begun with start := begun.start + count }

/-- The column where a text starts matters only for the columns of its tokens. -/
theorem splitFrom_right (column count : Nat) (current : Option Unfinished) (text : Text) :
    splitFrom (column + count) (current.map (·.right count)) text =
      (splitFrom column current text).map (·.right count) := by
  induction text generalizing column current with
  | nil => cases current <;> rfl
  | cons character rest ih =>
      cases current with
      | none =>
          rw [Option.map_none, splitFrom, splitFrom, Nat.add_right_comm]
          split
          · exact ih (column + 1) none
          · exact ih (column + 1) (some (Unfinished.push ⟨[], column, false⟩ character))
      | some begun =>
          rw [Option.map_some, splitFrom, splitFrom, Nat.add_right_comm]
          change (if (Text.isBlank character && !begun.inQuotes) = true then _ else _) = _
          split
          · exact congrArg _ (ih (column + 1) none)
          · exact ih (column + 1) (some (begun.push character))

namespace Scan

theorem cut_append {state after : Scan} {before : Text} (found : state.read before = some after)
    (rest : Text) : state.cut (before ++ rest) = before ++ after.cut rest := by
  induction before generalizing state with
  | nil =>
      obtain rfl := Option.some.inj found
      rfl
  | cons character others ih =>
      obtain ⟨next, first, later⟩ := Option.bind_eq_some_iff.mp found
      rw [List.cons_append, cut, first]
      exact congrArg _ (ih later)

/-- A text that is kept was read to its end. -/
theorem exists_read_of_cut {state : Scan} {before rest kept : Text}
    (cuts : state.cut (before ++ rest) = before ++ kept) :
    ∃ after, state.read before = some after := by
  have within : before.length ≤ (before ++ rest).length := by simp
  have reached : before.length ≤ (state.cut (before ++ rest)).length := by simp [cuts]
  have found := (isSome_read_take_iff state within).mpr reached
  rw [List.take_left] at found
  exact Option.isSome_iff_exists.mp found

/-- Plain characters before a blank hide as much as the blank does. -/
theorem cut_plain_append {state : Scan} {plain : Text}
    (isPlain : ∀ character ∈ plain, character ≠ '"' ∧ character ≠ '#' ∧ character ≠ '\\')
    {blank : Char} (isBlank : Text.isBlank blank = true) (rest : Text) :
    state.cut (plain ++ blank :: rest) = plain ++ state.cut (blank :: rest) := by
  induction plain generalizing state with
  | nil => rfl
  | cons character others ih =>
      obtain ⟨first, later⟩ := List.forall_mem_cons.mp isPlain
      have same : state.passBlank.cut (blank :: rest) = state.cut (blank :: rest) := by
        rw [cut, cut, next_of_isBlank _ isBlank, next_of_isBlank _ isBlank, passBlank_passBlank]
      rw [List.cons_append, cut, state.next_of_plain first, List.cons_append, ← same]
      exact congrArg _ (ih later)

end Scan

/-- Plain characters may be put in before a blank of the code. -/
theorem stripComment_insert {before rest comment plain : Text} {blank : Char}
    (cuts : stripComment (before ++ (blank :: rest ++ comment)) = before ++ blank :: rest)
    (isBlank : Text.isBlank blank = true)
    (isPlain : ∀ character ∈ plain, character ≠ '"' ∧ character ≠ '#' ∧ character ≠ '\\') :
    stripComment (before ++ (plain ++ (blank :: rest ++ comment))) =
      before ++ (plain ++ blank :: rest) := by
  rw [stripComment, ← Scan.cut_ofQuotes] at cuts ⊢
  obtain ⟨after, found⟩ := Scan.exists_read_of_cut cuts
  rw [Scan.cut_append found] at cuts ⊢
  rw [List.cons_append, Scan.cut_plain_append isPlain isBlank, ← List.cons_append,
    List.append_cancel_left cuts]

/-- A first token without an open quote takes in a bare word behind it. The tokens that follow move
to the right. -/
theorem split_extend {blanks word rest : Text} (leading : Leading blanks word false)
    (parted : Parted rest) (suffix : BareWord) :
    split (blanks ++ (word ++ (suffix.text ++ rest))) =
      ⟨word ++ suffix.text, blanks.length⟩ ::
        (splitFrom (blanks.length + word.length) none rest).map (·.right suffix.text.length) := by
  have kept : ∀ character ∈ suffix.text,
      character ≠ '"' ∧ (Text.isBlank character = true → false = true) := by
    intro character member
    obtain ⟨visible, quote, -⟩ := suffix.plain character member
    exact ⟨quote, fun blank => visible.symm.trans blank⟩
  rw [split, leading.reads, splitFrom_begun false kept, splitFrom_parted _ _ rfl parted,
    Nat.zero_add, ← splitFrom_right _ _ none]
  simp [Unfinished.token]

end Token

namespace CodeLine

/-- The parts of a line whose command is followed by arguments. -/
theorem exists_leading_of_arguments {line : Line} {code : CodeLine}
    (read : ofLine? line = some code) (followed : code.arguments ≠ []) :
    ∃ blanks blank others comment,
      line.text = blanks ++ (code.command.text ++ (blank :: others ++ comment)) ∧
      Token.stripComment line.text = blanks ++ (code.command.text ++ blank :: others) ∧
      blanks.length = code.command.start ∧ Token.Leading blanks code.command.text false ∧
      Token.Parted (blank :: others) ∧
      code.arguments = Token.splitFrom (blanks.length + code.command.text.length) none
        (blank :: others) := by
  obtain ⟨comment, whole, -⟩ := Token.exists_comment line.text
  have tokens := (ofLine?_tokens read).2
  rcases Token.exists_leading (Token.stripComment line.text) with
    empty | ⟨blanks, word, rest, quoted, parts, leading, parted, closed⟩
  · rw [Token.split, empty] at tokens
    cases tokens
  · rw [parts, Token.split, leading.reads] at tokens
    cases rest with
    | nil => exact absurd (List.cons.inj tokens).2.symm followed
    | cons blank others =>
        obtain rfl := closed (List.cons_ne_nil _ _)
        rw [Token.splitFrom_parted _ _ rfl parted, Token.Unfinished.token, List.reverse_reverse,
          Nat.zero_add] at tokens
        obtain ⟨command, arguments⟩ := List.cons.inj tokens
        rw [← command, ← arguments]
        refine ⟨blanks, blank, others, comment, ?_, parts, rfl, leading, parted, rfl⟩
        rw [whole, parts, List.append_assoc, List.append_assoc]

/-- The command of a line with arguments may be made longer by a bare word. The arguments move to
the right. -/
theorem ofLine?_extend {line : Line} {code : CodeLine} (read : ofLine? line = some code)
    (followed : code.arguments ≠ []) (suffix : BareWord) {longer : Line}
    (text : longer.text = code.commandSpan.replace line.text (code.command.text ++ suffix.text)) :
    ofLine? longer = some ⟨longer, ⟨code.command.text ++ suffix.text, code.command.start⟩,
      code.arguments.map (·.right suffix.text.length)⟩ := by
  obtain ⟨blanks, blank, others, comment, parts, cuts, start, leading, parted, arguments⟩ :=
    exists_leading_of_arguments read followed
  rw [commandSpan, Token.span, ← start, parts, Span.replace_append, List.append_assoc] at text
  have tokens : Token.split (Token.stripComment longer.text) =
      ⟨code.command.text ++ suffix.text, code.command.start⟩ ::
        code.arguments.map (·.right suffix.text.length) := by
    have plain := fun character member => (suffix.plain character member).2
    rw [parts, ← List.append_assoc, ← List.append_assoc blanks] at cuts
    rw [text, ← List.append_assoc, Token.stripComment_insert cuts (parted blank rfl) plain,
      List.append_assoc, Token.split_extend leading parted, start, arguments, start]
  obtain ⟨first, more, word, visible⟩ := leading.visible
  have begins (rest : Text) : ∃ others,
      Text.strip (blanks ++ (code.command.text ++ rest)) = first :: others := by
    rw [word]
    exact Text.strip_append leading.blank visible _
  have sign : first ≠ '#' := by
    rintro rfl
    obtain ⟨others, stripped⟩ := begins (blank :: others ++ comment)
    rw [ofLine?, parts, stripped] at read
    cases read
  obtain ⟨others, stripped⟩ := begins (suffix.text ++ (blank :: others ++ comment))
  rw [← text] at stripped
  exact ofLine?_of_tokens stripped sign tokens

end CodeLine

namespace Sound

/-- What the hint about a missing file puts behind the name of the command. -/
def suffix : BareWord :=
  have isName : Text.IsName "Optional".toList := ⟨by decide, List.all_eq_true.mp (by decide)⟩
  isName.bareWord

/-- The command that the hint offers. -/
def variant (command : Text) : Text :=
  command ++ suffix.text

/-- The hint about a missing file. -/
def hint (command : Text) : String :=
  "Replace \"" ++ command.shown ++ "\" with \"" ++ (variant command).shown ++
    "\" to downgrade this to a warning."

theorem span_missingFile (code : CodeLine) (argument : Token) (optional : Bool) :
    (missingFile code argument optional).span = argument.span code.line.number := by
  cases optional <;> rfl

theorem code_missingFile (code : CodeLine) (argument : Token) (optional : Bool) :
    (missingFile code argument optional).code =
      if optional then .missingOptionalSoundFile else .missingSoundFile := by
  cases optional <;> rfl

theorem hint_missingFile (code : CodeLine) (argument : Token) :
    (missingFile code argument false).hint = some (hint code.command.text) := by
  have shown : (variant code.command.text).shown = code.command.text.shown ++ "Optional" := by
    rw [Text.shown, variant, String.ofList_append]
    rfl
  rw [hint, shown, ← String.append_assoc, String.append_assoc]
  rfl

end Sound

namespace Setting

/-- A sound line with an argument is reported by what the disk says about the file. -/
theorem findings_of_sound (setting : Setting) (probe : Probe) (block : BlockState) {line : Line}
    {code : CodeLine} (read : CodeLine.ofLine? line = some code)
    (sound : setting.route code = .sound) {argument : Token}
    (first : code.arguments.head? = some argument) :
    setting.findings probe block line =
      match probe (Sound.lookupPath argument.unquoted setting.directory) with
      | none => [.plain .internalError line.span]
      | some true => []
      | some false =>
          [Sound.missingFile code argument (setting.options.isOptional code.command.text)] := by
  obtain ⟨others, arguments⟩ := List.head?_eq_some_iff.mp first
  rw [setting.findings_of_code probe block read, judge_eq, sound]
  dsimp only
  rw [Sound.check, arguments]
  dsimp only [Verdict.answered]
  cases probe (Sound.lookupPath argument.unquoted setting.directory) with
  | none => rfl
  | some found => cases found <;> rfl

/-- A sound file is reported as missing where a sound line asks for it in vain. -/
theorem exists_of_missingSoundFile {setting : Setting} {probe : Probe} {block : BlockState}
    {line : Line} {code : CodeLine} (read : CodeLine.ofLine? line = some code)
    {diagnostic : Diagnostic} (reported : diagnostic ∈ setting.findings probe block line)
    (missing : diagnostic.code = .missingSoundFile) :
    ∃ argument, code.arguments.head? = some argument ∧
      probe (Sound.lookupPath argument.unquoted setting.directory) = some false ∧
      diagnostic = Sound.missingFile code argument false := by
  have sound : setting.route code = .sound := by
    have known := setting.findings_code probe block read reported
    rw [missing] at known
    cases route : setting.route code <;> simp_all [Route.codes]
  cases arguments : code.arguments with
  | nil =>
      rw [setting.findings_of_code probe block read, judge_eq, sound] at reported
      dsimp only at reported
      rw [Sound.check, arguments] at reported
      obtain rfl := List.mem_singleton.mp reported
      cases missing
  | cons argument others =>
      have first : code.arguments.head? = some argument := by rw [arguments, List.head?_cons]
      rw [setting.findings_of_sound probe block read sound first] at reported
      refine ⟨argument, rfl, ?_⟩
      split at reported
      · obtain rfl := List.mem_singleton.mp reported
        cases missing
      · cases reported
      · next absent =>
          obtain rfl := List.mem_singleton.mp reported
          rw [Sound.code_missingFile] at missing
          cases optional : setting.options.isOptional code.command.text with
          | true =>
              rw [optional] at missing
              cases missing
          | false => exact ⟨absent, rfl⟩

/-- Under the variant of its command, a line that misses a sound file is reported for that file and
for nothing else. -/
theorem findings_variant {setting : Setting} {probe : Probe} {block : BlockState} {line : Line}
    {code : CodeLine} (read : CodeLine.ofLine? line = some code) {diagnostic : Diagnostic}
    (reported : diagnostic ∈ setting.findings probe block line)
    (missing : diagnostic.code = .missingSoundFile)
    (known : Sound.variant code.command.text ∈ setting.catalog.names)
    (sound : setting.options.isSound (Sound.variant code.command.text) = true)
    (noColor : ¬ setting.options.isColor (Sound.variant code.command.text) = true)
    (number : Nat) :
    ∃ only,
      setting.findings probe block ⟨number,
        code.commandSpan.replace line.text (Sound.variant code.command.text)⟩ = [only] ∧
      only.span = ⟨number, diagnostic.span.start + 8, diagnostic.span.width⟩ ∧
      only.code = (if setting.options.optionalSuffix <:+ Sound.variant code.command.text then
        .missingOptionalSoundFile else .missingSoundFile) ∧
      (only.severity = .warning ↔
        setting.options.optionalSuffix <:+ Sound.variant code.command.text) := by
  obtain ⟨argument, first, absent, rfl⟩ := exists_of_missingSoundFile read reported missing
  have followed : code.arguments ≠ [] := by
    intro nothing
    rw [nothing] at first
    cases first
  let longer : Line :=
    ⟨number, code.commandSpan.replace line.text (Sound.variant code.command.text)⟩
  let fixed : CodeLine := ⟨longer, ⟨Sound.variant code.command.text, code.command.start⟩,
    code.arguments.map (·.right 8)⟩
  have reread : CodeLine.ofLine? longer = some fixed :=
    CodeLine.ofLine?_extend read followed Sound.suffix rfl
  have leads : fixed.arguments.head? = some (argument.right 8) := by
    rw [List.head?_map, first, Option.map_some]
  have route : setting.route fixed = .sound :=
    (setting.route_eq_sound_iff fixed).mpr ⟨opensBlock_of_argument leads, known, noColor, sound⟩
  have findings := setting.findings_of_sound probe block reread route leads
  rw [show (argument.right 8).unquoted = argument.unquoted from rfl, absent] at findings
  have optional : setting.options.isOptional fixed.command.text = true ↔
      setting.options.optionalSuffix <:+ Sound.variant code.command.text :=
    List.isSuffixOf_iff_suffix
  refine ⟨_, findings, ?_, ?_, ?_⟩
  · rw [Sound.span_missingFile, Sound.span_missingFile]
    rfl
  · simp only [Sound.code_missingFile, optional]
  · rw [← optional, Diagnostic.severity, Sound.code_missingFile]
    cases setting.options.isOptional fixed.command.text <;> decide

end Setting

/-- The document with another text in one of its lines. -/
def Document.withLine (document : Document) (number : Nat) (text : Text) : Document :=
  { document with lines := document.lines.set number text }

theorem Document.numbered_withLine {document : Document} {before after : List Line} {line : Line}
    (split : document.numbered = before ++ line :: after) (text : Text) :
    (document.withLine line.number text).numbered =
      before ++ ⟨line.number, text⟩ :: after := by
  have replaced (number : Nat) :
      (document.withLine number text).numbered = document.numbered.set number ⟨number, text⟩ := by
    apply List.ext_getElem?
    intro index
    simp only [numbered, withLine, List.getElem?_map, List.getElem?_zipIdx, List.getElem?_set,
      List.length_map, List.length_zipIdx]
    by_cases here : number = index
    · simp [here]
    · simp [here]
  have place : line.number = before.length := by
    have there : document.numbered[before.length]? = some line := by
      rw [split, List.getElem?_append_right (Nat.le_refl _), Nat.sub_self]
      rfl
    rw [numbered, List.getElem?_map, List.getElem?_zipIdx, Option.map_map] at there
    obtain ⟨content, -, rfl⟩ := Option.map_eq_some_iff.mp there
    exact Nat.zero_add _
  rw [replaced, split, place, List.set_append_right _ _ (Nat.le_refl _), Nat.sub_self]
  rfl

namespace Validation

/-- A report without lines, under an empty catalog, or a report on the lines and the whole. -/
theorem report_cases {document : Document} {catalog : Catalog} {options : Options}
    {services : Services} {report : Report}
    (returned : validate document catalog options services = .ok report) :
    (report.diagnostics = (checkWhole document services.checker).diagnostics ∧
        catalog.isEmpty = true) ∨
      ∃ directory, document.directory services.workplace = .ok directory ∧
        ¬ catalog.isEmpty = true ∧
        report.diagnostics =
          lineDiagnostics document ⟨catalog, options, directory⟩ services.probe ++
            (checkWhole document services.checker).diagnostics := by
  have parts := validate_diagnostics document catalog options services
  rw [returned] at parts
  by_cases empty : catalog.isEmpty = true
  · rw [if_pos empty] at parts
    exact .inl ⟨Except.ok.inj parts, empty⟩
  · rw [if_neg empty] at parts
    cases resolved : document.directory services.workplace with
    | error fault =>
        rw [resolved] at parts
        cases parts
    | ok directory =>
        rw [resolved] at parts
        exact .inr ⟨directory, rfl, empty, Except.ok.inj parts⟩

/-- The hint about a missing sound file names a variant of the command. If the catalog and the
options take the variant for a sound command that sets no color, then the line with the variant in
the place of the command has one diagnostic, at the same argument. It is a warning exactly if the
variant has the suffix of the options; otherwise the file is reported as before. -/
theorem validate_variant {document : Document} {catalog : Catalog} {options : Options}
    {services : Services} {report : Report}
    (returned : validate document catalog options services = .ok report) :
    ∃ diagnostics,
      report.diagnostics = diagnostics ++ (checkWhole document services.checker).diagnostics ∧
      ∀ code ∈ document.codeLines, ∀ diagnostic ∈ diagnostics,
        diagnostic.code = .missingSoundFile → diagnostic.span.line = code.line.number →
        diagnostic.hint = some (Sound.hint code.command.text) ∧
        ∀ variant, variant = Sound.variant code.command.text →
          variant ∈ catalog.names → options.isSound variant = true →
          ¬ options.isColor variant = true →
          ∀ edited, edited = document.withLine code.line.number
              (code.commandSpan.replace code.line.text variant) →
            ∃ again others only,
              validate edited catalog options services = .ok again ∧
              again.diagnostics = others ++ (checkWhole edited services.checker).diagnostics ∧
              others.filter (·.span.line == code.line.number) = [only] ∧
              only.span = ⟨code.line.number, diagnostic.span.start + 8, diagnostic.span.width⟩ ∧
              only.code = (if options.optionalSuffix <:+ variant then .missingOptionalSoundFile
                else .missingSoundFile) ∧
              (only.severity = .warning ↔ options.optionalSuffix <:+ variant) := by
  rcases report_cases returned with ⟨whole, empty⟩ | ⟨directory, resolved, commands, parts⟩
  · exact ⟨[], whole, fun code _ => List.forall_mem_nil _⟩
  · refine ⟨_, parts, fun code member diagnostic reported missing place => ?_⟩
    obtain ⟨before, after, split, read⟩ := Document.exists_split_of_mem_codeLines member
    let setting : Setting := ⟨catalog, options, directory⟩
    let block := before.foldl setting.nextBlock .outside
    have found : diagnostic ∈ setting.findings services.probe block code.line := by
      rw [← filter_line_lineDiagnostics services.probe commands split]
      exact List.mem_filter.mpr ⟨reported, beq_iff_eq.mpr place⟩
    obtain ⟨argument, -, -, same⟩ := Setting.exists_of_missingSoundFile read found missing
    refine ⟨by rw [same, Sound.hint_missingFile], ?_⟩
    rintro variant rfl known sound noColor edited rfl
    let text := code.commandSpan.replace code.line.text (Sound.variant code.command.text)
    obtain ⟨only, alone, verdict⟩ :=
      setting.findings_variant read found missing known sound noColor code.line.number
    obtain ⟨again, returnedAgain, partsAgain⟩ :=
      validate_report (document.withLine code.line.number text) catalog options services resolved
    have filtered : (lineDiagnostics (document.withLine code.line.number text) setting
        services.probe).filter (·.span.line == code.line.number) = [only] :=
      (filter_line_lineDiagnostics services.probe commands
        (Document.numbered_withLine split text)).trans alone
    exact ⟨again, _, only, returnedAgain, partsAgain, filtered, verdict⟩

/-- The backslash hides the blank behind the command and then the first character of the suffix. -/
theorem validate_variant_backslash :
    let catalog : Catalog := [⟨"Play\\".toList, .actions, [[]]⟩,
      ⟨"Play\\Optional".toList, .actions, [[]]⟩]
    let options : Options := { Options.standard with
      soundCommands := ["Play\\".toList, "Play\\Optional".toList] }
    let services : Services := ⟨⟨[], []⟩, fun _ => some false, .silent⟩
    let document : Document := ⟨["\tPlay\\ \"a #b\" 50 # loud".toList], none⟩
    let edited : Document := ⟨["\tPlay\\Optional \"a #b\" 50 # loud".toList], none⟩
    ∃ report again diagnostic only,
      validate document catalog options services = .ok report ∧
      report.diagnostics = [diagnostic] ∧ diagnostic.code = .missingSoundFile ∧
      diagnostic.span = ⟨0, 7, 6⟩ ∧
      validate edited catalog options services = .ok again ∧
      only ∈ again.diagnostics ∧ only.severity = .warning ∧ only.span = ⟨0, 15, 6⟩ := by
  intro catalog options services document edited
  let code : CodeLine := ⟨⟨0, "\tPlay\\ \"a #b\" 50 # loud".toList⟩, ⟨"Play\\".toList, 1⟩,
    [⟨"\"a #b\"".toList, 7⟩, ⟨"50".toList, 14⟩]⟩
  let diagnostic : Diagnostic := Sound.missingFile code ⟨"\"a #b\"".toList, 7⟩ false
  have returned : validate document catalog options services =
      .ok ⟨[diagnostic], ["a #b".toList], []⟩ := by decide +kernel
  obtain ⟨diagnostics, parts, lines⟩ := validate_variant returned
  have all : diagnostics = [diagnostic] := (List.append_nil diagnostics).symm.trans parts.symm
  have member : code ∈ document.codeLines := by decide +kernel
  have reported : diagnostic ∈ diagnostics := by
    rw [all]
    exact List.mem_singleton_self diagnostic
  obtain ⟨-, follow⟩ := lines code member diagnostic reported rfl rfl
  obtain ⟨again, others, only, validated, partsAgain, alone, span, -, severity⟩ :=
    follow _ rfl (by decide) (by decide) (by decide) edited (by decide +kernel)
  have listed : only ∈ others := by
    have here : only ∈ [only] := List.mem_singleton_self only
    rw [← alone] at here
    exact (List.mem_filter.mp here).1
  refine ⟨_, again, diagnostic, only, returned, rfl, rfl, rfl, validated, ?_,
    severity.mpr (by decide), span⟩
  rw [partsAgain]
  exact List.mem_append_left _ listed

/-- Under another suffix of the options, the command that the hint offers misses its file just as
well. -/
theorem validate_variant_of_other_suffix :
    let catalog : Catalog := [⟨"Play".toList, .actions, [[]]⟩,
      ⟨"PlayOptional".toList, .actions, [[]]⟩]
    let options : Options := { Options.standard with
      soundCommands := ["Play".toList, "PlayOptional".toList],
      optionalSuffix := "IfPresent".toList }
    let services : Services := ⟨⟨[], []⟩, fun _ => some false, .silent⟩
    let document : Document := ⟨["Play a.mp3".toList, "PlayOptional a.mp3".toList], none⟩
    Sound.variant "Play".toList = "PlayOptional".toList ∧
      (validate document catalog options services).map
          (·.diagnostics.map fun diagnostic => (diagnostic.code, diagnostic.span)) =
        .ok [(.missingSoundFile, ⟨0, 5, 5⟩), (.missingSoundFile, ⟨1, 13, 5⟩)] := by
  decide +kernel

end Validation

end ItemFilter
