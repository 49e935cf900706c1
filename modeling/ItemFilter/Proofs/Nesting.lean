/-
This file says which blocks are nested. What a pass keeps about the blocks is decided by the code
lines above: by the last of them where blocks may follow each other, and else by all of them.
-/

import ItemFilter.Proofs.Locality
import ItemFilter.Proofs.Order

namespace ItemFilter

/-- The codes that a check may report. -/
def Route.codes : Route → List Code
  | .opener => [.nestedBlock]
  | .unknown => [.unknownCommand]
  | .color => [.colorArity, .colorNotANumber, .colorOutOfRange]
  | .sound => [.missingParameter, .missingSoundFile, .missingOptionalSoundFile]
  | .fitted _ => [.parameterMismatch, .missingParameter]

/-- Every diagnostic in the list has a code that the check may report. -/
def Route.Reports (route : Route) (diagnostics : List Diagnostic) : Prop :=
  ∀ diagnostic ∈ diagnostics, diagnostic.code ∈ route.codes

theorem Route.reports_nil (route : Route) : route.Reports [] := by
  intro diagnostic reported
  cases reported

theorem Route.reports_singleton {route : Route} {diagnostic : Diagnostic}
    (known : diagnostic.code ∈ route.codes) : route.Reports [diagnostic] := by
  intro other reported
  obtain rfl := List.mem_singleton.mp reported
  exact known

theorem Color.check_reports (code : CodeLine) :
    (Setting.ofExcept (check code)).Always Route.color.Reports := by
  by_cases stops : Stops (check code)
  · obtain ⟨fault, stopped⟩ := stops
    rw [stopped]
    trivial
  · rw [check_of_not_stops stops]
    change Route.color.Reports _
    split
    · exact Route.reports_singleton List.mem_cons_self
    · intro diagnostic reported
      obtain ⟨argument, _, found⟩ := List.mem_flatMap.mp reported
      simp only [componentFindings, List.mem_map, Option.mem_toList] at found
      obtain ⟨fault, found, rfl⟩ := found
      rcases fault?_cases found with rfl | rfl <;>
        simp [Diagnostic.plain, Diagnostic.make, Route.codes]

theorem Sound.check_reports (code : CodeLine) (directory : Option Path) (optional : Bool) :
    (check code directory optional).Always Route.sound.Reports := by
  unfold check
  split
  · exact Route.reports_singleton List.mem_cons_self
  · intro found
    cases found with
    | true => exact Route.reports_nil _
    | false =>
        cases optional <;>
          exact Route.reports_singleton (by simp [missingFile, Diagnostic.make, Route.codes])

theorem Signature.check_reports (signature : Signature) (code : CodeLine) (command : Command) :
    (Route.fitted command).Reports (signature.check code) := by
  intro diagnostic reported
  rw [check, checkFrom_eq] at reported
  rcases List.mem_append.mp reported with refused | absent
  · obtain ⟨pair, _, rfl⟩ := List.mem_map.mp refused
    exact List.mem_cons_self
  · obtain ⟨parameter, _, rfl⟩ := List.mem_map.mp absent
    simp [missing, Diagnostic.make, Route.codes]

namespace Setting

/-- A line is reported with the codes of the check that it is sent to. -/
theorem judge_reports (setting : Setting) (block : BlockState) (code : CodeLine) :
    (setting.judge block code).Always (setting.route code).Reports := by
  rw [judge_eq]
  cases setting.route code with
  | opener =>
      change Route.opener.Reports _
      split
      · exact Route.reports_singleton List.mem_cons_self
      · exact Route.reports_nil _
  | unknown => exact Route.reports_singleton List.mem_cons_self
  | color => exact Color.check_reports code
  | sound => exact Sound.check_reports code _ _
  | fitted command =>
      simp only [checkArguments]
      cases Signature.select command.signatures code.argumentTexts with
      | error fault => trivial
      | ok chosen =>
          cases chosen with
          | none => exact Route.reports_nil _
          | some signature => exact signature.check_reports code command

/-- A code line is reported as one that cannot be judged, or by its check. -/
theorem findings_code (setting : Setting) (probe : Probe) (block : BlockState) {line : Line}
    {code : CodeLine} (read : CodeLine.ofLine? line = some code) {diagnostic : Diagnostic}
    (reported : diagnostic ∈ setting.findings probe block line) :
    diagnostic.code = .internalError ∨ diagnostic.code ∈ (setting.route code).codes := by
  rw [findings_of_code setting probe block read] at reported
  cases answered : (setting.judge block code).answered probe with
  | none =>
      rw [answered] at reported
      obtain rfl := List.mem_singleton.mp reported
      exact .inl rfl
  | some diagnostics =>
      rw [answered] at reported
      exact .inr ((setting.judge_reports block code).of_answered answered diagnostic reported)

/-- An opener is nested or gets no diagnostic. -/
theorem findings_of_opener (setting : Setting) (probe : Probe) (block : BlockState) {line : Line}
    {code : CodeLine} (read : CodeLine.ofLine? line = some code)
    (opens : setting.opensBlock code = true) :
    setting.findings probe block line =
      if block.nests setting.options.blockMode then [.plain .nestedBlock line.span] else [] := by
  rw [findings_of_code setting probe block read, judge_of_opener setting block opens,
    (CodeLine.ofLine?_tokens read).1]
  rfl

/-- No other line is reported as a nested block. -/
theorem nestedBlock_notMem_of_rule (setting : Setting) (probe : Probe) (block : BlockState)
    {line : Line} {code : CodeLine} (read : CodeLine.ofLine? line = some code)
    (rule : ¬ setting.opensBlock code = true) :
    ∀ diagnostic ∈ setting.findings probe block line, diagnostic.code ≠ .nestedBlock := by
  intro diagnostic reported nested
  have known := setting.findings_code probe block read reported
  rw [nested] at known
  cases route : setting.route code with
  | opener => exact rule ((setting.route_eq_opener_iff code).mp route)
  | unknown | color | sound | fitted command => simp [route, Route.codes] at known

/-- The nested block that a line opens is the only one that is reported for it. -/
theorem filter_nestedBlock_findings (setting : Setting) (probe : Probe) (block : BlockState)
    {line : Line} {code : CodeLine} (read : CodeLine.ofLine? line = some code) :
    (setting.findings probe block line).filter (·.code == .nestedBlock) =
      if setting.opensBlock code && block.nests setting.options.blockMode then
        [.plain .nestedBlock code.line.span] else [] := by
  by_cases opens : setting.opensBlock code = true
  · rw [setting.findings_of_opener probe block read opens, (CodeLine.ofLine?_tokens read).1]
    cases block.nests setting.options.blockMode <;>
      simp [opens, Diagnostic.plain, Diagnostic.make]
  · have others := setting.nestedBlock_notMem_of_rule probe block read opens
    rw [List.filter_eq_nil_iff.mpr fun diagnostic reported => by simp [others diagnostic reported]]
    simp [opens]

/-- The pass is outside of all blocks until a line opens one. -/
theorem foldl_nextBlock_eq_outside_iff (setting : Setting) (block : BlockState)
    (lines : List Line) :
    lines.foldl setting.nextBlock block = .outside ↔
      block = .outside ∧ (lines.filterMap CodeLine.ofLine?).any setting.opensBlock = false := by
  induction lines generalizing block with
  | nil => simp
  | cons line rest ih =>
      rw [List.foldl_cons, ih]
      cases read : CodeLine.ofLine? line with
      | none => rw [nextBlock_of_none setting block read, List.filterMap_cons_none read]
      | some code =>
          have stays : block.next (setting.opensBlock code) = .outside ↔
              block = .outside ∧ setting.opensBlock code = false := by
            cases setting.opensBlock code <;> cases block <;> decide
          rw [nextBlock_of_code setting block read, List.filterMap_cons_some read, List.any_cons,
            Bool.or_eq_false_iff, stays, and_assoc]

end Setting

namespace Catalog

/-- An empty catalog opens no blocks. -/
theorem isOpener_of_isEmpty {catalog : Catalog} (empty : catalog.isEmpty = true)
    (code : CodeLine) : catalog.isOpener code = false := by
  have noCommands : catalog = [] := List.isEmpty_iff.mp empty
  simp [isOpener, find?, noCommands]

/-- A block that is opened after the code lines is nested. Where blocks may follow each other, the
last code line has opened a block; else some code line has. -/
def nestsAfter (catalog : Catalog) (mode : BlockMode) (earlier : List CodeLine) : Bool :=
  match mode with
  | .sequential => earlier.getLast?.any catalog.isOpener
  | .single => earlier.any catalog.isOpener

end Catalog

/-- The state of the blocks knows all about the code lines above that matters for nesting. -/
theorem Setting.nests_foldl_nextBlock (setting : Setting) (lines : List Line) (mode : BlockMode) :
    (lines.foldl setting.nextBlock .outside).nests mode =
      setting.catalog.nestsAfter mode (lines.filterMap CodeLine.ofLine?) := by
  have opened := setting.foldl_nextBlock_eq_opened_iff .outside lines
  have outside := setting.foldl_nextBlock_eq_outside_iff .outside lines
  rw [Bool.eq_iff_iff]
  cases mode with
  | sequential =>
      rw [BlockState.nests_sequential_iff, opened, Catalog.nestsAfter]
      cases (lines.filterMap CodeLine.ofLine?).getLast? with
      | none => simp
      | some last => rfl
  | single =>
      have entered : (lines.foldl setting.nextBlock .outside).nests .single = true ↔
          ¬ lines.foldl setting.nextBlock .outside = .outside := by
        cases lines.foldl setting.nextBlock .outside <;> decide
      rw [entered, outside, Catalog.nestsAfter, eq_self, true_and, Bool.not_eq_false]
      rfl

namespace Setting

/-- The findings about one line of a pass are those in the state that the lines above leave. -/
theorem filter_line_allFindings (setting : Setting) (probe : Probe) (block : BlockState)
    {before after : List Line} {line : Line}
    (numbered : (before ++ line :: after).Pairwise fun upper lower => upper.number < lower.number) :
    (setting.allFindings probe block (before ++ line :: after)).flatten.filter
        (·.span.line == line.number) =
      setting.findings probe (before.foldl setting.nextBlock block) line := by
  obtain ⟨_, later, across⟩ := List.pairwise_append.mp numbered
  have above : (setting.allFindings probe block before).flatten.filter
      (·.span.line == line.number) = [] := by
    refine List.filter_eq_nil_iff.mpr fun diagnostic reported => ?_
    obtain ⟨upper, member, place⟩ := setting.allFindings_line probe block reported
    have number := across upper member line List.mem_cons_self
    simp only [beq_iff_eq]
    omega
  have below (block : BlockState) : (setting.allFindings probe block after).flatten.filter
      (·.span.line == line.number) = [] := by
    refine List.filter_eq_nil_iff.mpr fun diagnostic reported => ?_
    obtain ⟨lower, member, place⟩ := setting.allFindings_line probe block reported
    have number := (List.pairwise_cons.mp later).1 lower member
    simp only [beq_iff_eq]
    omega
  have here (block : BlockState) : (setting.findings probe block line).filter
      (·.span.line == line.number) = setting.findings probe block line := by
    refine List.filter_eq_self.mpr fun diagnostic reported => ?_
    simp [setting.findings_line probe block reported]
  rw [allFindings_append, allFindings, List.flatten_append, List.flatten_cons, List.filter_append,
    List.filter_append, above, here, below, List.append_nil, List.nil_append]

end Setting

namespace Document

/-- The code lines above a line. -/
def codeAbove (document : Document) (number : Nat) : List CodeLine :=
  document.codeLines.filter fun code => decide (code.line.number < number)

/-- The code line opens a block that is nested. -/
def isNested (document : Document) (catalog : Catalog) (mode : BlockMode) (code : CodeLine) : Bool :=
  catalog.isOpener code && catalog.nestsAfter mode (document.codeAbove code.line.number)

/-- The code lines above a line are those of the lines before it. -/
theorem codeAbove_of_split {document : Document} {before after : List Line} {line : Line}
    (split : document.numbered = before ++ line :: after) :
    document.codeAbove line.number = before.filterMap CodeLine.ofLine? := by
  have numbered := document.numbered_increasing
  rw [split] at numbered
  obtain ⟨_, later, across⟩ := List.pairwise_append.mp numbered
  have above : (before.filterMap CodeLine.ofLine?).filter
      (fun code => decide (code.line.number < line.number)) =
      before.filterMap CodeLine.ofLine? := by
    refine List.filter_eq_self.mpr fun code member => ?_
    obtain ⟨upper, present, read⟩ := List.mem_filterMap.mp member
    have number := across upper present line List.mem_cons_self
    rw [(CodeLine.ofLine?_tokens read).1]
    exact decide_eq_true number
  have below : ((line :: after).filterMap CodeLine.ofLine?).filter
      (fun code => decide (code.line.number < line.number)) = [] := by
    refine List.filter_eq_nil_iff.mpr fun code member => ?_
    obtain ⟨lower, present, read⟩ := List.mem_filterMap.mp member
    rw [(CodeLine.ofLine?_tokens read).1, decide_eq_true_eq]
    rcases List.mem_cons.mp present with rfl | present
    · exact Nat.lt_irrefl _
    · exact Nat.lt_asymm ((List.pairwise_cons.mp later).1 lower present)
  rw [codeAbove, codeLines, split, List.filterMap_append, List.filter_append, above, below,
    List.append_nil]

/-- A code line stands at some place between the other lines. -/
theorem exists_split_of_mem_codeLines {document : Document} {code : CodeLine}
    (member : code ∈ document.codeLines) :
    ∃ before after, document.numbered = before ++ code.line :: after ∧
      CodeLine.ofLine? code.line = some code := by
  obtain ⟨line, present, read⟩ := List.mem_filterMap.mp member
  obtain rfl := (CodeLine.ofLine?_tokens read).1
  obtain ⟨before, after, split⟩ := List.append_of_mem present
  exact ⟨before, after, split, read⟩

end Document

namespace Validation

/-- The diagnostics of one line, given the lines before and after it. -/
theorem filter_line_lineDiagnostics {document : Document} {setting : Setting} (probe : Probe)
    (commands : ¬ setting.catalog.isEmpty = true) {before after : List Line} {line : Line}
    (split : document.numbered = before ++ line :: after) :
    (lineDiagnostics document setting probe).filter (·.span.line == line.number) =
      setting.findings probe (before.foldl setting.nextBlock .outside) line := by
  have numbered := document.numbered_increasing
  rw [split] at numbered
  rw [lineDiagnostics_of_commands document probe commands, split,
    setting.filter_line_allFindings probe .outside numbered]

/-- An opener gets the diagnostic of a nested block or none. -/
theorem filter_line_of_opener {document : Document} (setting : Setting) (probe : Probe)
    {code : CodeLine} (member : code ∈ document.codeLines)
    (opens : setting.catalog.isOpener code = true) :
    (lineDiagnostics document setting probe).filter (·.span.line == code.line.number) =
      if document.isNested setting.catalog setting.options.blockMode code then
        [.plain .nestedBlock code.line.span] else [] := by
  have commands : ¬ setting.catalog.isEmpty = true := by
    intro empty
    rw [Catalog.isOpener_of_isEmpty empty code] at opens
    cases opens
  obtain ⟨before, after, split, read⟩ := Document.exists_split_of_mem_codeLines member
  rw [filter_line_lineDiagnostics probe commands split,
    setting.findings_of_opener probe _ read opens, setting.nests_foldl_nextBlock,
    ← Document.codeAbove_of_split split, Document.isNested, opens, Bool.true_and]

/-- A diagnostic of the lines is a finding about one of them. -/
theorem exists_split_of_mem_lineDiagnostics {document : Document} {setting : Setting}
    {probe : Probe} {diagnostic : Diagnostic}
    (reported : diagnostic ∈ lineDiagnostics document setting probe) :
    ∃ before line after, document.numbered = before ++ line :: after ∧
      diagnostic.span.line = line.number ∧
      diagnostic ∈ setting.findings probe (before.foldl setting.nextBlock .outside) line := by
  by_cases empty : setting.catalog.isEmpty = true
  · rw [lineDiagnostics_of_isEmpty document probe empty] at reported
    cases reported
  · have pass := reported
    rw [lineDiagnostics_of_commands document probe empty] at pass
    obtain ⟨line, member, place⟩ := setting.allFindings_line probe .outside pass
    obtain ⟨before, after, split⟩ := List.append_of_mem member
    refine ⟨before, line, after, split, place, ?_⟩
    rw [← filter_line_lineDiagnostics probe empty split]
    exact List.mem_filter.mpr ⟨reported, by simp [place]⟩

/-- Exactly the lines that open a nested block are reported as such. -/
theorem nestedBlock_mem_lineDiagnostics_iff (document : Document) (setting : Setting)
    (probe : Probe) (number : Nat) :
    (∃ diagnostic ∈ lineDiagnostics document setting probe,
        diagnostic.code = .nestedBlock ∧ diagnostic.span.line = number) ↔
      ∃ code ∈ document.codeLines, code.line.number = number ∧
        document.isNested setting.catalog setting.options.blockMode code = true := by
  constructor
  · rintro ⟨diagnostic, reported, nested, rfl⟩
    obtain ⟨before, line, after, split, place, found⟩ :=
      exists_split_of_mem_lineDiagnostics reported
    cases read : CodeLine.ofLine? line with
    | none =>
        rw [setting.findings_of_none probe _ read] at found
        cases found
    | some code =>
        have same := (CodeLine.ofLine?_tokens read).1
        have member : code ∈ document.codeLines :=
          List.mem_filterMap.mpr ⟨line, by simp [split], read⟩
        have kept : diagnostic ∈ (setting.findings probe (before.foldl setting.nextBlock .outside)
            line).filter (·.code == .nestedBlock) := List.mem_filter.mpr ⟨found, by simp [nested]⟩
        -- The state in which the line is judged is a summary of the code lines above it.
        rw [setting.filter_nestedBlock_findings probe _ read, setting.nests_foldl_nextBlock,
          ← Document.codeAbove_of_split split] at kept
        refine ⟨code, member, by rw [same, place], ?_⟩
        rw [Document.isNested, same]
        split at kept
        · next nests => exact nests
        · cases kept
  · rintro ⟨code, member, rfl, nested⟩
    have opens : setting.catalog.isOpener code = true := (Bool.and_eq_true_iff.mp nested).1
    have here := filter_line_of_opener setting probe member opens
    rw [if_pos nested] at here
    have reported : Diagnostic.plain .nestedBlock code.line.span ∈
        (lineDiagnostics document setting probe).filter (·.span.line == code.line.number) := by
      rw [here]
      exact List.mem_singleton_self _
    exact ⟨_, (List.mem_filter.mp reported).1, rfl, rfl⟩

/-- The openers above decide about nesting and nothing else does. A line is reported as a nested
block exactly when it opens a block and, where blocks may follow each other, the code line above it
does, or else any line above it does. An opener gets no other diagnostic. -/
theorem validate_nestedBlock_iff (document : Document) (catalog : Catalog) (options : Options)
    (services : Services) :
    match validate document catalog options services with
    | .error fault => document.directory services.workplace = .error fault
    | .ok report =>
        ∃ diagnostics,
          report.diagnostics = diagnostics ++ (checkWhole document services.checker).diagnostics ∧
          (∀ number,
            (∃ diagnostic ∈ diagnostics,
                diagnostic.code = .nestedBlock ∧ diagnostic.span.line = number) ↔
              ∃ code ∈ document.codeLines, code.line.number = number ∧
                document.isNested catalog options.blockMode code = true) ∧
          ∀ code ∈ document.codeLines, catalog.isOpener code = true →
            diagnostics.filter (·.span.line == code.line.number) =
              if document.isNested catalog options.blockMode code then
                [.plain .nestedBlock ⟨code.line.number, 0, code.line.text.length⟩] else [] := by
  rcases validate_cases document catalog options services with
    ⟨fault, failed, unresolved⟩ | ⟨report, directory, returned, parts⟩
  · rw [failed]
    exact unresolved
  · rw [returned]
    refine ⟨_, parts, fun number => ?_, fun code member opens => ?_⟩
    · exact nestedBlock_mem_lineDiagnostics_iff document ⟨catalog, options, directory⟩
        services.probe number
    · exact filter_line_of_opener ⟨catalog, options, directory⟩ services.probe member opens

end Validation

end ItemFilter
