/-
This file joins documents. Where blocks may follow each other, the diagnostics of a joined document
are those of its parts, and at most one block that is nested across the seam.
-/

import ItemFilter.Proofs.Renumbering
import ItemFilter.Proofs.Validation

namespace ItemFilter

/-- The line is a bare command that the catalog lists under blocks. -/
def Catalog.isOpener (catalog : Catalog) (code : CodeLine) : Bool :=
  code.isBare && (catalog.find? code.command.text).any Command.isBlock

namespace BlockState

/-- Where blocks may follow each other, only a block without rules nests the next. -/
theorem nests_sequential_iff (state : BlockState) :
    state.nests .sequential = true ↔ state = .opened := by
  cases state <;> decide

/-- A code line alone decides whether a block is just opened after it. -/
theorem next_eq_opened_iff (state : BlockState) (opens : Bool) :
    state.next opens = .opened ↔ opens = true := by
  cases opens <;> cases state <;> decide

end BlockState

namespace Setting

/-- A block is just opened after the lines if their last code line opens one. -/
theorem foldl_nextBlock_eq_opened_iff (setting : Setting) (block : BlockState)
    (lines : List Line) :
    lines.foldl setting.nextBlock block = .opened ↔
      match (lines.filterMap CodeLine.ofLine?).getLast? with
      | none => block = .opened
      | some last => setting.opensBlock last = true := by
  induction lines generalizing block with
  | nil => rfl
  | cons line rest ih =>
      rw [List.foldl_cons, ih]
      cases read : CodeLine.ofLine? line with
      | none =>
          rw [nextBlock_of_none setting block read, List.filterMap_cons_none read]
      | some code =>
          rw [nextBlock_of_code setting block read, List.filterMap_cons_some read,
            List.getLast?_cons]
          cases (rest.filterMap CodeLine.ofLine?).getLast? with
          | none => exact block.next_eq_opened_iff (setting.opensBlock code)
          | some last => rfl

/-- Outside of all blocks and inside of one, a line is judged alike. -/
theorem findings_congr {setting : Setting} (sequential : setting.options.blockMode = .sequential)
    (probe : Probe) {left right : BlockState} (same : left = .opened ↔ right = .opened)
    (line : Line) : setting.findings probe left line = setting.findings probe right line := by
  have nested : left.nests setting.options.blockMode = right.nests setting.options.blockMode := by
    rw [sequential, Bool.eq_iff_iff, BlockState.nests_sequential_iff, same,
      BlockState.nests_sequential_iff]
  cases read : CodeLine.ofLine? line with
  | none => rw [findings_of_none setting probe left read, findings_of_none setting probe right read]
  | some code =>
      rw [findings_of_code setting probe left read, findings_of_code setting probe right read,
        judge_eq, judge_eq, nested]

/-- A line keeps apart only whether a block is just opened. -/
theorem nextBlock_congr (setting : Setting) {left right : BlockState}
    (same : left = .opened ↔ right = .opened) (line : Line) :
    setting.nextBlock left line = .opened ↔ setting.nextBlock right line = .opened := by
  cases read : CodeLine.ofLine? line with
  | none => rw [nextBlock_of_none setting left read, nextBlock_of_none setting right read, same]
  | some code =>
      rw [nextBlock_of_code setting left read, nextBlock_of_code setting right read,
        BlockState.next_eq_opened_iff, BlockState.next_eq_opened_iff]

/-- The two states cannot be told apart by any lines that follow. -/
theorem allFindings_congr {setting : Setting}
    (sequential : setting.options.blockMode = .sequential) (probe : Probe)
    {left right : BlockState} (same : left = .opened ↔ right = .opened) (lines : List Line) :
    setting.allFindings probe left lines = setting.allFindings probe right lines := by
  induction lines generalizing left right with
  | nil => rfl
  | cons line rest ih =>
      simp only [allFindings]
      rw [findings_congr sequential probe same, ih (setting.nextBlock_congr same line)]

/-- The block that is nested because one was opened just before the lines. -/
def nestedFirst (setting : Setting) (lines : List Line) : List Diagnostic :=
  match (lines.filterMap CodeLine.ofLine?).head? with
  | none => []
  | some code =>
      if setting.opensBlock code then [.plain .nestedBlock code.line.span] else []

/-- A block that was opened just before adds at most one diagnostic, at the first code line. -/
theorem allFindings_opened {setting : Setting}
    (sequential : setting.options.blockMode = .sequential) (probe : Probe) (lines : List Line) :
    (setting.allFindings probe .opened lines).flatten =
      setting.nestedFirst lines ++ (setting.allFindings probe .outside lines).flatten := by
  induction lines with
  | nil => rfl
  | cons line rest ih =>
      simp only [allFindings, List.flatten_cons]
      cases read : CodeLine.ofLine? line with
      | none =>
          rw [findings_of_none setting probe _ read, findings_of_none setting probe _ read,
            nextBlock_of_none setting _ read, nextBlock_of_none setting _ read, List.nil_append,
            List.nil_append, ih, nestedFirst, nestedFirst, List.filterMap_cons_none read]
      | some code =>
          -- After the first code line both passes know the same about the blocks.
          have rest_eq : setting.allFindings probe (setting.nextBlock .opened line) rest =
              setting.allFindings probe (setting.nextBlock .outside line) rest := by
            apply allFindings_congr sequential probe
            rw [nextBlock_of_code setting _ read, nextBlock_of_code setting _ read,
              BlockState.next_eq_opened_iff, BlockState.next_eq_opened_iff]
          have first_eq : setting.findings probe .opened line =
              setting.nestedFirst (line :: rest) ++ setting.findings probe .outside line := by
            rw [findings_of_code setting probe _ read, findings_of_code setting probe _ read,
              nestedFirst, List.filterMap_cons_some read, List.head?_cons]
            by_cases opens : setting.opensBlock code = true
            · rw [judge_of_opener setting _ opens, judge_of_opener setting _ opens, sequential]
              simp [opens, Verdict.answered, BlockState.nests]
            · rw [setting.judge_of_rule .opened .outside opens]
              simp [opens]
          rw [rest_eq, first_eq, List.append_assoc]

end Setting

namespace Validation

/-- Two bare block commands that meet at the seam: the second is nested. -/
def seam (catalog : Catalog) (first second : Document) : List Diagnostic :=
  match first.codeLines.getLast?, second.codeLines.head? with
  | some last, some next =>
      if catalog.isOpener last && catalog.isOpener next then
        [.plain .nestedBlock (next.line.span.below first.lines.length)]
      else []
  | _, _ => []

/-- An empty catalog opens no blocks. -/
theorem seam_of_isEmpty {catalog : Catalog} (empty : catalog.isEmpty = true)
    (first second : Document) : seam catalog first second = [] := by
  have noCommands : catalog = [] := List.isEmpty_iff.mp empty
  subst noCommands
  unfold seam
  split
  · simp [Catalog.isOpener, Catalog.find?]
  · rfl

/-- The seam holds the block that is nested because the first part ends with an opened one. -/
theorem seam_eq (setting : Setting) (first second : Document) :
    seam setting.catalog first second =
      if first.numbered.foldl setting.nextBlock .outside = .opened then
        (setting.nestedFirst second.numbered).map (·.below first.lines.length)
      else [] := by
  have ending := setting.foldl_nextBlock_eq_opened_iff .outside first.numbered
  unfold seam Setting.nestedFirst Document.codeLines
  cases last : (first.numbered.filterMap CodeLine.ofLine?).getLast? with
  | none =>
      rw [last] at ending
      have closed : ¬ first.numbered.foldl setting.nextBlock .outside = .opened := by
        intro opened
        cases ending.mp opened
      rw [if_neg closed]
  | some opener =>
      rw [last] at ending
      cases (second.numbered.filterMap CodeLine.ofLine?).head? with
      | none => simp
      | some next =>
          have opensBlock : setting.opensBlock = setting.catalog.isOpener := rfl
          simp only [ending, opensBlock]
          by_cases opened : setting.catalog.isOpener opener = true
          · by_cases opens : setting.catalog.isOpener next = true
            · simp only [opened, opens, Bool.and_true, if_true]
              rfl
            · simp [opened, opens]
          · simp [opened]

/-- The second part is judged as if it stood alone, apart from the seam. -/
theorem lineDiagnostics_append {whole first second : Document} {setting : Setting} (probe : Probe)
    (sequential : setting.options.blockMode = .sequential)
    (joined : whole.lines = first.lines ++ second.lines) :
    lineDiagnostics whole setting probe =
      lineDiagnostics first setting probe ++ seam setting.catalog first second ++
        (lineDiagnostics second setting probe).map (·.below first.lines.length) := by
  by_cases empty : setting.catalog.isEmpty = true
  · rw [lineDiagnostics_of_isEmpty whole probe empty, lineDiagnostics_of_isEmpty first probe empty,
      lineDiagnostics_of_isEmpty second probe empty, seam_of_isEmpty empty]
    rfl
  · have numbered : whole.numbered =
        first.numbered ++ second.numbered.map (·.below first.lines.length) := by
      have parts := Document.numbered_append first.lines second.lines whole.path first.path
        second.path
      rw [← joined] at parts
      exact parts
    rw [lineDiagnostics_of_commands whole probe empty, lineDiagnostics_of_commands first probe empty,
      lineDiagnostics_of_commands second probe empty, numbered, Setting.allFindings_append,
      Setting.allFindings_below, List.flatten_append, List.append_assoc, ← List.map_flatten,
      seam_eq]
    congr 1
    split
    · next opened =>
        rw [opened, Setting.allFindings_opened sequential, List.map_append]
    · next notOpened =>
        have same : first.numbered.foldl setting.nextBlock .outside = .opened ↔
            BlockState.outside = .opened := by simp [notOpened]
        rw [List.nil_append, Setting.allFindings_congr sequential probe same]

/-- Validation is local to the lines, except for a block that is nested across the seam. -/
theorem validate_append (whole first second : Document) (catalog : Catalog) (options : Options)
    (workplace : Path) (probe : Probe) (sequential : options.blockMode = .sequential)
    (joined : whole.lines = first.lines ++ second.lines)
    (firstPlace : first.directory workplace = whole.directory workplace)
    (secondPlace : second.directory workplace = whole.directory workplace) :
    let diagnose (document : Document) : Except PathFault (List Diagnostic) :=
      (validate document catalog options ⟨workplace, probe, .silent⟩).map Report.diagnostics
    diagnose whole = do
      let before ← diagnose first
      let after ← diagnose second
      return before ++ seam catalog first second ++ after.map (·.below first.lines.length) := by
  intro diagnose
  have silent (document : Document) :
      (checkWhole document Checker.silent).diagnostics = [] := rfl
  simp only [diagnose, validate_diagnostics, silent, List.append_nil, firstPlace, secondPlace]
  by_cases empty : catalog.isEmpty = true
  · simp only [empty, if_true, seam_of_isEmpty empty]
    rfl
  · simp only [empty]
    cases whole.directory workplace with
    | error fault => rfl
    | ok directory =>
        have parts : lineDiagnostics whole ⟨catalog, options, directory⟩ probe = _ :=
          lineDiagnostics_append probe sequential joined
        exact congrArg Except.ok parts

/-- The second `Show` is nested across the seam, though a comment stands between the two. -/
theorem validate_append_show :
    let opener : Text := ['S', 'h', 'o', 'w']
    let play : Text := ['P', 'l', 'a', 'y']
    let catalog : Catalog := [⟨opener, .blocks, [[]]⟩, ⟨play, .actions, [[]]⟩]
    let options : Options := ⟨.sequential, 3, 3, ['C'], [play], ['O']⟩
    let first : Document := ⟨[opener], none⟩
    let second : Document := ⟨[['#'], opener, play ++ [' ', 'a']], none⟩
    let whole : Document := ⟨[opener, ['#'], opener, play ++ [' ', 'a']], none⟩
    options.blockMode = .sequential ∧ whole.lines = first.lines ++ second.lines ∧
      (validate whole catalog options ⟨.top, fun _ => none, .silent⟩).map Report.diagnostics =
        .ok [.plain .nestedBlock ⟨2, 0, 4⟩, .plain .internalError ⟨3, 0, 6⟩] := by
  intro opener play catalog options first second whole
  refine ⟨rfl, rfl, ?_⟩
  exact (validate_append whole first second catalog options .top (fun _ => none) rfl rfl rfl
    rfl).trans rfl

end Validation

end ItemFilter
