/-
This file follows a pass line by line. Apart from the memo, a step depends only on its line and the
state of the blocks, and this gives the diagnostics of a whole pass without the memo.
-/

import ItemFilter.Pass
import ItemFilter.Proofs.Memo

namespace ItemFilter

/-- The check that a code line is sent to. -/
inductive Route where
  | opener
  | unknown
  | color
  | sound
  | fitted (command : Command)
deriving DecidableEq

namespace Setting

/-- A line is routed by its command and by whether the command stands alone. -/
def route (setting : Setting) (code : CodeLine) : Route :=
  if setting.opensBlock code then .opener
  else match setting.catalog.find? code.command.text with
    | none => .unknown
    | some command =>
        if setting.options.isColor code.command.text then .color
        else if setting.options.isSound code.command.text then .sound
        else .fitted command

/-- Only an opener is judged by the state of the blocks. -/
theorem judge_eq (setting : Setting) (block : BlockState) (code : CodeLine) :
    setting.judge block code =
      match setting.route code with
      | .opener =>
          .settled (if block.nests setting.options.blockMode then
            [.plain .nestedBlock code.line.span] else [])
      | .unknown => .settled [setting.unknownCommand code]
      | .color => ofExcept (Color.check code)
      | .sound =>
          Sound.check code setting.directory (setting.options.isOptional code.command.text)
      | .fitted command => ofExcept (checkArguments command code) := by
  by_cases opens : setting.opensBlock code = true
  · simp only [judge, route, opens, if_true]
  · cases found : setting.catalog.find? code.command.text with
    | none => simp [judge, route, opens, found]
    | some command =>
        by_cases color : setting.options.isColor code.command.text = true
        · simp [judge, route, opens, found, color]
        · by_cases sound : setting.options.isSound code.command.text = true <;>
            simp [judge, route, opens, found, color, sound]

/-- Exactly the lines that open a block are routed as openers. -/
theorem route_eq_opener_iff (setting : Setting) (code : CodeLine) :
    setting.route code = .opener ↔ setting.opensBlock code = true := by
  by_cases opens : setting.opensBlock code = true
  · simp only [route, opens, if_true]
  · cases found : setting.catalog.find? code.command.text with
    | none => simp [route, opens, found]
    | some command =>
        by_cases color : setting.options.isColor code.command.text = true
        · simp [route, opens, found, color]
        · by_cases sound : setting.options.isSound code.command.text = true <;>
            simp [route, opens, found, color, sound]

/-- An empty catalog knows no command. -/
theorem route_of_isEmpty {setting : Setting} (empty : setting.catalog.isEmpty = true)
    (code : CodeLine) : setting.route code = .unknown := by
  have noCommands : setting.catalog = [] := List.isEmpty_iff.mp empty
  simp [route, opensBlock, Catalog.find?, noCommands]

/-- An opener is settled by the state of the blocks alone. -/
theorem judge_of_opener (setting : Setting) (block : BlockState) {code : CodeLine}
    (opens : setting.opensBlock code = true) :
    setting.judge block code =
      .settled (if block.nests setting.options.blockMode then
        [.plain .nestedBlock code.line.span] else []) := by
  rw [judge_eq, (setting.route_eq_opener_iff code).mpr opens]

/-- A line that opens no block is judged alike in all states of the blocks. -/
theorem judge_of_rule (setting : Setting) (left right : BlockState) {code : CodeLine}
    (rule : ¬ setting.opensBlock code = true) :
    setting.judge left code = setting.judge right code := by
  rw [judge_eq, judge_eq]
  cases route : setting.route code with
  | opener => exact absurd ((setting.route_eq_opener_iff code).mp route) rule
  | unknown => rfl
  | color => rfl
  | sound => rfl
  | fitted command => rfl

/-- The state of the blocks after a line; a line without code leaves it as it is. -/
def nextBlock (setting : Setting) (block : BlockState) (line : Line) : BlockState :=
  match CodeLine.ofLine? line with
  | none => block
  | some code => block.next (setting.opensBlock code)

/-- The diagnostics of a line when its question is put to the probe itself. -/
def findings (setting : Setting) (probe : Probe) (block : BlockState) (line : Line) :
    List Diagnostic :=
  match CodeLine.ofLine? line with
  | none => []
  | some code =>
      ((setting.judge block code).answered probe).getD [.plain .internalError line.span]

/-- The findings of all lines, one list for each line. -/
def allFindings (setting : Setting) (probe : Probe) (block : BlockState) :
    List Line → List (List Diagnostic)
  | [] => []
  | line :: rest =>
      setting.findings probe block line ::
        allFindings setting probe (setting.nextBlock block line) rest

/-- The findings of the second part start from the blocks that the first part leaves. -/
theorem allFindings_append (setting : Setting) (probe : Probe) (block : BlockState)
    (first second : List Line) :
    setting.allFindings probe block (first ++ second) =
      setting.allFindings probe block first ++
        setting.allFindings probe (first.foldl setting.nextBlock block) second := by
  induction first generalizing block with
  | nil => rfl
  | cons line rest ih =>
      simp only [List.cons_append, allFindings, List.foldl_cons]
      rw [ih]

theorem findings_of_none (setting : Setting) (probe : Probe) (block : BlockState) {line : Line}
    (blank : CodeLine.ofLine? line = none) : setting.findings probe block line = [] := by
  simp only [findings, blank]

theorem findings_of_code (setting : Setting) (probe : Probe) (block : BlockState) {line : Line}
    {code : CodeLine} (read : CodeLine.ofLine? line = some code) :
    setting.findings probe block line =
      ((setting.judge block code).answered probe).getD [.plain .internalError line.span] := by
  simp only [findings, read]

theorem nextBlock_of_none (setting : Setting) (block : BlockState) {line : Line}
    (blank : CodeLine.ofLine? line = none) : setting.nextBlock block line = block := by
  simp only [nextBlock, blank]

theorem nextBlock_of_code (setting : Setting) (block : BlockState) {line : Line}
    {code : CodeLine} (read : CodeLine.ofLine? line = some code) :
    setting.nextBlock block line = block.next (setting.opensBlock code) := by
  simp only [nextBlock, read]

end Setting

namespace Pass

/-- A step gives the findings of its line. -/
theorem step_diagnostics (setting : Setting) {probe : Probe} {state : State} (line : Line)
    (faithful : state.memo.Faithful probe) :
    (step setting probe state line).diagnostics = setting.findings probe state.block line := by
  unfold step Setting.findings
  cases CodeLine.ofLine? line with
  | none => rfl
  | some code =>
      have same := (setting.judge state.block code).settle_diagnostics faithful
      dsimp only
      rw [same]
      cases (setting.judge state.block code).answered probe <;> rfl

/-- A step that fails moves on to the same blocks as one that does not. -/
theorem step_block (setting : Setting) (probe : Probe) (state : State) (line : Line) :
    (step setting probe state line).state.block = setting.nextBlock state.block line := by
  unfold step Setting.nextBlock
  cases CodeLine.ofLine? line with
  | none => rfl
  | some code => dsimp only; split <;> rfl

/-- Every step keeps the memo faithful. -/
theorem step_faithful (setting : Setting) {probe : Probe} {state : State} (line : Line)
    (faithful : state.memo.Faithful probe) :
    (step setting probe state line).state.memo.Faithful probe := by
  unfold step
  cases CodeLine.ofLine? line with
  | none => exact faithful
  | some code =>
      have kept := (setting.judge state.block code).settle_faithful faithful
      dsimp only
      split <;> exact kept

/-- A code line calls the probe as its verdict does. -/
theorem step_calls (setting : Setting) (probe : Probe) (state : State) {line : Line}
    {code : CodeLine} (read : CodeLine.ofLine? line = some code) :
    (step setting probe state line).calls =
      ((setting.judge state.block code).settle probe state.memo).calls := by
  unfold step
  rw [read]
  dsimp only
  split <;> rfl

/-- A pass gives the findings of all its lines. -/
theorem steps_diagnostics (setting : Setting) {probe : Probe} {state : State} (lines : List Line)
    (faithful : state.memo.Faithful probe) :
    (steps setting probe state lines).map Step.diagnostics =
      setting.allFindings probe state.block lines := by
  induction lines generalizing state with
  | nil => rfl
  | cons line rest ih =>
      have tail := ih (step_faithful setting line faithful)
      rw [step_block] at tail
      simp only [steps, Setting.allFindings, List.map_cons, tail,
        step_diagnostics setting line faithful]

end Pass

end ItemFilter
