/-
This file puts a line without code into a document. The lines below it move down by one, and nothing
else changes.
-/

import ItemFilter.Proofs.EmptyBlock
import ItemFilter.Proofs.Outcome

namespace ItemFilter

/-- The line after another was put in at the number. -/
def Line.makeRoom (line : Line) (number : Nat) : Line :=
  if number ≤ line.number then line.below 1 else line

def CodeLine.makeRoom (code : CodeLine) (number : Nat) : CodeLine :=
  if number ≤ code.line.number then code.below 1 else code

/-- The diagnostic after a line was put in at the number: from there on it stands one line lower. -/
def Diagnostic.makeRoom (diagnostic : Diagnostic) (number : Nat) : Diagnostic :=
  if number ≤ diagnostic.span.line then diagnostic.below 1 else diagnostic

theorem Line.makeRoom_of_lt {line : Line} {number : Nat} (above : line.number < number) :
    line.makeRoom number = line :=
  if_neg (Nat.not_le_of_lt above)

theorem Line.makeRoom_below (line : Line) (count : Nat) :
    (line.below count).makeRoom count = (line.below 1).below count := by
  have reached : count ≤ (line.below count).number := Nat.le_add_left _ _
  rw [makeRoom, if_pos reached]
  simp only [below, Nat.add_right_comm]

/-- A line that makes room keeps its tokens. -/
theorem CodeLine.ofLine?_makeRoom (line : Line) (number : Nat) :
    ofLine? (line.makeRoom number) = (ofLine? line).map (·.makeRoom number) := by
  have moved := ofLine?_below line 1
  unfold Line.makeRoom
  cases read : ofLine? line with
  | none =>
      rw [read] at moved
      split
      · exact moved
      · exact read
  | some code =>
      rw [read] at moved
      rw [Option.map_some, makeRoom, (ofLine?_tokens read).1]
      split
      · exact moved
      · exact read

theorem EmptyBlock.isOpener_makeRoom (names : List Text) (code : CodeLine) (number : Nat) :
    isOpener names (code.makeRoom number) = isOpener names code := by
  unfold CodeLine.makeRoom
  split <;> rfl

namespace Setting

/-- The findings of a line move with it. -/
theorem findings_makeRoom (setting : Setting) (probe : Probe) (block : BlockState) (line : Line)
    (number : Nat) :
    setting.findings probe block (line.makeRoom number) =
      (setting.findings probe block line).map (·.makeRoom number) := by
  have place : ∀ diagnostic ∈ setting.findings probe block line,
      diagnostic.makeRoom number =
        if number ≤ line.number then diagnostic.below 1 else diagnostic := by
    intro diagnostic reported
    rw [Diagnostic.makeRoom, setting.findings_line probe block reported]
  rw [List.map_congr_left place]
  unfold Line.makeRoom
  split
  · exact setting.findings_below probe block line 1
  · rw [List.map_id']

theorem nextBlock_makeRoom (setting : Setting) (block : BlockState) (line : Line) (number : Nat) :
    setting.nextBlock block (line.makeRoom number) = setting.nextBlock block line := by
  unfold Line.makeRoom
  split
  · exact setting.nextBlock_below block line 1
  · rfl

theorem allFindings_makeRoom (setting : Setting) (probe : Probe) (block : BlockState)
    (lines : List Line) (number : Nat) :
    setting.allFindings probe block (lines.map (·.makeRoom number)) =
      (setting.allFindings probe block lines).map (List.map (·.makeRoom number)) := by
  induction lines generalizing block with
  | nil => rfl
  | cons line rest ih =>
      simp only [List.map_cons, allFindings, findings_makeRoom, nextBlock_makeRoom, ih]

theorem foldl_nextBlock_makeRoom (setting : Setting) (block : BlockState) (lines : List Line)
    (number : Nat) :
    (lines.map (·.makeRoom number)).foldl setting.nextBlock block =
      lines.foldl setting.nextBlock block := by
  simp only [List.foldl_map, nextBlock_makeRoom]

/-- A line asks for the same file wherever it stands. -/
theorem questions_makeRoom (setting : Setting) (line : Line) (number : Nat) :
    setting.questions (line.makeRoom number) = setting.questions line := by
  unfold questions
  rw [CodeLine.ofLine?_makeRoom]
  cases CodeLine.ofLine? line with
  | none => rfl
  | some code =>
      simp only [Option.map_some, CodeLine.makeRoom]
      split
      · rw [judge_below]
        cases setting.judge .outside code <;> rfl
      · rfl

/-- The line that is put in gives nothing and leaves the blocks as they are. -/
theorem allFindings_insert (setting : Setting) (probe : Probe) (block : BlockState)
    (before after : List Line) {blank : Line} (empty : CodeLine.ofLine? blank = none)
    (number : Nat) :
    (setting.allFindings probe block
        (before.map (·.makeRoom number) ++ blank :: after.map (·.makeRoom number))).flatten =
      (setting.allFindings probe block (before ++ after)).flatten.map (·.makeRoom number) := by
  rw [allFindings_append, allFindings_append, allFindings, setting.findings_of_none probe _ empty,
    setting.nextBlock_of_none _ empty, allFindings_makeRoom, allFindings_makeRoom,
    foldl_nextBlock_makeRoom, List.map_flatten, List.map_append, List.flatten_append,
    List.flatten_append, List.flatten_cons, List.nil_append]

end Setting

namespace Document

theorem number_lt_length {document : Document} {line : Line} (member : line ∈ document.numbered) :
    line.number < document.lines.length := by
  obtain ⟨pair, present, rfl⟩ := List.mem_map.mp member
  exact List.snd_lt_of_mem_zipIdx present

/-- The lines before and behind the place where a line is put in. -/
theorem numbered_insert {document longer : Document} {first second : List Text} {blank : Text}
    (whole : document.lines = first ++ second)
    (inserted : longer.lines = first ++ blank :: second) :
    ∃ before after, document.numbered = before ++ after ∧
      longer.numbered = before.map (·.makeRoom first.length) ++
        ⟨first.length, blank⟩ :: after.map (·.makeRoom first.length) := by
  let upper : Document := ⟨first, none⟩
  let lower : Document := ⟨second, none⟩
  have parts := numbered_append first second document.path none none
  have longerParts := numbered_append first (blank :: second) longer.path none none
  have lowerParts := numbered_append [blank] second none none none
  rw [← whole] at parts
  rw [← inserted] at longerParts
  have stays : upper.numbered.map (·.makeRoom first.length) = upper.numbered := by
    refine (List.map_congr_left fun line member => ?_).trans (List.map_id _)
    exact Line.makeRoom_of_lt (number_lt_length member)
  have moves : (lower.numbered.map (·.below first.length)).map (·.makeRoom first.length) =
      (lower.numbered.map (·.below 1)).map (·.below first.length) := by
    rw [List.map_map, List.map_map]
    exact List.map_congr_left fun line _ => Line.makeRoom_below line first.length
  have single : (Document.mk [blank] none).numbered.map (·.below first.length) =
      [⟨first.length, blank⟩] := by
    simp [numbered, Line.below]
  refine ⟨upper.numbered, lower.numbered.map (·.below first.length), parts, ?_⟩
  rw [stays, moves]
  refine longerParts.trans (congrArg (upper.numbered ++ ·) ?_)
  change ((Document.mk ([blank] ++ second) none).numbered).map (·.below first.length) = _
  rw [lowerParts, List.map_append, single]
  rfl

/-- The code lines of the longer document are those of the shorter one, moved. -/
theorem codeLines_insert {document longer : Document} {first second : List Text} {blank : Text}
    (whole : document.lines = first ++ second)
    (inserted : longer.lines = first ++ blank :: second)
    (empty : CodeLine.ofLine? ⟨first.length, blank⟩ = none) :
    longer.codeLines = document.codeLines.map (·.makeRoom first.length) := by
  obtain ⟨before, after, parts, longerParts⟩ := numbered_insert whole inserted
  have moved (lines : List Line) :
      (lines.map (·.makeRoom first.length)).filterMap CodeLine.ofLine? =
        (lines.filterMap CodeLine.ofLine?).map (·.makeRoom first.length) := by
    rw [List.filterMap_map, List.map_filterMap]
    exact List.filterMap_congr fun line _ => CodeLine.ofLine?_makeRoom line first.length
  rw [codeLines, codeLines, parts, longerParts, List.filterMap_append, List.filterMap_append,
    List.filterMap_cons_none empty, moved, moved, List.map_append]

end Document

namespace EmptyBlock

theorem report_makeRoom (code : CodeLine) (number : Nat) :
    report (code.makeRoom number) = (report code).makeRoom number := by
  have place : (report code).span.line = code.line.number := rfl
  rw [CodeLine.makeRoom, Diagnostic.makeRoom, place]
  split <;> rfl

end EmptyBlock

namespace Validation

/-- The lines give the same diagnostics, moved. -/
theorem lineDiagnostics_insert {document longer : Document} {first second : List Text}
    {blank : Text} (setting : Setting) (probe : Probe)
    (whole : document.lines = first ++ second)
    (inserted : longer.lines = first ++ blank :: second)
    (empty : CodeLine.ofLine? ⟨first.length, blank⟩ = none) :
    lineDiagnostics longer setting probe =
      (lineDiagnostics document setting probe).map (·.makeRoom first.length) := by
  by_cases noCommands : setting.catalog.isEmpty = true
  · rw [lineDiagnostics_of_isEmpty longer probe noCommands,
      lineDiagnostics_of_isEmpty document probe noCommands]
    rfl
  · obtain ⟨before, after, parts, longerParts⟩ := Document.numbered_insert whole inserted
    rw [lineDiagnostics_of_commands longer probe noCommands,
      lineDiagnostics_of_commands document probe noCommands, parts, longerParts,
      setting.allFindings_insert probe .outside before after empty]

/-- The lines look for the same files. -/
theorem lineCalls_insert {document longer : Document} {first second : List Text} {blank : Text}
    (setting : Setting) (probe : Probe) (whole : document.lines = first ++ second)
    (inserted : longer.lines = first ++ blank :: second)
    (empty : CodeLine.ofLine? ⟨first.length, blank⟩ = none) :
    lineCalls longer setting probe = lineCalls document setting probe := by
  obtain ⟨before, after, parts, longerParts⟩ := Document.numbered_insert whole inserted
  apply lineCalls_congr
  simp only [parts, longerParts, List.flatMap_append, List.flatMap_cons, List.flatMap_map,
    setting.questions_makeRoom, setting.questions_of_none empty, List.nil_append]

/-- The checks of the whole document find the same, moved. -/
theorem checkWhole_insert {document longer : Document} {first second : List Text} {blank : Text}
    {checker : Checker} (whole : document.lines = first ++ second)
    (inserted : longer.lines = first ++ blank :: second)
    (empty : CodeLine.ofLine? ⟨first.length, blank⟩ = none)
    (known : checker = .silent ∨ ∃ openers, checker = .emptyBlocks openers) :
    (checkWhole longer checker).diagnostics =
      (checkWhole document checker).diagnostics.map (·.makeRoom first.length) := by
  rcases known with rfl | ⟨openers, rfl⟩
  · rfl
  · change EmptyBlock.check openers longer =
      (EmptyBlock.check openers document).map (·.makeRoom first.length)
    rw [EmptyBlock.check_eq, EmptyBlock.check_eq, Document.codeLines_insert whole inserted empty,
      EmptyBlock.emptyOpeners_map fun code =>
        EmptyBlock.isOpener_makeRoom openers code first.length, List.map_map, List.map_map]
    exact List.map_congr_left fun code _ => EmptyBlock.report_makeRoom code first.length

/-- A line without code is not seen. Put in anywhere, it moves the diagnostics from its place on down
by one line, and changes neither them nor the files that are looked for. -/
theorem validate_insert (document longer : Document) (catalog : Catalog) (options : Options)
    (workplace : Path) (probe : Probe) (checker : Checker) (first second : List Text) (blank : Text)
    (whole : document.lines = first ++ second)
    (inserted : longer.lines = first ++ blank :: second)
    (place : longer.directory workplace = document.directory workplace)
    (empty : CodeLine.ofLine? ⟨first.length, blank⟩ = none)
    (known : checker = .silent ∨ ∃ openers, checker = .emptyBlocks openers) :
    (validate longer catalog options ⟨workplace, probe, checker⟩).map
        (fun report => (report.diagnostics, report.calls)) =
      (validate document catalog options ⟨workplace, probe, checker⟩).map fun report =>
        (report.diagnostics.map (·.makeRoom first.length), report.calls) := by
  apply validate_congr catalog options ⟨workplace, probe, checker⟩ id
    (List.map (·.makeRoom first.length)) place
  · intro directory
    rw [id_eq, List.map_append, lineDiagnostics_insert _ probe whole inserted empty,
      checkWhole_insert whole inserted empty known]
  · intro directory
    exact lineCalls_insert _ probe whole inserted empty

/-- A comment between two openers: the block of the first is still empty and the second is still
nested, one line lower. -/
theorem validate_insert_comment :
    let opener : Text := ['S', 'h', 'o', 'w']
    let play : Text := ['P', 'l', 'a', 'y']
    let catalog : Catalog := [⟨opener, .blocks, [[]]⟩, ⟨play, .actions, [[]]⟩]
    let options : Options := ⟨.sequential, 3, 3, ['C'], [play], ['O']⟩
    let document : Document := ⟨[opener, opener, play ++ [' ', 'a']], none⟩
    let longer : Document := ⟨[opener, ['#'], opener, play ++ [' ', 'a']], none⟩
    let checker := Checker.emptyBlocks [opener]
    document.lines = [opener] ++ [opener, play ++ [' ', 'a']] ∧
      longer.lines = [opener] ++ ['#'] :: [opener, play ++ [' ', 'a']] ∧
      longer.directory .top = document.directory .top ∧
      CodeLine.ofLine? ⟨[opener].length, ['#']⟩ = none ∧
      (validate longer catalog options ⟨.top, fun _ => none, checker⟩).map
          (fun report => (report.diagnostics, report.calls)) =
        .ok ([.plain .nestedBlock ⟨2, 0, 4⟩, .plain .internalError ⟨3, 0, 6⟩,
          EmptyBlock.report ⟨⟨0, opener⟩, ⟨opener, 0⟩, []⟩], [['a']]) := by
  intro opener play catalog options document longer checker
  refine ⟨rfl, rfl, rfl, rfl, ?_⟩
  exact (validate_insert document longer catalog options .top (fun _ => none) checker [opener]
    [opener, play ++ [' ', 'a']] ['#'] rfl rfl rfl rfl (.inr ⟨[opener], rfl⟩)).trans rfl

end Validation

end ItemFilter
