/-
This file says that every diagnostic points inside the line that it is about, and what stands there:
the command, an argument, or the code from the command to the last token.
-/

import ItemFilter.Proofs.EmptyBlock
import ItemFilter.Proofs.Slice

namespace ItemFilter

namespace CodeLine

def lastToken (code : CodeLine) : Token :=
  (code.arguments.getLast?).getD code.command

/-- The part of the line from the first character of the command to the last character of the last
token. -/
structure Extent (code : CodeLine) (part : Text) : Prop where
  place : ∃ before after, code.line.text = before ++ (part ++ after) ∧
    before.length = code.command.start ∧ before.length + part.length = code.lastToken.stop
  begins : code.command.text <+: part
  ends : code.lastToken.text <:+ part

/-- What a diagnostic with the code shows of the line. -/
def Shows (code : CodeLine) (kind : Code) (part : Text) : Prop :=
  match kind with
  | .unknownCommand | .emptyBlock => part = code.command.text
  | .missingParameter | .colorArity => code.Extent part
  | .parameterMismatch | .colorNotANumber | .colorOutOfRange | .missingSoundFile
  | .missingOptionalSoundFile => ∃ argument ∈ code.arguments, part = argument.text
  | .nestedBlock | .internalError => True

theorem lastToken_mem (code : CodeLine) : code.lastToken ∈ code.command :: code.arguments := by
  unfold lastToken
  cases last : code.arguments.getLast? with
  | none => exact List.mem_cons_self
  | some argument => exact List.mem_cons_of_mem _ (List.mem_of_getLast? last)

/-- The last token is the command itself or stands behind it. -/
theorem command_le_lastToken {line : Line} {code : CodeLine} (read : ofLine? line = some code) :
    code.command.start ≤ code.lastToken.start ∧ code.command.stop ≤ code.lastToken.stop := by
  rcases List.mem_cons.mp code.lastToken_mem with same | member
  · rw [same]
    exact ⟨Nat.le_refl _, Nat.le_refl _⟩
  · have before := command_before read code.lastToken member
    unfold Token.IsBefore Token.stop at before
    unfold Token.stop
    omega

/-- The span of the code shows all of it. -/
theorem extent_slice {line : Line} {code : CodeLine} (read : ofLine? line = some code) :
    code.Extent (code.span.slice line.text) := by
  obtain ⟨before, after, parts, start⟩ := (standsIn_of_mem read code.lastToken_mem).place
  obtain ⟨indent, rest, whole, indented⟩ := (standsIn_of_mem read List.mem_cons_self).place
  obtain ⟨startsBefore, stopsBefore⟩ := command_le_lastToken read
  unfold Token.stop at stopsBefore
  -- The last token ends the part, and what stands before it is cut where the command begins.
  let part := before.drop code.command.start ++ code.lastToken.text
  have length : part.length = code.lastToken.stop - code.command.start := by
    simp only [part, List.length_append, List.length_drop, Token.stop]
    omega
  have cut : (before.take code.command.start).length = code.command.start := by
    rw [List.length_take]
    omega
  have place : line.text = before.take code.command.start ++ (part ++ after) := by
    rw [List.append_assoc, ← List.append_assoc, List.take_append_drop, parts]
  have shown : code.span.slice line.text = part := by
    have span : code.span = ⟨code.line.number, (before.take code.command.start).length,
        part.length⟩ := by
      rw [cut, length]
      rfl
    rw [span, place]
    exact Span.slice_append _ _ part after
  rw [shown]
  refine ⟨⟨before.take code.command.start, after, ?_, cut, ?_⟩, ?_, List.suffix_append _ _⟩
  · rw [(ofLine?_tokens read).1]
    exact place
  · rw [cut, length, Token.stop]
    omega
  · have joined : code.command.text ++ rest = part ++ after :=
      (List.append_inj (whole.symm.trans place) (indented.trans cut.symm)).2
    have first : code.command.text <+: part ++ after := by
      rw [← joined]
      exact List.prefix_append _ _
    refine List.prefix_of_prefix_length_le first (List.prefix_append _ _) ?_
    rw [length, Token.stop]
    omega

end CodeLine

/-- The diagnostic points inside the line. Unless it is about the line as a whole, it shows a part
of the code. -/
structure Diagnostic.PointsInto (diagnostic : Diagnostic) (line : Line) : Prop where
  number : diagnostic.span.line = line.number
  start_le : diagnostic.span.start ≤ diagnostic.span.stop
  stop_le : diagnostic.span.stop ≤ line.text.length
  shows : diagnostic.code ≠ .nestedBlock → diagnostic.code ≠ .internalError →
    diagnostic.span.slice line.text ≠ [] ∧
      ∃ code, CodeLine.ofLine? line = some code ∧
        code.Shows diagnostic.code (diagnostic.span.slice line.text)

/-- A diagnostic about the whole line points into it. -/
theorem Diagnostic.pointsInto_of_whole {diagnostic : Diagnostic} {line : Line}
    (whole : diagnostic.span = line.span)
    (kind : diagnostic.code = .nestedBlock ∨ diagnostic.code = .internalError) :
    diagnostic.PointsInto line := by
  refine ⟨by rw [whole]; rfl, Nat.le_add_right _ _, ?_, fun nested internal => ?_⟩
  · rw [whole, Span.stop, Line.span, Nat.zero_add]
  · rcases kind with same | same
    · exact absurd same nested
    · exact absurd same internal

/-- A diagnostic at a token points into the line. -/
theorem Diagnostic.pointsInto_of_token {diagnostic : Diagnostic} {line : Line} {code : CodeLine}
    (read : CodeLine.ofLine? line = some code) {token : Token}
    (member : token ∈ code.command :: code.arguments)
    (place : diagnostic.span = token.span code.line.number)
    (shows : code.Shows diagnostic.code token.text) : diagnostic.PointsInto line := by
  have stands := CodeLine.standsIn_of_mem read member
  have shown : diagnostic.span.slice line.text = token.text := by
    rw [place]
    exact stands.slice code.line.number
  refine ⟨?_, Nat.le_add_right _ _, ?_, fun _ _ => ?_⟩
  · rw [place, ← (CodeLine.ofLine?_tokens read).1]
    rfl
  · rw [place]
    exact stands.stop_le
  · rw [shown]
    exact ⟨stands.nonempty, code, read, shows⟩

/-- A diagnostic at the code points into the line. -/
theorem Diagnostic.pointsInto_of_code {diagnostic : Diagnostic} {line : Line} {code : CodeLine}
    (read : CodeLine.ofLine? line = some code) (place : diagnostic.span = code.span)
    (shows : code.Extent (code.span.slice line.text) →
      code.Shows diagnostic.code (code.span.slice line.text)) : diagnostic.PointsInto line := by
  have extent := CodeLine.extent_slice read
  have command := CodeLine.standsIn_of_mem read List.mem_cons_self
  have last := CodeLine.standsIn_of_mem read code.lastToken_mem
  have behind := (CodeLine.command_le_lastToken read).1
  refine ⟨?_, Nat.le_add_right _ _, ?_, fun _ _ => ?_⟩
  · rw [place, ← (CodeLine.ofLine?_tokens read).1]
    rfl
  · have stop : code.span.stop = code.lastToken.stop := by
      change code.command.start + (code.lastToken.stop - code.command.start) = code.lastToken.stop
      unfold Token.stop
      omega
    rw [place, stop]
    exact last.stop_le
  · rw [place]
    refine ⟨fun empty => ?_, code, read, shows extent⟩
    have begins := extent.begins
    rw [empty, List.prefix_nil] at begins
    exact command.nonempty begins

/-- What points at a place of the code line points into the line. -/
theorem Diagnostic.pointsInto_of_places {diagnostic : Diagnostic} {line : Line} {code : CodeLine}
    (read : CodeLine.ofLine? line = some code)
    (placed : diagnostic.span ∈ code.places diagnostic.code) : diagnostic.PointsInto line := by
  cases kind : diagnostic.code with
  | nestedBlock =>
      rw [kind] at placed
      refine pointsInto_of_whole ?_ (.inl kind)
      rw [List.mem_singleton.mp placed, (CodeLine.ofLine?_tokens read).1]
  | unknownCommand =>
      rw [kind] at placed
      refine pointsInto_of_token read List.mem_cons_self (List.mem_singleton.mp placed) ?_
      rw [kind]
      rfl
  | missingParameter | colorArity =>
      rw [kind] at placed
      refine pointsInto_of_code read (List.mem_singleton.mp placed) fun extent => ?_
      rw [kind]
      exact extent
  | parameterMismatch | colorNotANumber | colorOutOfRange | missingSoundFile
  | missingOptionalSoundFile =>
      rw [kind] at placed
      obtain ⟨argument, member, place⟩ := List.mem_map.mp placed
      refine pointsInto_of_token read (List.mem_cons_of_mem _ member) place.symm ?_
      rw [kind]
      exact ⟨argument, member, rfl⟩
  | emptyBlock | internalError =>
      rw [kind] at placed
      cases placed

namespace Setting

/-- All findings of a line point into it. -/
theorem findings_pointsInto (setting : Setting) (probe : Probe) (block : BlockState) {line : Line}
    {diagnostic : Diagnostic} (reported : diagnostic ∈ setting.findings probe block line) :
    diagnostic.PointsInto line := by
  cases read : CodeLine.ofLine? line with
  | none =>
      rw [setting.findings_of_none probe block read] at reported
      cases reported
  | some code =>
      rw [setting.findings_of_code probe block read] at reported
      cases answered : (setting.judge block code).answered probe with
      | none =>
          rw [answered] at reported
          obtain rfl := List.mem_singleton.mp reported
          exact Diagnostic.pointsInto_of_whole rfl (.inr rfl)
      | some diagnostics =>
          rw [answered] at reported
          have placed := (setting.judge_placed block code).of_answered answered
          exact Diagnostic.pointsInto_of_places read (placed diagnostic reported)

/-- A pass reports its lines from the top to the bottom. -/
theorem allFindings_descend (setting : Setting) (probe : Probe) (block : BlockState)
    {lines : List Line} (numbered : lines.Pairwise fun upper lower => upper.number < lower.number) :
    (setting.allFindings probe block lines).flatten.Pairwise
      fun earlier later => earlier.span.line ≤ later.span.line := by
  induction lines generalizing block with
  | nil => exact .nil
  | cons line rest ih =>
      obtain ⟨above, later⟩ := List.pairwise_cons.mp numbered
      rw [allFindings, List.flatten_cons, List.pairwise_append]
      refine ⟨?_, ih (setting.nextBlock block line) later, fun earlier here lower below => ?_⟩
      · refine List.pairwise_of_forall_mem_list fun first here second there => ?_
        rw [setting.findings_line probe block here, setting.findings_line probe block there]
      · obtain ⟨other, member, place⟩ := setting.allFindings_line probe _ below
        have number := above other member
        rw [setting.findings_line probe block here, place]
        omega

end Setting

namespace EmptyBlock

theorem mem_of_mem_emptyOpeners {opens : CodeLine → Bool} {codes : List CodeLine} {code : CodeLine}
    (member : code ∈ emptyOpeners opens codes) : code ∈ codes := by
  rcases mem_emptyOpeners_iff.mp member with ⟨pair, paired, rfl⟩ | ⟨last, _⟩
  · exact (List.of_mem_zip (List.mem_filter.mp paired).1).1
  · exact List.mem_of_getLast? last

/-- An empty block is reported at its command. -/
theorem check_pointsInto {names : List Text} {document : Document} {diagnostic : Diagnostic}
    (reported : diagnostic ∈ check names document) :
    ∃ line ∈ document.numbered, diagnostic.PointsInto line := by
  rw [check_eq] at reported
  obtain ⟨code, opener, rfl⟩ := List.mem_map.mp reported
  obtain ⟨line, member, read⟩ := List.mem_filterMap.mp (mem_of_mem_emptyOpeners opener)
  exact ⟨line, member, Diagnostic.pointsInto_of_token read List.mem_cons_self rfl rfl⟩

end EmptyBlock

/-- The lines of a document are found by their numbers. -/
theorem Document.getElem?_of_mem_numbered {document : Document} {line : Line}
    (member : line ∈ document.numbered) : document.lines[line.number]? = some line.text := by
  obtain ⟨pair, present, rfl⟩ := List.mem_map.mp member
  exact List.mem_zipIdx_iff_getElem?.mp present

namespace Validation

/-- The diagnostics of the lines point into the lines, from the top to the bottom. -/
theorem lineDiagnostics_pointsInto (document : Document) (setting : Setting) (probe : Probe) :
    (∀ diagnostic ∈ lineDiagnostics document setting probe,
        ∃ line ∈ document.numbered, diagnostic.PointsInto line) ∧
      (lineDiagnostics document setting probe).Pairwise
        fun earlier later => earlier.span.line ≤ later.span.line := by
  constructor
  · intro diagnostic reported
    obtain ⟨before, line, after, split, _, found⟩ := exists_split_of_mem_lineDiagnostics reported
    exact ⟨line, by simp [split], setting.findings_pointsInto probe _ found⟩
  · by_cases empty : setting.catalog.isEmpty = true
    · rw [lineDiagnostics_of_isEmpty document probe empty]
      exact .nil
    · rw [lineDiagnostics_of_commands document probe empty]
      exact setting.allFindings_descend probe .outside document.numbered_increasing

/-- Every diagnostic of the lines, and every report of an empty block, points inside a line of the
document and shows there what its code is about. The lines are reported from the top to the
bottom. -/
theorem validate_pointsInto (text : Text) (path : Option Text) (catalog : Catalog)
    (options : Options) (services : Services) (openers : List Text) (directory : Option Path)
    (resolved : (Document.ofText text path).directory services.workplace = .ok directory) :
    let document := Document.ofText text path
    ∃ report diagnostics, validate document catalog options services = .ok report ∧
      report.diagnostics = diagnostics ++ (checkWhole document services.checker).diagnostics ∧
      (∀ diagnostic ∈ diagnostics ++ EmptyBlock.check openers document,
        ∃ content, document.lines[diagnostic.span.line]? = some content ∧
          diagnostic.PointsInto ⟨diagnostic.span.line, content⟩) ∧
      diagnostics.Pairwise fun earlier later => earlier.span.line ≤ later.span.line := by
  intro document
  obtain ⟨report, returned, parts⟩ :=
    validate_report document catalog options services resolved
  obtain ⟨inside, descend⟩ :=
    lineDiagnostics_pointsInto document ⟨catalog, options, directory⟩ services.probe
  refine ⟨report, _, returned, parts, fun diagnostic reported => ?_, descend⟩
  have found : ∃ line ∈ document.numbered, diagnostic.PointsInto line := by
    rcases List.mem_append.mp reported with ofLine | ofBlock
    · exact inside diagnostic ofLine
    · exact EmptyBlock.check_pointsInto ofBlock
  obtain ⟨line, member, points⟩ := found
  refine ⟨line.text, ?_, ?_⟩
  · rw [points.number]
    exact Document.getElem?_of_mem_numbered member
  · rw [points.number]
    exact points

/-- Two components are too few. The report shows the code without the blanks around it and without
the comment. -/
theorem validate_pointsInto_color :
    let catalog : Catalog := [⟨['T', 'C'], .actions, [[]]⟩]
    let options : Options := ⟨.sequential, 3, 3, ['C'], [], ['O']⟩
    let text : Text := ['\t', 'T', 'C', ' ', '"', ' ', '"', ' ', '9', ' ', '#', 'x']
    let services : Services := ⟨.top, fun _ => none, .silent⟩
    (Document.ofText text none).directory services.workplace = .ok none ∧
      ∃ report, validate (.ofText text none) catalog options services = .ok report ∧
        report.diagnostics = [.plain .colorArity ⟨0, 1, 8⟩] ∧
        ∃ code, CodeLine.ofLine? ⟨0, text⟩ = some code ∧
          code.Extent ['T', 'C', ' ', '"', ' ', '"', ' ', '9'] := by
  intro catalog options text services
  obtain ⟨report, diagnostics, returned, parts, inside, _⟩ :=
    validate_pointsInto text none catalog options services [] none rfl
  have silent : (checkWhole (.ofText text none) services.checker).diagnostics = [] := rfl
  have reported : report.diagnostics = [.plain .colorArity ⟨0, 1, 8⟩] := by
    have computed : (validate (.ofText text none) catalog options services).map
        Report.diagnostics = .ok [.plain .colorArity ⟨0, 1, 8⟩] := rfl
    rw [returned] at computed
    exact Except.ok.inj computed
  rw [silent, List.append_nil] at parts
  obtain ⟨content, found, points⟩ := inside (.plain .colorArity ⟨0, 1, 8⟩) (by
    rw [← parts, reported]
    exact List.mem_cons_self)
  obtain rfl : text = content := Option.some.inj found
  exact ⟨rfl, report, returned, reported, (points.shows (by decide) (by decide)).2⟩

end Validation

end ItemFilter
