/-
This file says when the diagnostics of the lines come in the order of their places. Only a line that
reports a refused argument before an absent one breaks the order.
-/

import ItemFilter.Proofs.Placement
import ItemFilter.Proofs.Validation

namespace ItemFilter

/-- The earlier diagnostic does not start behind the later one. -/
def Diagnostic.InOrder (earlier later : Diagnostic) : Prop :=
  earlier.span.line < later.span.line ∨
    earlier.span.line = later.span.line ∧ earlier.span.start ≤ later.span.start

instance (earlier later : Diagnostic) : Decidable (earlier.InOrder later) :=
  inferInstanceAs (Decidable (_ ∨ _))

/-- Diagnostics at arguments of one line are in order if the arguments are. -/
theorem Token.IsBefore.inOrder {left right : Token} (before : left.IsBefore right) (line : Nat)
    {earlier later : Diagnostic} (atLeft : earlier.span = left.span line)
    (atRight : later.span = right.span line) : earlier.InOrder later := by
  have start := before.start_lt
  right
  rw [atLeft, atRight]
  exact ⟨rfl, Nat.le_of_lt start⟩

namespace Color

/-- A component is reported at its argument. -/
theorem componentFindings_span {line : Nat} {argument : Token} {diagnostic : Diagnostic}
    (reported : diagnostic ∈ componentFindings line argument) :
    diagnostic.span = argument.span line := by
  simp only [componentFindings, List.mem_map] at reported
  obtain ⟨fault, _, rfl⟩ := reported
  rfl

theorem componentFindings_inOrder (line : Nat) (argument : Token) :
    (componentFindings line argument).Pairwise Diagnostic.InOrder := by
  unfold componentFindings
  cases fault? argument.text with
  | none => exact .nil
  | some fault => exact List.pairwise_singleton _ _

/-- The components are reported from left to right. -/
theorem check_inOrder {line : Line} {code : CodeLine} (read : CodeLine.ofLine? line = some code)
    {diagnostics : List Diagnostic} (checked : check code = .ok diagnostics) :
    diagnostics.Pairwise Diagnostic.InOrder := by
  have readable : ¬ Stops (check code) := by
    rw [checked]
    exact not_stops_ok diagnostics
  rw [check_of_not_stops readable] at checked
  obtain rfl := Except.ok.inj checked
  split
  · exact List.pairwise_singleton _ _
  · rw [List.pairwise_flatMap]
    refine ⟨fun argument _ => componentFindings_inOrder _ argument, ?_⟩
    apply ((CodeLine.arguments_ordered read).sublist (List.take_sublist 4 _)).imp
    intro left right before earlier atLeft later atRight
    exact before.inOrder _ (componentFindings_span atLeft) (componentFindings_span atRight)

end Color

/-- A sound file gives at most one diagnostic. -/
theorem Sound.check_inOrder (code : CodeLine) (directory : Option Path) (optional : Bool) :
    (check code directory optional).Always (·.Pairwise Diagnostic.InOrder) := by
  unfold check
  split
  · exact List.pairwise_singleton _ _
  · intro found
    cases found with
    | true => exact .nil
    | false => exact List.pairwise_singleton _ _

namespace Signature

/-- A present argument is refused and a required one is absent. -/
def ReportsBack (signature : Signature) (code : CodeLine) : Prop :=
  (∃ pair ∈ signature.zip code.arguments, pair.1.accepts pair.2.text = false) ∧
    ∃ parameter ∈ signature.drop code.arguments.length, parameter.required = true

/-- The parameters meet the arguments in the order of the line. -/
theorem zip_ordered (signature : Signature) {arguments : List Token}
    (ordered : arguments.Pairwise Token.IsBefore) :
    (signature.zip arguments).Pairwise fun left right => left.2.IsBefore right.2 := by
  induction signature generalizing arguments with
  | nil => exact .nil
  | cons parameter rest ih =>
      cases arguments with
      | nil => exact .nil
      | cons argument others =>
          obtain ⟨first, later⟩ := List.pairwise_cons.mp ordered
          refine List.pairwise_cons.mpr ⟨fun pair member => ?_, ih later⟩
          exact first pair.2 (List.of_mem_zip member).2

/-- The refused arguments are reported from left to right. -/
theorem mismatches_inOrder (signature : Signature) {line : Line} {code : CodeLine}
    (read : CodeLine.ofLine? line = some code) :
    (((signature.zip code.arguments).filter fun pair => !pair.1.accepts pair.2.text).map
      fun pair => mismatch code pair.1 pair.2).Pairwise Diagnostic.InOrder := by
  rw [List.pairwise_map]
  apply ((zip_ordered signature (CodeLine.arguments_ordered read)).filter _).imp
  intro left right before
  exact before.inOrder code.line.number rfl rfl

/-- At most one absent argument is reported. -/
theorem missing_inOrder (code : CodeLine) (parameter : Option Parameter) :
    (parameter.toList.map (missing code)).Pairwise Diagnostic.InOrder := by
  cases parameter with
  | none => exact .nil
  | some parameter => exact List.pairwise_singleton _ _

/-- The report of an absent argument starts at the command, before all arguments. -/
theorem not_inOrder_missing {line : Line} {code : CodeLine}
    (read : CodeLine.ofLine? line = some code) {argument : Token}
    (member : argument ∈ code.arguments) (refusing absent : Parameter) :
    ¬ (mismatch code refusing argument).InOrder (missing code absent) := by
  have start := (CodeLine.command_before read argument member).start_lt
  rintro (lower | ⟨_, behind⟩)
  · change code.line.number < code.line.number at lower
    omega
  · change argument.start ≤ code.command.start at behind
    omega

/-- The report on a line is out of order exactly when it has both kinds of diagnostics. -/
theorem check_inOrder_iff (signature : Signature) {line : Line} {code : CodeLine}
    (read : CodeLine.ofLine? line = some code) :
    (signature.check code).Pairwise Diagnostic.InOrder ↔ ¬ signature.ReportsBack code := by
  rw [check, checkFrom_eq, List.pairwise_append]
  constructor
  · rintro ⟨_, _, across⟩ ⟨⟨pair, zipped, refused⟩, parameter, dropped, required⟩
    have found : ((signature.drop code.arguments.length).find? Parameter.required).isSome = true :=
      List.find?_isSome.mpr ⟨parameter, dropped, required⟩
    obtain ⟨absent, absentFound⟩ := Option.isSome_iff_exists.mp found
    have reported : mismatch code pair.1 pair.2 ∈
        ((signature.zip code.arguments).filter fun pair => !pair.1.accepts pair.2.text).map
          fun pair => mismatch code pair.1 pair.2 :=
      List.mem_map.mpr ⟨pair, List.mem_filter.mpr ⟨zipped, by simp [refused]⟩, rfl⟩
    refine not_inOrder_missing read (List.of_mem_zip zipped).2 pair.1 absent ?_
    exact across _ reported _ (by simp [absentFound])
  · intro orderly
    refine ⟨mismatches_inOrder signature read, missing_inOrder code _, ?_⟩
    intro earlier refused later absent
    obtain ⟨pair, chosen, _⟩ := List.mem_map.mp refused
    obtain ⟨parameter, found, _⟩ := List.mem_map.mp absent
    obtain ⟨zipped, rejected⟩ := List.mem_filter.mp chosen
    have required := List.find?_some (Option.mem_toList.mp found)
    have dropped := List.mem_of_find?_eq_some (Option.mem_toList.mp found)
    exact absurd ⟨⟨pair, zipped, by simpa using rejected⟩, parameter, dropped, required⟩ orderly

end Signature

namespace Setting

/-- The line is checked against a signature that reports back from an argument to the command. -/
def ReportsBack (setting : Setting) (code : CodeLine) : Prop :=
  match setting.route code with
  | .fitted command =>
      ∃ signature, Signature.select command.signatures code.argumentTexts = .ok (some signature) ∧
        signature.ReportsBack code
  | .opener | .unknown | .color | .sound => False

/-- Reporting back breaks the order in the verdict. -/
theorem judge_of_reportsBack {setting : Setting} (block : BlockState) {line : Line}
    {code : CodeLine} (read : CodeLine.ofLine? line = some code)
    (back : setting.ReportsBack code) :
    ∃ diagnostics, setting.judge block code = .settled diagnostics ∧
      ¬ diagnostics.Pairwise Diagnostic.InOrder := by
  rw [judge_eq]
  unfold ReportsBack at back
  cases route : setting.route code with
  | fitted command =>
      rw [route] at back
      obtain ⟨signature, chosen, reports⟩ := back
      refine ⟨signature.check code, ?_, ?_⟩
      · simp only [checkArguments, chosen]
        rfl
      · rw [signature.check_inOrder_iff read]
        exact not_not_intro reports
  | _ => rw [route] at back; exact back.elim

/-- No other check breaks the order. -/
theorem judge_inOrder {setting : Setting} (block : BlockState) {line : Line} {code : CodeLine}
    (read : CodeLine.ofLine? line = some code) (orderly : ¬ setting.ReportsBack code) :
    (setting.judge block code).Always (·.Pairwise Diagnostic.InOrder) := by
  rw [judge_eq]
  cases route : setting.route code with
  | opener =>
      change List.Pairwise _ _
      split
      · exact List.pairwise_singleton _ _
      · exact .nil
  | unknown => exact List.pairwise_singleton _ _
  | color =>
      cases checked : Color.check code with
      | error fault => trivial
      | ok diagnostics => exact Color.check_inOrder read checked
  | sound => exact Sound.check_inOrder code _ _
  | fitted command =>
      simp only [checkArguments]
      cases chosen : Signature.select command.signatures code.argumentTexts with
      | error fault => trivial
      | ok choice =>
          cases choice with
          | none => exact .nil
          | some signature =>
              refine (signature.check_inOrder_iff read).mpr fun reports => orderly ?_
              rw [ReportsBack, route]
              exact ⟨signature, chosen, reports⟩

/-- The order of one line's findings. -/
theorem findings_inOrder_iff (setting : Setting) (probe : Probe) (block : BlockState)
    (line : Line) :
    (setting.findings probe block line).Pairwise Diagnostic.InOrder ↔
      ∀ code, CodeLine.ofLine? line = some code → ¬ setting.ReportsBack code := by
  cases read : CodeLine.ofLine? line with
  | none => simp [setting.findings_of_none probe block read]
  | some code =>
      rw [setting.findings_of_code probe block read]
      constructor
      · intro inOrder other same back
        obtain rfl := Option.some.inj same
        obtain ⟨diagnostics, settled, disorder⟩ := judge_of_reportsBack block read back
        rw [settled] at inOrder
        exact disorder inOrder
      · intro orderly
        exact (judge_inOrder block read (orderly code rfl)).getD probe
          (List.pairwise_singleton _ _)

/-- Lines further down never break the order, so it is decided line by line. -/
theorem allFindings_inOrder_iff (setting : Setting) (probe : Probe) (block : BlockState)
    {lines : List Line} (numbered : lines.Pairwise fun upper lower => upper.number < lower.number) :
    (setting.allFindings probe block lines).flatten.Pairwise Diagnostic.InOrder ↔
      ∀ code ∈ lines.filterMap CodeLine.ofLine?, ¬ setting.ReportsBack code := by
  induction lines generalizing block with
  | nil => simp [allFindings]
  | cons line rest ih =>
      obtain ⟨above, later⟩ := List.pairwise_cons.mp numbered
      have across : ∀ earlier ∈ setting.findings probe block line,
          ∀ lower ∈ (setting.allFindings probe (setting.nextBlock block line) rest).flatten,
            earlier.InOrder lower := by
        intro earlier here lower below
        obtain ⟨other, member, place⟩ := setting.allFindings_line probe _ below
        have number := above other member
        rw [Diagnostic.InOrder, setting.findings_line probe block here, place]
        exact .inl number
      rw [allFindings, List.flatten_cons, List.pairwise_append, findings_inOrder_iff,
        ih (setting.nextBlock block line) later]
      cases read : CodeLine.ofLine? line with
      | none =>
          rw [List.filterMap_cons_none read]
          exact ⟨fun parts => parts.2.1, fun orderly => ⟨by simp, orderly, across⟩⟩
      | some code =>
          rw [List.filterMap_cons_some read, List.forall_mem_cons]
          exact ⟨fun parts => ⟨parts.1 code rfl, parts.2.1⟩, fun orderly =>
            ⟨fun other same => Option.some.inj same ▸ orderly.1, orderly.2, across⟩⟩

end Setting

/-- Lines are numbered from the top. -/
theorem Document.numbered_increasing (document : Document) :
    document.numbered.Pairwise fun upper lower => upper.number < lower.number := by
  have numbers : (document.lines.zipIdx.map Prod.snd).Pairwise (· < ·) := by
    rw [List.zipIdx_map_snd]
    exact List.pairwise_lt_range'
  rw [numbered, List.pairwise_map]
  exact List.pairwise_map.mp numbers

namespace Validation

/-- The diagnostics of the lines come in the order of their places exactly when no line reports a
refused argument and an absent one. -/
theorem validate_inOrder_iff (document : Document) (catalog : Catalog) (options : Options)
    (services : Services) (directory : Option Path)
    (resolved : document.directory services.workplace = .ok directory) :
    let setting : Setting := ⟨catalog, options, directory⟩
    ∃ report, validate document catalog options services = .ok report ∧
      report.diagnostics =
        lineDiagnostics document setting services.probe ++
          (checkWhole document services.checker).diagnostics ∧
      ((lineDiagnostics document setting services.probe).Pairwise Diagnostic.InOrder ↔
        ∀ code ∈ document.codeLines, ¬ setting.ReportsBack code) := by
  intro setting
  obtain ⟨report, returned, parts⟩ :=
    validate_report document catalog options services resolved
  refine ⟨report, returned, parts, ?_⟩
  by_cases empty : setting.catalog.isEmpty = true
  · rw [lineDiagnostics_of_isEmpty document services.probe empty]
    simp [Setting.ReportsBack, Setting.route_of_isEmpty empty]
  · rw [lineDiagnostics_of_commands document services.probe empty]
    exact setting.allFindings_inOrder_iff services.probe .outside document.numbered_increasing

/-- A refused operator and an absent value are reported against the order. -/
theorem validate_inOrder_iff_level :
    let equality : Parameter := ⟨.operator, true, some .equality, none, none⟩
    let value : Parameter := ⟨.string, true, some .quoted, none, none⟩
    let catalog : Catalog := [⟨['L'], .conditions, [[equality, value]]⟩]
    let options : Options := ⟨.sequential, 3, 3, ['C'], [], ['O']⟩
    let document : Document := ⟨[['L', ' ', 'x']], none⟩
    let services : Services := ⟨.top, fun _ => some true, .silent⟩
    document.directory services.workplace = .ok none ∧
      ∃ report, validate document catalog options services = .ok report ∧
        ¬ report.diagnostics.Pairwise Diagnostic.InOrder := by
  intro equality value catalog options document services
  obtain ⟨report, returned, parts, inOrder_iff⟩ :=
    validate_inOrder_iff document catalog options services none rfl
  refine ⟨rfl, report, returned, ?_⟩
  have silent : (checkWhole document services.checker).diagnostics = [] := rfl
  rw [parts, silent, List.append_nil, inOrder_iff]
  intro orderly
  let code : CodeLine := ⟨⟨0, ['L', ' ', 'x']⟩, ⟨['L'], 0⟩, [⟨['x'], 2⟩]⟩
  have member : code ∈ document.codeLines := by decide
  exact orderly code member ⟨[equality, value], rfl,
    ⟨(equality, ⟨['x'], 2⟩), by decide, by decide⟩, value, by decide, rfl⟩

end Validation

end ItemFilter
