/-
This file compares the two analyses of blocks. The pass reports the second of two openers that
follow each other, and the check of the whole document reports the first.
-/

import Mathlib.Data.Set.Function
import ItemFilter.Proofs.Catalog
import ItemFilter.Proofs.Nesting

namespace ItemFilter

/-- The pairs of code lines that follow each other and both open a block. -/
def openerPairs (opens : CodeLine → Bool) (codes : List CodeLine) : List (CodeLine × CodeLine) :=
  (codes.zip codes.tail).filter fun pair => opens pair.1 && opens pair.2

theorem openerPairs_cons_cons (opens : CodeLine → Bool) (first second : CodeLine)
    (rest : List CodeLine) :
    openerPairs opens (first :: second :: rest) =
      if opens first && opens second then (first, second) :: openerPairs opens (second :: rest)
      else openerPairs opens (second :: rest) := by
  simp [openerPairs, List.filter_cons]

/-- A rule is in no pair. -/
theorem openerPairs_cons_of_rule {opens : CodeLine → Bool} {code : CodeLine}
    (rule : ¬ opens code = true) (rest : List CodeLine) :
    openerPairs opens (code :: rest) = openerPairs opens rest := by
  cases rest with
  | nil => rfl
  | cons second others => simp [openerPairs_cons_cons, rule]

namespace EmptyBlock

/-- The openers of blocks without rules: another opener or the end of the document follows. -/
def emptyOpeners (opens : CodeLine → Bool) (codes : List CodeLine) : List CodeLine :=
  (openerPairs opens codes).map Prod.fst ++ (codes.getLast?.filter opens).toList

theorem mem_emptyOpeners_iff {opens : CodeLine → Bool} {codes : List CodeLine} {code : CodeLine} :
    code ∈ emptyOpeners opens codes ↔
      (∃ pair ∈ openerPairs opens codes, pair.1 = code) ∨
        codes.getLast? = some code ∧ opens code = true := by
  rw [emptyOpeners, List.mem_append, List.mem_map, Option.mem_toList, Option.filter_eq_some_iff]

theorem emptyOpeners_cons_of_rule {opens : CodeLine → Bool} {code : CodeLine}
    (rule : ¬ opens code = true) (rest : List CodeLine) :
    emptyOpeners opens (code :: rest) = emptyOpeners opens rest := by
  rw [emptyOpeners, emptyOpeners, openerPairs_cons_of_rule rule, List.getLast?_cons]
  cases rest.getLast? with
  | none => simp [Option.filter, rule]
  | some last => rfl

theorem emptyOpeners_cons_cons {opens : CodeLine → Bool} {first second : CodeLine}
    (opener : opens first = true) (rest : List CodeLine) :
    emptyOpeners opens (first :: second :: rest) =
      if opens second then first :: emptyOpeners opens (second :: rest)
      else emptyOpeners opens (second :: rest) := by
  rw [emptyOpeners, emptyOpeners, openerPairs_cons_cons, List.getLast?_cons_cons, opener,
    Bool.true_and]
  split <;> rfl

/-- Code lines may move without changing which blocks are empty. -/
theorem emptyOpeners_map {opens : CodeLine → Bool} {move : CodeLine → CodeLine}
    (same : ∀ code, opens (move code) = opens code) (codes : List CodeLine) :
    emptyOpeners opens (codes.map move) = (emptyOpeners opens codes).map move := by
  have pairs : openerPairs opens (codes.map move) =
      (openerPairs opens codes).map (Prod.map move move) := by
    rw [openerPairs, openerPairs, ← List.map_tail, List.zip_map, List.filter_map]
    simp only [Function.comp_def, Prod.map_fst, Prod.map_snd, same]
  have last : (codes.map move).getLast?.filter opens =
      (codes.getLast?.filter opens).map move := by
    rw [List.getLast?_map]
    cases codes.getLast? with
    | none => rfl
    | some code => cases opener : opens code <;> simp [Option.filter, same, opener]
  rw [emptyOpeners, emptyOpeners, pairs, last, List.map_append, List.map_map, List.map_map,
    Option.toList_map]
  rfl

/-- The check reports the openers of blocks without rules. The opener that waits for a rule is taken
as the first of the code lines. -/
theorem checkFrom_eq (names : List Text) (waiting : Option CodeLine) (codes : List CodeLine)
    (opener : ∀ code ∈ waiting, isOpener names code = true) :
    checkFrom names waiting codes =
      (emptyOpeners (isOpener names) (waiting.toList ++ codes)).map report := by
  induction codes generalizing waiting with
  | nil =>
      cases waiting with
      | none => rfl
      | some code => simp [checkFrom, emptyOpeners, openerPairs, Option.filter, opener code rfl]
  | cons code rest ih =>
      by_cases opens : isOpener names code = true
      · have later := ih (some code) fun _ same => Option.some.inj same ▸ opens
        simp only [checkFrom, opens, if_true, later]
        cases waiting with
        | none => rfl
        | some first =>
            simp [emptyOpeners_cons_cons (opener first rfl), opens]
      · have later := ih none (by simp)
        simp only [checkFrom, opens, later]
        cases waiting with
        | none => simp [emptyOpeners_cons_of_rule opens]
        | some first =>
            simp [emptyOpeners_cons_cons (opener first rfl), opens, emptyOpeners_cons_of_rule opens]

theorem check_eq (names : List Text) (document : Document) :
    check names document = (emptyOpeners (isOpener names) document.codeLines).map report :=
  checkFrom_eq names none document.codeLines (by simp)

/-- The checker and the pass know the same openers. -/
theorem isOpener_eq {names : List Text} {catalog : Catalog}
    (listed : ∀ name, name ∈ names ↔
      ∃ command, catalog.find? name = some command ∧ command.isBlock = true) :
    isOpener names = catalog.isOpener := by
  funext code
  have known : names.contains code.command.text =
      (catalog.find? code.command.text).any Command.isBlock := by
    rw [Bool.eq_iff_iff, List.contains_iff_mem, listed, Option.any_eq_true]
  rw [isOpener, Catalog.isOpener, known]

end EmptyBlock

/-- Where blocks may follow each other, the pass reports the second opener of each pair. The code
line before the lines is taken as the first of the code lines. -/
theorem Setting.filter_nestedBlock_allFindings {setting : Setting}
    (sequential : setting.options.blockMode = .sequential) (probe : Probe) (block : BlockState)
    (previous : Option CodeLine)
    (opened : block = .opened ↔ ∃ code, previous = some code ∧ setting.opensBlock code = true)
    (lines : List Line) :
    (setting.allFindings probe block lines).flatten.filter (·.code == .nestedBlock) =
      (openerPairs setting.opensBlock
        (previous.toList ++ lines.filterMap CodeLine.ofLine?)).map
          fun pair => .plain .nestedBlock pair.2.line.span := by
  induction lines generalizing block previous with
  | nil => cases previous <;> rfl
  | cons line rest ih =>
      rw [allFindings, List.flatten_cons, List.filter_append]
      cases read : CodeLine.ofLine? line with
      | none =>
          rw [setting.findings_of_none probe block read, setting.nextBlock_of_none block read,
            List.filterMap_cons_none read, ih block previous opened]
          rfl
      | some code =>
          have later := ih (setting.nextBlock block line) (some code) (by
            rw [setting.nextBlock_of_code block read, BlockState.next_eq_opened_iff]
            simp)
          have nests : block.nests setting.options.blockMode = true ↔
              ∃ code, previous = some code ∧ setting.opensBlock code = true := by
            rw [sequential, BlockState.nests_sequential_iff, opened]
          rw [setting.filter_nestedBlock_findings probe block read, later,
            List.filterMap_cons_some read]
          cases previous with
          | none =>
              have apart : block.nests setting.options.blockMode = false := by
                simpa using nests
              simp [apart]
          | some first =>
              have same : block.nests setting.options.blockMode = setting.opensBlock first := by
                rw [Bool.eq_iff_iff, nests]
                simp
              simp only [same, Option.toList_some, List.cons_append, List.nil_append,
                openerPairs_cons_cons]
              cases setting.opensBlock first <;> cases setting.opensBlock code <;> rfl

namespace Catalog

/-- Under distinct names, the section of blocks names the commands that open blocks. -/
theorem mem_names_inSection_blocks_iff (catalog : Catalog) (distinct : catalog.names.Nodup)
    (name : Text) :
    name ∈ names (catalog.inSection .blocks) ↔
      ∃ command, catalog.find? name = some command ∧ command.isBlock = true := by
  constructor
  · intro listed
    obtain ⟨command, chosen, rfl⟩ := List.mem_map.mp listed
    obtain ⟨member, block⟩ := List.mem_filter.mp chosen
    exact ⟨command, find?_of_mem distinct member, block⟩
  · rintro ⟨command, found, block⟩
    have named : command.name = name := by simpa using List.find?_some found
    exact List.mem_map.mpr
      ⟨command, List.mem_filter.mpr ⟨List.mem_of_find?_eq_some found, block⟩, named⟩

end Catalog

namespace Document

/-- The next code line below a line. -/
def nextCode? (document : Document) (number : Nat) : Option Nat :=
  (document.codeLines.find? fun code => decide (number < code.line.number)).map (·.line.number)

theorem codeLines_increasing (document : Document) :
    document.codeLines.Pairwise fun upper lower => upper.line.number < lower.line.number := by
  refine document.numbered_increasing.filterMap CodeLine.ofLine? ?_
  intro upper lower above code read other readOther
  rw [(CodeLine.ofLine?_tokens read).1, (CodeLine.ofLine?_tokens readOther).1]
  exact above

/-- In increasing code lines, the first one below a code line is the one that follows it. -/
theorem find?_of_mem_zip_tail {codes : List CodeLine}
    (increasing : codes.Pairwise fun upper lower => upper.line.number < lower.line.number)
    {pair : CodeLine × CodeLine} (member : pair ∈ codes.zip codes.tail) :
    codes.find? (fun code => decide (pair.1.line.number < code.line.number)) = some pair.2 := by
  induction codes with
  | nil => cases member
  | cons first rest ih =>
      cases rest with
      | nil => cases member
      | cons second others =>
          obtain ⟨above, later⟩ := List.pairwise_cons.mp increasing
          rcases List.mem_cons.mp member with rfl | member
          · have next := above second List.mem_cons_self
            simp [next]
          · have upper := above pair.1 (List.of_mem_zip member).1
            rw [List.find?_cons_of_neg (by simp; omega)]
            exact ih later member

theorem nextCode?_of_mem_openerPairs {document : Document} {opens : CodeLine → Bool}
    {pair : CodeLine × CodeLine} (member : pair ∈ openerPairs opens document.codeLines) :
    document.nextCode? pair.1.line.number = some pair.2.line.number := by
  rw [nextCode?, find?_of_mem_zip_tail document.codeLines_increasing (List.mem_filter.mp member).1]
  rfl

/-- No code line stands below the last one. -/
theorem nextCode?_of_getLast? {document : Document} {last : CodeLine}
    (ends : document.codeLines.getLast? = some last) :
    document.nextCode? last.line.number = none := by
  have increasing := document.codeLines_increasing
  obtain ⟨before, split⟩ := List.getLast?_eq_some_iff.mp ends
  rw [split] at increasing
  rw [nextCode?, Option.map_eq_none_iff, List.find?_eq_none, split]
  intro code member
  have above := (List.pairwise_append.mp increasing).2.2 code
  rcases List.mem_append.mp member with upper | same
  · have := above upper last (List.mem_singleton_self last)
    simp only [decide_eq_true_eq]
    omega
  · obtain rfl := List.mem_singleton.mp same
    simp

/-- A code line follows one other at most. -/
theorem eq_of_mem_openerPairs {document : Document} {opens : CodeLine → Bool}
    {left right : CodeLine × CodeLine} (leftMember : left ∈ openerPairs opens document.codeLines)
    (rightMember : right ∈ openerPairs opens document.codeLines)
    (same : left.2.line.number = right.2.line.number) : left = right := by
  have seconds : (document.codeLines.zip document.codeLines.tail).map Prod.snd =
      document.codeLines.tail := List.map_snd_zip (by simp)
  have distinct : ((document.codeLines.zip document.codeLines.tail).map
      fun pair => pair.2.line.number).Nodup := by
    have numbers : (((document.codeLines.zip document.codeLines.tail).map Prod.snd).map
        (·.line.number)).Nodup := by
      rw [seconds]
      refine List.pairwise_map.mpr ?_
      exact (document.codeLines_increasing.sublist (List.tail_sublist _)).imp Nat.ne_of_lt
    rwa [List.map_map] at numbers
  exact List.inj_on_of_nodup_map distinct (List.mem_filter.mp leftMember).1
    (List.mem_filter.mp rightMember).1 same

end Document

namespace Report

/-- The diagnostics of a report that have the code. -/
def about (report : Report) (code : Code) : List Diagnostic :=
  report.diagnostics.filter (·.code == code)

/-- The lines that get a diagnostic with the code. -/
def marked (report : Report) (code : Code) : Set Nat :=
  {number | ∃ diagnostic ∈ report.about code, diagnostic.span.line = number}

end Report

/-- The lines report no empty blocks. -/
theorem Setting.emptyBlock_notMem_allFindings (setting : Setting) (probe : Probe)
    (block : BlockState) (lines : List Line) :
    ∀ diagnostic ∈ (setting.allFindings probe block lines).flatten,
      diagnostic.code ≠ .emptyBlock := by
  induction lines generalizing block with
  | nil => simp [allFindings]
  | cons line rest ih =>
      rw [allFindings, List.flatten_cons, List.forall_mem_append]
      refine ⟨fun diagnostic reported empty => ?_, ih _⟩
      cases read : CodeLine.ofLine? line with
      | none =>
          rw [setting.findings_of_none probe block read] at reported
          cases reported
      | some code =>
          have known := setting.findings_code probe block read reported
          rw [empty] at known
          cases route : setting.route code <;> simp [route, Route.codes] at known

theorem openerPairs_of_isEmpty {catalog : Catalog} (empty : catalog.isEmpty = true)
    (codes : List CodeLine) : openerPairs catalog.isOpener codes = [] := by
  simp [openerPairs, Catalog.isOpener_of_isEmpty empty]

namespace Validation

/-- The nested blocks are reported by the lines. -/
theorem about_nestedBlock {report : Report} {document : Document} {setting : Setting}
    {probe : Probe} {openers : List Text} (sequential : setting.options.blockMode = .sequential)
    (parts : report.diagnostics = lineDiagnostics document setting probe ++
      EmptyBlock.check openers document) :
    report.about .nestedBlock =
      (openerPairs setting.catalog.isOpener document.codeLines).map
        fun pair => .plain .nestedBlock pair.2.line.span := by
  have whole : (EmptyBlock.check openers document).filter (·.code == .nestedBlock) = [] := by
    rw [EmptyBlock.check_eq, List.filter_map]
    simp [EmptyBlock.report, Diagnostic.make, Function.comp_def]
  rw [Report.about, parts, List.filter_append, whole, List.append_nil]
  by_cases empty : setting.catalog.isEmpty = true
  · rw [lineDiagnostics_of_isEmpty document probe empty, openerPairs_of_isEmpty empty]
    rfl
  · rw [lineDiagnostics_of_commands document probe empty]
    exact Setting.filter_nestedBlock_allFindings sequential probe .outside none (by simp)
      document.numbered

/-- The empty blocks are reported by the checker. -/
theorem about_emptyBlock {report : Report} {document : Document} {setting : Setting}
    {probe : Probe} {openers : List Text}
    (parts : report.diagnostics = lineDiagnostics document setting probe ++
      EmptyBlock.check openers document) :
    report.about .emptyBlock =
      (EmptyBlock.emptyOpeners (EmptyBlock.isOpener openers) document.codeLines).map
        EmptyBlock.report := by
  have lines : (lineDiagnostics document setting probe).filter (·.code == .emptyBlock) = [] := by
    refine List.filter_eq_nil_iff.mpr fun diagnostic reported => ?_
    by_cases empty : setting.catalog.isEmpty = true
    · rw [lineDiagnostics_of_isEmpty document probe empty] at reported
      cases reported
    · rw [lineDiagnostics_of_commands document probe empty] at reported
      simpa using setting.emptyBlock_notMem_allFindings probe .outside document.numbered diagnostic
        reported
  rw [Report.about, parts, List.filter_append, lines, List.nil_append, EmptyBlock.check_eq,
    List.filter_map]
  congr 1
  exact List.filter_eq_self.mpr fun code _ => rfl

end Validation

/-- What a report says about blocks: the second opener of each pair is nested, and the block of the
first one is empty, as is that of an opener in the last code line. -/
structure Report.PairsOpeners (report : Report) (opens : CodeLine → Bool)
    (codes : List CodeLine) : Prop where
  nested : report.about .nestedBlock =
    (openerPairs opens codes).map fun pair => .plain .nestedBlock pair.2.line.span
  empty : report.about .emptyBlock = (EmptyBlock.emptyOpeners opens codes).map EmptyBlock.report

namespace Report.PairsOpeners

theorem mem_marked_nestedBlock_iff {report : Report} {opens : CodeLine → Bool}
    {codes : List CodeLine} (paired : report.PairsOpeners opens codes) (number : Nat) :
    number ∈ report.marked .nestedBlock ↔
      ∃ pair ∈ openerPairs opens codes, pair.2.line.number = number := by
  simp only [marked, paired.nested, Set.mem_ofPred_eq, List.mem_map, exists_exists_and_eq_and]
  rfl

theorem mem_marked_emptyBlock_iff {report : Report} {opens : CodeLine → Bool}
    {codes : List CodeLine} (paired : report.PairsOpeners opens codes) (number : Nat) :
    number ∈ report.marked .emptyBlock ↔
      ∃ code ∈ EmptyBlock.emptyOpeners opens codes, code.line.number = number := by
  simp only [marked, paired.empty, Set.mem_ofPred_eq, List.mem_map, exists_exists_and_eq_and]
  rfl

/-- A line with an empty block and code below it is the first of a pair. -/
theorem exists_pair_of_marked {report : Report} {document : Document} {opens : CodeLine → Bool}
    (paired : report.PairsOpeners opens document.codeLines) {number : Nat}
    (empty : number ∈ report.marked .emptyBlock)
    (later : (document.nextCode? number).isSome = true) :
    ∃ pair ∈ openerPairs opens document.codeLines, pair.1.line.number = number := by
  obtain ⟨code, member, rfl⟩ := (paired.mem_marked_emptyBlock_iff number).mp empty
  rcases EmptyBlock.mem_emptyOpeners_iff.mp member with ⟨pair, first, rfl⟩ | ⟨ends, _⟩
  · exact ⟨pair, first, rfl⟩
  · rw [Document.nextCode?_of_getLast? ends] at later
    cases later

theorem mapsTo_nextCode? {report : Report} {document : Document} {opens : CodeLine → Bool}
    (paired : report.PairsOpeners opens document.codeLines) :
    Set.MapsTo document.nextCode?
      {number ∈ report.marked .emptyBlock | (document.nextCode? number).isSome = true}
      (Set.image some (report.marked .nestedBlock)) := by
  rintro number ⟨empty, later⟩
  obtain ⟨pair, member, rfl⟩ := paired.exists_pair_of_marked empty later
  rw [Document.nextCode?_of_mem_openerPairs member]
  exact Set.mem_image_of_mem some ((paired.mem_marked_nestedBlock_iff _).mpr ⟨pair, member, rfl⟩)

theorem injOn_nextCode? {report : Report} {document : Document} {opens : CodeLine → Bool}
    (paired : report.PairsOpeners opens document.codeLines) :
    Set.InjOn document.nextCode?
      {number ∈ report.marked .emptyBlock | (document.nextCode? number).isSome = true} := by
  rintro left ⟨leftEmpty, leftLater⟩ right ⟨rightEmpty, rightLater⟩ same
  obtain ⟨leftPair, leftMember, rfl⟩ := paired.exists_pair_of_marked leftEmpty leftLater
  obtain ⟨rightPair, rightMember, rfl⟩ := paired.exists_pair_of_marked rightEmpty rightLater
  rw [Document.nextCode?_of_mem_openerPairs leftMember,
    Document.nextCode?_of_mem_openerPairs rightMember] at same
  rw [Document.eq_of_mem_openerPairs leftMember rightMember (Option.some.inj same)]

theorem surjOn_nextCode? {report : Report} {document : Document} {opens : CodeLine → Bool}
    (paired : report.PairsOpeners opens document.codeLines) :
    Set.SurjOn document.nextCode?
      {number ∈ report.marked .emptyBlock | (document.nextCode? number).isSome = true}
      (Set.image some (report.marked .nestedBlock)) := by
  rintro _ ⟨number, nested, rfl⟩
  obtain ⟨pair, member, rfl⟩ := (paired.mem_marked_nestedBlock_iff number).mp nested
  have next := Document.nextCode?_of_mem_openerPairs member
  refine ⟨pair.1.line.number, ⟨?_, by rw [next]; rfl⟩, next⟩
  have first := EmptyBlock.mem_emptyOpeners_iff.mpr (.inl ⟨pair, member, rfl⟩)
  exact (paired.mem_marked_emptyBlock_iff _).mpr ⟨pair.1, first, rfl⟩

/-- There is one more empty block than nested ones if the last code line opens a block. -/
theorem length_sub_length {report : Report} {opens : CodeLine → Bool} {codes : List CodeLine}
    (paired : report.PairsOpeners opens codes) :
    ((report.about .emptyBlock).length : Int) - (report.about .nestedBlock).length =
      if codes.getLast?.any opens then 1 else 0 := by
  rw [paired.empty, paired.nested, List.length_map, List.length_map, EmptyBlock.emptyOpeners,
    List.length_append, List.length_map]
  cases codes.getLast? with
  | none => simp
  | some last =>
      cases opener : opens last with
      | false => simp [Option.filter, opener]
      | true =>
          simp only [Option.filter, opener, if_true, Option.toList_some, List.length_singleton,
            Option.any_some]
          omega

end Report.PairsOpeners

namespace Validation

/-- The two analyses of blocks agree, if the checker is given the names under which the catalog finds
a block command. The next code line leads from the empty blocks with code below them to the nested
blocks, one to one, and only an opener at the end leaves one empty block over. -/
theorem validate_emptyBlock_bijOn (document : Document) (catalog : Catalog) (options : Options)
    (workplace : Path) (probe : Probe) (openers : List Text)
    (sequential : options.blockMode = .sequential)
    (listed : ∀ name, name ∈ openers ↔
      ∃ command, catalog.find? name = some command ∧ command.isBlock = true) :
    match validate document catalog options ⟨workplace, probe, .emptyBlocks openers⟩ with
    | .error fault => document.directory workplace = .error fault
    | .ok report =>
        Set.BijOn document.nextCode?
          {number ∈ report.marked .emptyBlock | (document.nextCode? number).isSome = true}
          (Set.image some (report.marked .nestedBlock)) ∧
        ((report.about .emptyBlock).length : Int) - (report.about .nestedBlock).length =
          if document.codeLines.getLast?.any catalog.isOpener then 1 else 0 := by
  rcases validate_cases document catalog options ⟨workplace, probe, .emptyBlocks openers⟩ with
    ⟨fault, failed, unresolved⟩ | ⟨report, directory, returned, parts⟩
  · rw [failed]
    exact unresolved
  · rw [returned]
    have paired : report.PairsOpeners catalog.isOpener document.codeLines :=
      ⟨about_nestedBlock sequential parts,
        EmptyBlock.isOpener_eq listed ▸ about_emptyBlock parts⟩
    exact ⟨⟨paired.mapsTo_nextCode?, paired.injOn_nextCode?, paired.surjOn_nextCode?⟩,
      paired.length_sub_length⟩

/-- The block of the first opener is empty and the second one is nested, though a comment stands
between them. The opener at the end is empty only. -/
theorem validate_emptyBlock_bijOn_show :
    let opener : Text := ['S', 'h', 'o', 'w']
    let play : Text := ['P', 'l', 'a', 'y']
    let catalog : Catalog := [⟨opener, .blocks, [[]]⟩, ⟨play, .actions, [[]]⟩]
    let options : Options := ⟨.sequential, 3, 3, ['C'], [], ['O']⟩
    let document : Document := ⟨[opener, ['#'], opener, play, opener], none⟩
    let openers := Catalog.names (catalog.inSection .blocks)
    options.blockMode = .sequential ∧
      (∀ name, name ∈ openers ↔
        ∃ command, catalog.find? name = some command ∧ command.isBlock = true) ∧
      ∃ report,
        validate document catalog options ⟨.top, fun _ => none, .emptyBlocks openers⟩ =
          .ok report ∧
        (∃ number ∈ report.marked .emptyBlock, document.nextCode? number = some 2) ∧
        ((report.about .emptyBlock).length : Int) - (report.about .nestedBlock).length = 1 := by
  intro opener play catalog options document openers
  have listed := Catalog.mem_names_inSection_blocks_iff catalog (by decide)
  have agree := validate_emptyBlock_bijOn document catalog options .top (fun _ => none) openers rfl
    listed
  refine ⟨rfl, listed, _, rfl, ?_, agree.2⟩
  obtain ⟨number, ⟨empty, _⟩, next⟩ := agree.1.surjOn
    (Set.mem_image_of_mem some ⟨.plain .nestedBlock ⟨2, 0, 4⟩, by decide, rfl⟩)
  exact ⟨number, empty, next⟩

end Validation

end ItemFilter
