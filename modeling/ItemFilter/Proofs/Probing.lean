/-
This file says which paths are looked up. Where a document has a path, each of them is empty or
absolute: a relative sound path is taken from the directory of the document, part by part.
-/

import ItemFilter.Proofs.Catalog
import ItemFilter.Proofs.Outcome

namespace ItemFilter

namespace Text

theorem pieces_eq_splitOn (separator : Char) (text : Text) :
    text.pieces separator = text.splitOn separator := by
  induction text with
  | nil => exact (List.splitOn_nil separator).symm
  | cons character rest ih =>
      rw [List.splitOn_cons_eq_if_modifyHead, ← ih, pieces]
      by_cases cut : character = separator
      · rw [if_pos cut, if_pos (beq_iff_eq.mpr cut)]
      · rw [if_neg cut, if_neg (mt beq_iff_eq.mp cut)]
        have nonempty : pieces separator rest ≠ [] := ih ▸ List.splitOnP_ne_nil _ rest
        obtain ⟨first, others, parts⟩ := List.exists_cons_of_ne_nil nonempty
        rw [parts, List.modifyHead_cons]

/-- No piece holds the separator. -/
theorem separator_notMem_of_mem_pieces {separator : Char} {text piece : Text}
    (member : piece ∈ text.pieces separator) : separator ∉ piece := by
  fun_induction pieces separator text generalizing piece with
  | case1 =>
      obtain rfl := List.mem_singleton.mp member
      exact List.not_mem_nil
  | case2 rest ih =>
      rcases List.mem_cons.mp member with rfl | later
      · exact List.not_mem_nil
      · exact ih later
  | case3 character rest other parts ih =>
      obtain rfl := List.mem_singleton.mp member
      rw [List.mem_singleton]
      exact Ne.symm other
  | case4 character rest other first others parts ih =>
      rw [parts] at ih
      rcases List.mem_cons.mp member with rfl | later
      · rw [List.mem_cons, not_or]
        exact ⟨Ne.symm other, ih List.mem_cons_self⟩
      · exact ih (List.mem_cons_of_mem first later)

end Text

namespace Path

/-- The written path begins at the root. -/
def FromRoot (written : Text) : Prop :=
  ['/'] <+: written

/-- The parts are what stands between the slashes of the written path, less those that are empty or
a single dot. -/
def Spells (written : Text) (parts : List Text) : Prop :=
  ∃ pieces : List Text, ['/'].intercalate pieces = written ∧ (∀ piece ∈ pieces, '/' ∉ piece) ∧
    parts = pieces.filter fun piece => decide (piece ≠ [] ∧ piece ≠ ['.'])

theorem rootOf_ne_nil_iff (written : Text) : rootOf written ≠ [] ↔ FromRoot written := by
  cases written with
  | nil => simp [rootOf, FromRoot]
  | cons character rest =>
      by_cases slash : character = '/'
      · subst slash
        refine iff_of_true ?_ ⟨rest, rfl⟩
        rw [rootOf, List.takeWhile_cons_of_pos (by simp), List.length_cons]
        split
        · next none => cases none
        · exact List.cons_ne_nil _ _
        · exact List.cons_ne_nil _ _
      · simp [rootOf, FromRoot, slash, Ne.symm slash]

theorem isAbsolute_ofText_iff (written : Text) :
    (ofText written).isAbsolute = true ↔ FromRoot written := by
  rw [isAbsolute, Bool.not_eq_true', List.isEmpty_eq_false_iff]
  exact rootOf_ne_nil_iff written

theorem parts_ofText (written : Text) :
    (ofText written).parts =
      (written.splitOn '/').filter fun piece => decide (piece ≠ [] ∧ piece ≠ ['.']) := by
  rw [ofText, Text.pieces_eq_splitOn]
  refine List.filter_congr fun piece _ => ?_
  rw [Bool.eq_iff_iff]
  simp [isNamed]

/-- A path that is not empty spells its parts and no others. -/
theorem spells_iff {written : Text} (nonempty : written ≠ []) (parts : List Text) :
    Spells written parts ↔ parts = (ofText written).parts := by
  rw [parts_ofText]
  constructor
  · rintro ⟨pieces, rfl, apart, rfl⟩
    have some : pieces ≠ [] := by
      rintro rfl
      exact nonempty rfl
    rw [List.splitOn_intercalate '/' apart some]
  · rintro rfl
    refine ⟨written.splitOn '/', List.intercalate_splitOn '/', fun piece member => ?_, rfl⟩
    rw [← Text.pieces_eq_splitOn] at member
    exact Text.separator_notMem_of_mem_pieces member

/-- An absolute path is resolved without the working directory. -/
theorem resolve_of_fromRoot {written : Text} (absolute : FromRoot written) (workplace : Path) :
    (ofText written).resolve workplace = ⟨['/'], fold (ofText written).parts⟩ := by
  rw [resolve, join, if_pos ((isAbsolute_ofText_iff written).mpr absolute)]

theorem text_of_root {path : Path} (root : path.root = ['/']) :
    path.text = '/' :: ['/'].intercalate path.parts := by
  rw [text, root]
  rfl

end Path

theorem Document.directory_of_path {document : Document} {path : Text}
    (placed : document.path = some path) (plain : '\x00' ∉ path) (workplace : Path) :
    document.directory workplace = .ok (some ((Path.ofText path).resolve workplace).parent) := by
  simp [directory, placed, plain]

namespace Sound

/-- The path that is looked up for a written one: the same if it is empty or absolute, and otherwise
the directory followed by the parts of the written path. -/
def LookedUp (directory : Path) (written path : Text) : Prop :=
  (written = [] ∨ Path.FromRoot written) ∧ path = written ∨
    written ≠ [] ∧ ¬ Path.FromRoot written ∧ ∃ parts, Path.Spells written parts ∧
      path = '/' :: ['/'].intercalate (directory.parts ++ parts)

theorem lookedUp_iff {directory : Path} (root : directory.root = ['/']) (written path : Text) :
    LookedUp directory written path ↔ path = lookupPath written (some directory) := by
  by_cases asWritten : written = [] ∨ Path.FromRoot written
  · have kept : (written.isEmpty || (Path.ofText written).isAbsolute) = true := by
      rwa [Bool.or_eq_true, List.isEmpty_iff, Path.isAbsolute_ofText_iff]
    simp only [LookedUp, lookupPath, kept, asWritten, true_and, if_true, or_iff_left_iff_imp]
    rintro ⟨nonempty, relative, -⟩
    exact absurd asWritten (not_or.mpr ⟨nonempty, relative⟩)
  · obtain ⟨nonempty, relative⟩ := not_or.mp asWritten
    have below : ¬ (Path.ofText written).isAbsolute = true :=
      mt (Path.isAbsolute_ofText_iff written).mp relative
    have joined : lookupPath written (some directory) =
        '/' :: ['/'].intercalate (directory.parts ++ (Path.ofText written).parts) := by
      simp only [lookupPath, List.isEmpty_iff, nonempty, below, Bool.or_eq_true, Path.join]
      exact Path.text_of_root root
    simp only [LookedUp, false_and, false_or, ne_eq, nonempty, relative, not_false_eq_true,
      true_and, Path.spells_iff nonempty, exists_eq_left, joined]

theorem LookedUp.fromRoot {directory : Path} {written path : Text}
    (lookedUp : LookedUp directory written path) : path = [] ∨ Path.FromRoot path := by
  rcases lookedUp with ⟨asWritten, rfl⟩ | ⟨-, -, parts, -, rfl⟩
  · exact asWritten
  · exact .inr ⟨_, rfl⟩

end Sound

namespace Setting

/-- A line is sent to the check of sound files if its command is known, plays a sound and sets no
color, unless it opens a block. -/
theorem route_eq_sound_iff (setting : Setting) (code : CodeLine) :
    setting.route code = .sound ↔
      ¬ setting.opensBlock code = true ∧ code.command.text ∈ setting.catalog.names ∧
        ¬ setting.options.isColor code.command.text = true ∧
        setting.options.isSound code.command.text = true := by
  have known := Catalog.find?_eq_none_iff setting.catalog code.command.text
  unfold route
  by_cases opens : setting.opensBlock code = true
  · simp [opens]
  · cases found : setting.catalog.find? code.command.text with
    | none =>
        have absent := known.mp found
        simp [opens, absent]
    | some command =>
        have present : code.command.text ∈ setting.catalog.names := by
          apply Decidable.byContradiction
          intro absent
          rw [known.mpr absent] at found
          cases found
        by_cases color : setting.options.isColor code.command.text = true
        · simp [opens, color]
        · by_cases sound : setting.options.isSound code.command.text = true <;>
            simp [opens, color, sound, present]

theorem opensBlock_of_argument {setting : Setting} {code : CodeLine} {argument : Token}
    (first : code.arguments.head? = some argument) : ¬ setting.opensBlock code = true := by
  intro opens
  have bare := List.isEmpty_iff.mp (Bool.and_eq_true_iff.mp opens).1
  rw [bare] at first
  cases first

theorem questions_ofExcept (result : Except NumeralTooLong (List Diagnostic)) :
    (ofExcept result).questions = [] := by
  cases result <;> rfl

/-- Only a sound command with an argument asks for a file. -/
theorem mem_questions_judge_iff (setting : Setting) (block : BlockState) (code : CodeLine)
    (path : Text) :
    path ∈ (setting.judge block code).questions ↔
      setting.route code = .sound ∧ ∃ argument, code.arguments.head? = some argument ∧
        path = Sound.lookupPath argument.unquoted setting.directory := by
  rw [judge_eq]
  cases route : setting.route code with
  | opener | unknown => simp [Verdict.questions]
  | color | fitted => simp [questions_ofExcept]
  | sound =>
      cases arguments : code.arguments with
      | nil => simp [Sound.check, arguments, Verdict.questions]
      | cons argument others => simp [Sound.check, arguments, Verdict.questions]

end Setting

/-- The paths that are called are those that are asked for. -/
theorem Probe.mem_remaining_nil_iff (probe : Probe) (calls : List Text) (path : Text) :
    path ∈ probe.remaining [] calls ↔ path ∈ calls := by
  rw [← List.count_pos_iff, ← List.count_pos_iff, probe.count_remaining]
  split
  · rw [if_neg List.not_mem_nil]
    omega
  · rfl

namespace Validation

theorem mem_lineCalls_iff (document : Document) (setting : Setting) (probe : Probe)
    (path : Text) :
    path ∈ lineCalls document setting probe ↔
      ∃ code ∈ document.codeLines, setting.route code = .sound ∧
        ∃ argument, code.arguments.head? = some argument ∧
          path = Sound.lookupPath argument.unquoted setting.directory := by
  have asked (code : CodeLine) := setting.mem_questions_judge_iff .outside code path
  by_cases empty : setting.catalog.isEmpty = true
  · rw [lineCalls_of_isEmpty document probe empty]
    simp [Setting.route_of_isEmpty empty]
  · rw [lineCalls_of_commands document probe empty, probe.mem_remaining_nil_iff, List.mem_flatMap]
    constructor
    · rintro ⟨line, present, member⟩
      cases read : CodeLine.ofLine? line with
      | none =>
          rw [setting.questions_of_none read] at member
          cases member
      | some code =>
          rw [setting.questions_of_code read, asked] at member
          exact ⟨code, List.mem_filterMap.mpr ⟨line, present, read⟩, member⟩
    · rintro ⟨code, member, asks⟩
      obtain ⟨line, present, read⟩ := List.mem_filterMap.mp member
      refine ⟨line, present, ?_⟩
      rw [setting.questions_of_code read, asked]
      exact asks

/-- A document whose directory is known makes the calls of its lines. -/
theorem validate_calls (document : Document) (catalog : Catalog) (options : Options)
    (services : Services) {directory : Option Path}
    (resolved : document.directory services.workplace = .ok directory) :
    ∃ report, validate document catalog options services = .ok report ∧
      report.calls = lineCalls document ⟨catalog, options, directory⟩ services.probe := by
  have outcome := validate_outcome document catalog options services
  cases result : validate document catalog options services with
  | error fault =>
      rw [result, resolved] at outcome
      split at outcome <;> cases outcome
  | ok report =>
      refine ⟨report, rfl, ?_⟩
      rw [result, resolved] at outcome
      by_cases empty : catalog.isEmpty = true
      · rw [if_pos empty] at outcome
        have calls := (Prod.mk.inj (Except.ok.inj outcome)).2
        rw [calls, lineCalls_of_isEmpty document services.probe empty,
          lineCalls_of_isEmpty document services.probe empty]
      · rw [if_neg empty] at outcome
        exact (Prod.mk.inj (Except.ok.inj outcome)).2

/-- The working directory matters only for the directory of the document. -/
theorem validate_congr_workplace (document : Document) (catalog : Catalog) (options : Options)
    (services : Services) {workplace : Path}
    (same : document.directory workplace = document.directory services.workplace) :
    validate document catalog options { services with workplace := workplace } =
      validate document catalog options services := by
  simp only [validate, same]

/-- Where a document has a path without null characters, its validation looks up only paths that
are empty or absolute. They are those that its sound lines have written: as they are if they are
empty or absolute, and otherwise the directory of the document followed by the parts of the written
path. The working directory does not matter if the path of the document is absolute. -/
theorem validate_looksUp_fromRoot {document : Document} {path : Text}
    (placed : document.path = some path) (plain : '\x00' ∉ path) (catalog : Catalog)
    (options : Options) (services : Services) :
    ∃ directory report,
      document.directory services.workplace = .ok (some directory) ∧
      directory.text = '/' :: ['/'].intercalate directory.parts ∧
      validate document catalog options services = .ok report ∧
      (∀ call ∈ report.calls, call = [] ∨ Path.FromRoot call) ∧
      (∀ call, call ∈ report.calls ↔
        ∃ code ∈ document.codeLines, code.command.text ∈ catalog.names ∧
          ¬ options.isColor code.command.text = true ∧
          options.isSound code.command.text = true ∧
          ∃ argument, code.arguments.head? = some argument ∧
            Sound.LookedUp directory argument.unquoted call) ∧
      (Path.FromRoot path → ∀ workplace,
        validate document catalog options { services with workplace := workplace } =
          .ok report) := by
  have resolved := Document.directory_of_path placed plain
  obtain ⟨report, returned, calls⟩ :=
    validate_calls document catalog options services (resolved services.workplace)
  let directory := ((Path.ofText path).resolve services.workplace).parent
  have root : directory.root = ['/'] := rfl
  have called (call : Text) : call ∈ report.calls ↔
      ∃ code ∈ document.codeLines, code.command.text ∈ catalog.names ∧
        ¬ options.isColor code.command.text = true ∧ options.isSound code.command.text = true ∧
        ∃ argument, code.arguments.head? = some argument ∧
          Sound.LookedUp directory argument.unquoted call := by
    rw [calls, mem_lineCalls_iff]
    simp only [Setting.route_eq_sound_iff, Sound.lookedUp_iff root]
    constructor
    · rintro ⟨code, member, ⟨-, known, noColor, sound⟩, asks⟩
      exact ⟨code, member, known, noColor, sound, asks⟩
    · rintro ⟨code, member, known, noColor, sound, argument, first, asks⟩
      exact ⟨code, member, ⟨Setting.opensBlock_of_argument first, known, noColor, sound⟩, argument,
        first, asks⟩
  refine ⟨directory, report, resolved services.workplace, Path.text_of_root root, returned, ?_,
    called, ?_⟩
  · intro call member
    obtain ⟨code, -, -, -, -, argument, -, lookedUp⟩ := (called call).mp member
    exact lookedUp.fromRoot
  · intro absolute workplace
    rw [← returned]
    apply validate_congr_workplace
    rw [resolved, resolved, Path.resolve_of_fromRoot absolute,
      Path.resolve_of_fromRoot absolute services.workplace]

/-- The path of the document is relative. Of the four written paths, one has parts that say nothing,
one has a root of its own, one is empty and one names the directory itself. -/
theorem validate_looksUp_fromRoot_dots :
    let path := "f/../g/./a.filter".toList
    let document : Document := ⟨["Play \".//x/../y/\" 50".toList, "Play //b/.".toList,
      "Play \"\"".toList, "Play .".toList], some path⟩
    let catalog : Catalog := [⟨"Play".toList, .actions, [[]]⟩]
    let options : Options := { Options.standard with soundCommands := ["Play".toList] }
    let services : Services := ⟨⟨['/'], ["home".toList]⟩, fun _ => some false, .silent⟩
    document.path = some path ∧ '\x00' ∉ path ∧
      ∃ report, validate document catalog options services = .ok report ∧
        report.calls = ["/home/g/x/../y".toList, "//b/.".toList, [], "/home/g".toList] ∧
        ∀ call ∈ report.calls, call = [] ∨ Path.FromRoot call := by
  intro path document catalog options services
  have plain : '\x00' ∉ path := by decide
  obtain ⟨directory, report, -, -, returned, fromRoot, -, -⟩ :=
    @validate_looksUp_fromRoot document path rfl plain catalog options services
  have calls : (validate document catalog options services).map Report.calls =
      .ok ["/home/g/x/../y".toList, "//b/.".toList, [], "/home/g".toList] := by
    decide +kernel
  rw [returned] at calls
  exact ⟨rfl, plain, report, returned, Except.ok.inj calls, fromRoot⟩

end Validation

end ItemFilter
