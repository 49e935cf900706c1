/-
This file says that checking several filters is the same as checking them one by one. A run over
files breaks off at a path that cannot be looked up at all. Otherwise it prints what the runs over
its parts print, and the counts of its summary are the sums of theirs.
-/

import ItemFilter.Console.Check
import ItemFilter.Proofs.Probing
import ItemFilter.Proofs.Traversal

namespace ItemFilter.Console

/-- The file at the path can be read, and its content is the text. -/
def Session.Holds (session : Session) (path : Path) (text : Text) : Prop :=
  ∃ content, session.disk.read session.workplace path.text = .ok content ∧
    Text.ofUtf8 content = .ok text

theorem Session.Holds.unique {session : Session} {path : Path} {first second : Text}
    (left : session.Holds path first) (right : session.Holds path second) : first = second := by
  obtain ⟨content, read, valid⟩ := left
  obtain ⟨other, again, alike⟩ := right
  obtain rfl := Except.ok.inj (read.symm.trans again)
  exact Except.ok.inj (valid.symm.trans alike)

namespace Check

/-- The command line is read as the request. -/
def Asks (arguments : List Text) (request : Request) : Prop :=
  ∃ reading, usage.read arguments = .ok reading ∧ Request.ofReading reading = request

/-- The path leads to a directory. -/
def IsDirectory (session : Session) (path : Path) : Prop :=
  '\x00' ∉ path.text ∧
    ∃ place, session.disk.find session.workplace path.text = .ok (place, .directory)

/-- The path cannot be looked up: it holds a null character, or it or one of its names is too
long. -/
def Unusable (session : Session) (path : Path) : Prop :=
  '\x00' ∈ path.text ∨ session.disk.find session.workplace path.text = .error .nameTooLong

/-- The file cannot be read or decoded, or one of its diagnostics is an error. -/
def Faulty (session : Session) (request : Request) (mode : BlockMode) (catalog : Catalog)
    (path : Path) : Prop :=
  (∀ text, ¬ session.Holds path text) ∨
    ∃ text found, session.Holds path text ∧
      report session request mode catalog path text = .ok found ∧
      ∃ diagnostic ∈ found.diagnostics, diagnostic.severity = .error

/-- An entry is counted as an error or as a warning. -/
def Findings.Counted (findings : Findings) : Prop :=
  findings.errors + findings.warnings = findings.lines.length

section Findings

theorem Findings.append_assoc (first second third : Findings) :
    (first.append second).append third = first.append (second.append third) := by
  simp [append, List.append_assoc, Nat.add_assoc]

theorem Findings.append_none (findings : Findings) : findings.append ⟨[], 0, 0⟩ = findings := by
  simp [append]

theorem Findings.none_append (findings : Findings) :
    Findings.append ⟨[], 0, 0⟩ findings = findings := by
  simp [append]

theorem Findings.Counted.append {first second : Findings} (left : first.Counted)
    (right : second.Counted) : (first.append second).Counted := by
  simp only [Counted, Findings.append, List.length_append] at *
  omega

theorem counted_ofDiagnostics (path : Path) (diagnostics : List Diagnostic) :
    (ofDiagnostics path diagnostics).Counted := by
  have counts := List.length_eq_countP_add_countP (l := diagnostics) Diagnostic.isError
  simpa [Findings.Counted, ofDiagnostics] using counts.symm

theorem errors_ofDiagnostics_ne_zero_iff (path : Path) (diagnostics : List Diagnostic) :
    (ofDiagnostics path diagnostics).errors ≠ 0 ↔
      ∃ diagnostic ∈ diagnostics, diagnostic.severity = .error := by
  rw [ofDiagnostics, ← Nat.pos_iff_ne_zero, List.countP_pos_iff]
  simp [Diagnostic.isError]

end Findings

section Tally

/-- The findings of all files together. -/
def tally (session : Session) (request : Request) (mode : BlockMode) (catalog : Catalog)
    (files : List Path) : Except PathFault Findings :=
  (files.mapM (checkFile session request mode catalog)).map
    fun all => all.foldl .append ⟨[], 0, 0⟩

variable (session : Session) (request : Request) (mode : BlockMode) (catalog : Catalog)

theorem foldl_append (start : Findings) (all : List Findings) :
    all.foldl .append start = start.append (all.foldl .append ⟨[], 0, 0⟩) := by
  induction all generalizing start with
  | nil => exact start.append_none.symm
  | cons findings rest ih =>
      rw [List.foldl_cons, List.foldl_cons, ih, ih (Findings.append _ findings),
        Findings.none_append, Findings.append_assoc]

/-- One file after the other: nothing of the first list of files changes what is found in the
second. -/
theorem tally_append (first second : List Path) :
    tally session request mode catalog (first ++ second) = do
      let findings ← tally session request mode catalog first
      let others ← tally session request mode catalog second
      return findings.append others := by
  simp only [tally, List.mapM_append]
  cases first.mapM (checkFile session request mode catalog) with
  | error fault => rfl
  | ok findings =>
      cases second.mapM (checkFile session request mode catalog) with
      | error fault => rfl
      | ok others =>
          change Except.ok ((findings ++ others).foldl Findings.append _) = Except.ok _
          rw [List.foldl_append, foldl_append]

theorem tally_singleton (path : Path) :
    tally session request mode catalog [path] = checkFile session request mode catalog path := by
  rw [tally, List.mapM_cons, List.mapM_nil]
  cases checkFile session request mode catalog path with
  | error fault => rfl
  | ok findings =>
      change Except.ok (Findings.append ⟨[], 0, 0⟩ findings) = _
      rw [Findings.none_append]

theorem checkFile_of_null {path : Path} (null : '\x00' ∈ path.text) :
    checkFile session request mode catalog path = .error .embeddedNull := by
  simp [checkFile, Session.read, null, bind, Except.bind]

/-- The text of a readable file gets a report. -/
theorem exists_report {path : Path} (plain : '\x00' ∉ path.text) (text : Text) :
    ∃ found, report session request mode catalog path text = .ok found := by
  obtain ⟨found, returned, -⟩ := Validation.validate_report
    (.ofText text.unifyNewlines (some path.text)) catalog (.forMode mode) (services session request)
    (Document.directory_of_path rfl plain session.workplace)
  exact ⟨found, returned⟩

/-- A file whose path has no null character is unreadable, or its text is reported on. -/
theorem checkFile_cases {path : Path} (plain : '\x00' ∉ path.text) :
    (∀ text, ¬ session.Holds path text) ∧
        (∃ reason, checkFile session request mode catalog path = .ok (unreadable path reason)) ∨
      ∃ text found, session.Holds path text ∧
        report session request mode catalog path text = .ok found ∧
        checkFile session request mode catalog path =
          .ok (ofDiagnostics path found.diagnostics) := by
  have lookedUp : session.read path = .ok (session.disk.read session.workplace path.text) := by
    simp [Session.read, plain]
  simp only [checkFile, lookedUp]
  cases opened : session.disk.read session.workplace path.text with
  | error fault =>
      refine .inl ⟨?_, _, rfl⟩
      rintro text ⟨content, read, -⟩
      rw [opened] at read
      cases read
  | ok content =>
      cases decoded : Text.ofUtf8 content with
      | error fault =>
          refine .inl ⟨?_, fault.message, ?_⟩
          · rintro text ⟨other, read, valid⟩
            obtain rfl := Except.ok.inj (opened.symm.trans read)
            rw [decoded] at valid
            cases valid
          · simp only [bind, Except.bind, decoded]
            rfl
      | ok text =>
          obtain ⟨found, reported⟩ := exists_report session request mode catalog plain text
          refine .inr ⟨text, found, ⟨content, opened, decoded⟩, reported, ?_⟩
          simp only [bind, Except.bind, decoded, reported]
          rfl

variable {session request mode catalog} in
/-- A file that can be read is at fault if one of its diagnostics is an error. -/
theorem faulty_iff_of_holds {path : Path} {text : Text} {found : Report}
    (holds : session.Holds path text)
    (reported : report session request mode catalog path text = .ok found) :
    Faulty session request mode catalog path ↔
      ∃ diagnostic ∈ found.diagnostics, diagnostic.severity = .error := by
  constructor
  · rintro (closed | ⟨other, second, again, alike, errors⟩)
    · exact absurd holds (closed text)
    · obtain rfl := holds.unique again
      obtain rfl := Except.ok.inj (reported.symm.trans alike)
      exact errors
  · exact fun errors => .inr ⟨text, found, holds, reported, errors⟩

/-- What is found in a file is counted, and there are errors in it if the file is at fault. -/
theorem checkFile_of_plain {path : Path} (plain : '\x00' ∉ path.text) :
    ∃ findings, checkFile session request mode catalog path = .ok findings ∧ findings.Counted ∧
      (findings.errors ≠ 0 ↔ Faulty session request mode catalog path) := by
  rcases checkFile_cases session request mode catalog plain with
    ⟨closed, reason, checked⟩ | ⟨text, found, holds, reported, checked⟩
  · exact ⟨_, checked, rfl, iff_of_true Nat.one_ne_zero (.inl closed)⟩
  · refine ⟨_, checked, counted_ofDiagnostics path found.diagnostics, ?_⟩
    rw [errors_ofDiagnostics_ne_zero_iff, faulty_iff_of_holds holds reported]

/-- The findings of files without null characters in their paths are counted, and there are errors
among them if one of the files is at fault. -/
theorem tally_of_plain {files : List Path} (plain : ∀ path ∈ files, '\x00' ∉ path.text) :
    ∃ findings, tally session request mode catalog files = .ok findings ∧ findings.Counted ∧
      (findings.errors ≠ 0 ↔ ∃ path ∈ files, Faulty session request mode catalog path) := by
  induction files with
  | nil => exact ⟨_, rfl, rfl, by simp⟩
  | cons path rest ih =>
      obtain ⟨here, later⟩ := List.forall_mem_cons.mp plain
      obtain ⟨findings, checked, counted, errors⟩ :=
        checkFile_of_plain session request mode catalog here
      obtain ⟨others, found, allCounted, moreErrors⟩ := ih later
      have parts := tally_append session request mode catalog [path] rest
      rw [tally_singleton, checked, found] at parts
      refine ⟨findings.append others, parts, counted.append allCounted, ?_⟩
      simp only [List.mem_cons, exists_eq_or_imp, ← errors, ← moreErrors]
      change findings.errors + others.errors ≠ 0 ↔ _
      omega

/-- A null character in one of the paths breaks the run off. -/
theorem tally_of_null {files : List Path} {path : Path} (member : path ∈ files)
    (null : '\x00' ∈ path.text) :
    ∃ fault, tally session request mode catalog files = .error fault := by
  obtain ⟨before, after, rfl⟩ := List.append_of_mem member
  have broken : tally session request mode catalog (path :: after) = .error .embeddedNull := by
    have parts := tally_append session request mode catalog [path] after
    rwa [tally_singleton, checkFile_of_null session request mode catalog null] at parts
  rw [tally_append, broken]
  cases tally session request mode catalog before with
  | error fault => exact ⟨fault, rfl⟩
  | ok findings => exact ⟨_, rfl⟩

end Tally

section Answer

variable {session : Session} {request : Request}

/-- A path that is no directory stands for itself, unless it cannot be looked up. -/
theorem expand_cases {path : Path} (single : ¬ IsDirectory session path) :
    expand session path = .ok [path] ∨
      Unusable session path ∧ ∃ failure, expand session path = .error failure := by
  unfold expand
  split
  · exact .inl rfl
  · next plain =>
      split
      · next place found => exact absurd ⟨by simpa using plain, place, found⟩ single
      · next found => exact .inr ⟨.inr found, _, rfl⟩
      · exact .inl rfl

theorem not_unusable_of_expand {path : Path} {files : List Path} (plain : '\x00' ∉ path.text)
    (expanded : expand session path = .ok files) : ¬ Unusable session path := by
  rintro (null | overlong)
  · exact plain null
  · simp [expand, plain, overlong] at expanded

theorem filters_cases (single : ∀ path ∈ request.paths, ¬ IsDirectory session path) :
    filters session request = .ok request.paths ∧
        (∀ path ∈ request.paths, expand session path = .ok [path]) ∨
      (∃ path ∈ request.paths, Unusable session path) ∧
        ∃ failure, filters session request = .error failure := by
  -- The first path that cannot be looked up ends the collection, whatever comes before it.
  by_cases alone : ∀ path ∈ request.paths, expand session path = .ok [path]
  · left
    have all : request.paths.mapM (expand session) =
        .ok (request.paths.map fun path => [path]) := by
      rw [mapM_congr alone]
      exact List.mapM_pure
    have joined : (request.paths.map fun path => [path]).flatten = request.paths := by
      rw [← List.flatMap_def, List.flatMap_singleton']
    refine ⟨?_, alone⟩
    rw [filters, all]
    exact congrArg Except.ok joined
  · right
    push Not at alone
    obtain ⟨path, member, fails⟩ := alone
    rcases expand_cases (single path member) with fine | ⟨unusable, failure, broken⟩
    · exact absurd fine fails
    · refine ⟨⟨path, member, unusable⟩, ?_⟩
      cases expanded : request.paths.mapM (expand session) with
      | error failure => exact ⟨failure, by rw [filters, expanded]; rfl⟩
      | ok found =>
          have each := map_of_mapM_ok expanded
          have listed : expand session path ∈ found.map .ok := each ▸ List.mem_map_of_mem member
          obtain ⟨files, -, same⟩ := List.mem_map.mp listed
          rw [broken] at same
          cases same

/-- What is printed about files with these findings, and how the run ends. -/
def Findings.output (findings : Findings) (files : Nat) : Output :=
  ⟨.status (if findings.errors = 0 then 0 else 1), findings.lines ++ [summary files findings]⟩

theorem checkFiles_eq (session : Session) (request : Request) (mode : BlockMode) (catalog : Catalog)
    (files : List Path) :
    checkFiles session request mode catalog files =
      (tally session request mode catalog files).map (·.output files.length) := by
  rw [checkFiles, tally]
  cases files.mapM (checkFile session request mode catalog) <;> rfl

theorem run_of_asks [Host] {arguments : List Text} (asks : Asks arguments request) :
    run session arguments = answer session request := by
  obtain ⟨reading, read, rfl⟩ := asks
  rw [run, read]

/-- A command line that is read at all names at least one path. -/
theorem paths_ne_nil_of_asks {arguments : List Text} (asks : Asks arguments request) :
    request.paths ≠ [] := by
  obtain ⟨reading, read, rfl⟩ := asks
  unfold Usage.read at read
  obtain ⟨words, -, read⟩ := exists_of_bind_ok read
  obtain ⟨complete, -, read⟩ := exists_of_bind_ok read
  split at read
  · cases read
  · next kept =>
      obtain rfl : complete = reading := Except.ok.inj read
      intro none
      have empty : complete.operands.texts = [] := by simpa [Request.ofReading] using none
      exact kept (by simp [empty, usage])

variable {catalog : Catalog}

/-- The paths stand for themselves. -/
theorem answer_of_filters [Host] (found : filters session request = .ok request.paths)
    (nonempty : request.paths ≠ []) (loaded : session.catalog request.grammar = .ok catalog)
    (commands : catalog.isEmpty = false) :
    answer session request =
      match request.blockMode with
      | none => .error .noBlockMode
      | some mode => ((tally session request mode catalog request.paths).map
          (·.output request.paths.length)).mapError .path := by
  obtain ⟨first, rest, parts⟩ := List.exists_cons_of_ne_nil nonempty
  simp only [answer, found, parts, loaded, bind, Except.bind, commands, checkFiles_eq]
  cases request.blockMode <;> rfl

variable (request)

/-- A run over usable paths tells what is found in them. -/
theorem answer_of_usable [Host] {mode : BlockMode}
    (single : ∀ path ∈ request.paths, ¬ IsDirectory session path)
    (usable : ∀ path ∈ request.paths, ¬ Unusable session path) (nonempty : request.paths ≠ [])
    (loaded : session.catalog request.grammar = .ok catalog) (commands : catalog.isEmpty = false)
    (chosen : request.blockMode = some mode) {findings : Findings}
    (found : tally session request mode catalog request.paths = .ok findings) :
    answer session request = .ok (findings.output request.paths.length) := by
  rcases filters_cases single with ⟨collected, -⟩ | ⟨⟨path, member, unusable⟩, -⟩
  · rw [answer_of_filters collected nonempty loaded commands, chosen]
    simp only [found]
    rfl
  · exact absurd unusable (usable path member)

/-- A run that returns has a block mode, and all of its paths are usable. -/
theorem usable_of_answer [Host] (single : ∀ path ∈ request.paths, ¬ IsDirectory session path)
    (nonempty : request.paths ≠ []) (loaded : session.catalog request.grammar = .ok catalog)
    (commands : catalog.isEmpty = false) {output : Output}
    (returned : answer session request = .ok output) :
    request.blockMode ≠ none ∧ ∀ path ∈ request.paths, ¬ Unusable session path := by
  rcases filters_cases single with ⟨collected, alone⟩ | ⟨-, failure, broken⟩
  · rw [answer_of_filters collected nonempty loaded commands] at returned
    cases chosen : request.blockMode with
    | none =>
        rw [chosen] at returned
        cases returned
    | some mode =>
        rw [chosen] at returned
        have plain : ∀ path ∈ request.paths, '\x00' ∉ path.text := by
          intro path member null
          obtain ⟨fault, fails⟩ := tally_of_null session request mode catalog member null
          simp only [fails] at returned
          cases returned
        exact ⟨Option.some_ne_none mode, fun path member =>
          not_unusable_of_expand (plain path member) (alone path member)⟩
  · simp only [answer, broken] at returned
    cases returned

end Answer

/-- The run over the files prints the entries and a summary of the counts. Each entry is an error or
a warning, and the run ends with status one if one of the files is at fault. -/
structure Tells (session : Session) (request : Request) (mode : BlockMode) (catalog : Catalog)
    (files : List Path) (output : Output) (entries : List String) (errors warnings : Nat) :
    Prop where
  printed : output.lines = entries ++ ["Files: " ++ toString files.length ++ "  Errors: " ++
    toString errors ++ "  Warnings: " ++ toString warnings]
  counted : errors + warnings = entries.length
  ended : output.ending = .status 0 ∨ output.ending = .status 1
  failed : output.ending = .status 1 ↔ ∃ path ∈ files, Faulty session request mode catalog path

theorem tells_output {session : Session} {request : Request} {mode : BlockMode} {catalog : Catalog}
    {files : List Path} {findings : Findings} (counted : findings.Counted)
    (errors : findings.errors ≠ 0 ↔ ∃ path ∈ files, Faulty session request mode catalog path) :
    Tells session request mode catalog files (findings.output files.length) findings.lines
      findings.errors findings.warnings where
  printed := rfl
  counted := counted
  ended := by
    by_cases none : findings.errors = 0 <;> simp [Findings.output, none]
  failed := by
    rw [← errors]
    by_cases none : findings.errors = 0 <;> simp [Findings.output, none]

/-- The paths of a request do not matter for what is found in a file. -/
theorem tally_paths (session : Session) (request : Request) (mode : BlockMode) (catalog : Catalog)
    (paths files : List Path) :
    tally session { request with paths := paths } mode catalog files =
      tally session request mode catalog files :=
  rfl

/-- A run over usable paths returns, and it tells what is found in the files. -/
theorem exists_answer [Host] {session : Session} {request : Request} {mode : BlockMode}
    {catalog : Catalog} {files : List Path}
    (single : ∀ path ∈ files, ¬ IsDirectory session path)
    (usable : ∀ path ∈ files, ¬ Unusable session path) (nonempty : files ≠ [])
    (loaded : session.catalog request.grammar = .ok catalog) (commands : catalog.isEmpty = false)
    (chosen : request.blockMode = some mode) :
    ∃ findings, tally session request mode catalog files = .ok findings ∧
      answer session { request with paths := files } = .ok (findings.output files.length) ∧
      Tells session request mode catalog files (findings.output files.length) findings.lines
        findings.errors findings.warnings := by
  have plain : ∀ path ∈ files, '\x00' ∉ path.text :=
    fun path member null => usable path member (.inl null)
  obtain ⟨findings, found, counted, errors⟩ := tally_of_plain session request mode catalog plain
  rw [← tally_paths session request mode catalog files] at found
  exact ⟨findings, found, answer_of_usable { request with paths := files } single usable nonempty
    loaded commands chosen found, tells_output counted errors⟩

/-- A run over files that are no directories returns if it has a block mode and all paths can be
looked up. It then prints the entries of the run over the first files and those of the run over the
second ones, and the counts of its summary are the sums of theirs. -/
theorem run_append [Host] {session : Session} {request : Request} {catalog : Catalog}
    {firstFiles secondFiles : List Path} {first second whole : List Text}
    (firstAsks : Asks first { request with paths := firstFiles })
    (secondAsks : Asks second { request with paths := secondFiles })
    (wholeAsks : Asks whole { request with paths := firstFiles ++ secondFiles })
    (loaded : session.catalog request.grammar = .ok catalog) (commands : catalog.isEmpty = false)
    (single : ∀ path ∈ firstFiles ++ secondFiles, ¬ IsDirectory session path) :
    ((∃ output, run session whole = .ok output) ↔
        request.blockMode ≠ none ∧ ∀ path ∈ firstFiles ++ secondFiles, ¬ Unusable session path) ∧
      ∀ mode, request.blockMode = some mode →
        (∀ path ∈ firstFiles ++ secondFiles, ¬ Unusable session path) →
        ∃ firstOutput secondOutput output entries others errors moreErrors warnings moreWarnings,
          run session first = .ok firstOutput ∧ run session second = .ok secondOutput ∧
          run session whole = .ok output ∧
          Tells session request mode catalog firstFiles firstOutput entries errors warnings ∧
          Tells session request mode catalog secondFiles secondOutput others moreErrors
            moreWarnings ∧
          Tells session request mode catalog (firstFiles ++ secondFiles) output (entries ++ others)
            (errors + moreErrors) (warnings + moreWarnings) := by
  rw [run_of_asks firstAsks, run_of_asks secondAsks, run_of_asks wholeAsks]
  have firstSome : firstFiles ≠ [] := paths_ne_nil_of_asks firstAsks
  have secondSome : secondFiles ≠ [] := paths_ne_nil_of_asks secondAsks
  have wholeSome : firstFiles ++ secondFiles ≠ [] := paths_ne_nil_of_asks wholeAsks
  constructor
  · constructor
    · rintro ⟨output, returned⟩
      exact usable_of_answer { request with paths := firstFiles ++ secondFiles } single wholeSome
        loaded commands returned
    · rintro ⟨present, usable⟩
      obtain ⟨mode, chosen⟩ := Option.ne_none_iff_exists'.mp present
      obtain ⟨findings, -, returned, -⟩ :=
        exists_answer single usable wholeSome loaded commands chosen
      exact ⟨_, returned⟩
  · intro mode chosen usable
    obtain ⟨firstSingle, secondSingle⟩ := List.forall_mem_append.mp single
    obtain ⟨firstUsable, secondUsable⟩ := List.forall_mem_append.mp usable
    obtain ⟨findings, firstFound, firstReturned, firstTells⟩ :=
      exists_answer firstSingle firstUsable firstSome loaded commands chosen
    obtain ⟨others, secondFound, secondReturned, secondTells⟩ :=
      exists_answer secondSingle secondUsable secondSome loaded commands chosen
    obtain ⟨together, found, returned, tells⟩ :=
      exists_answer single usable wholeSome loaded commands chosen
    have sum : together = findings.append others := by
      rw [tally_append, firstFound, secondFound] at found
      exact (Except.ok.inj found).symm
    subst sum
    exact ⟨_, _, _, _, _, _, _, _, _, firstReturned, secondReturned, returned, firstTells,
      secondTells, tells⟩

/-- A disk with a grammar of one command and with one filter. -/
def sampleSession (filter : String) : Session :=
  let file (text : String) : Entry :=
    .file (text.toList.map fun character => character.toNat.toUInt8)
  let grammar := "\x7b\"repository\": \x7b\"actions\": [\x7b\"match\": \"(Drop)\"\x7d]\x7d\x7d"
  ⟨[([['g']], file grammar), ([['a']], file filter)], .top⟩

/-- The command line for the files under that grammar. -/
def sampleLine (files : List Text) : List Text :=
  "--grammar".toList :: ['g'] :: files

/-- A file with an unknown command is checked together with a file that is missing. -/
theorem run_append_missing :
    let session := sampleSession "Drop\nDrpo"
    let request : Request := ⟨[], .file (.ofText ['g']), some .sequential, false⟩
    ∃ catalog first second whole entries others errors moreErrors warnings moreWarnings,
      session.catalog request.grammar = .ok catalog ∧
      run session (sampleLine [['a']]) = .ok first ∧
      run session (sampleLine [['b']]) = .ok second ∧
      run session (sampleLine [['a'], ['b']]) = .ok whole ∧
      Tells session request .sequential catalog [.ofText ['a']] first entries errors warnings ∧
      Tells session request .sequential catalog [.ofText ['b']] second others moreErrors
        moreWarnings ∧
      Tells session request .sequential catalog [.ofText ['a'], .ofText ['b']] whole
        (entries ++ others) (errors + moreErrors) (warnings + moreWarnings) ∧
      whole = ⟨.status 1,
        ["a:2:1: error: Unknown command \"Drpo\". Did you mean \"Drop\"? [FILTER_UNKNOWN_COMMAND]",
          "b: error: cannot read filter: [Errno 2] No such file or directory: 'b'",
          "Files: 2  Errors: 2  Warnings: 0"]⟩ := by
  intro session request
  have built : (session.catalog request.grammar).toOption.any (!·.isEmpty) = true := by
    decide +kernel
  obtain ⟨catalog, loaded, commands⟩ := (Option.any_eq_true _ _).mp built
  rw [toOption_eq_some_iff] at loaded
  have single : ∀ path ∈ [Path.ofText ['a'], .ofText ['b']], ¬ IsDirectory session path := by
    rintro path member ⟨-, place, found⟩
    rcases List.mem_pair.mp member with rfl | rfl <;> cases found
  have usable : ∀ path ∈ [Path.ofText ['a'], .ofText ['b']], ¬ Unusable session path := by
    rintro path member (null | overlong)
    · revert null
      rcases List.mem_pair.mp member with rfl | rfl <;> decide
    · rcases List.mem_pair.mp member with rfl | rfl <;> cases overlong
  have asks (files : List Text) (read : usage.read (sampleLine files) =
      .ok ⟨.taken files, [("--grammar".toList, some ['g'])], false⟩) :
      Asks (sampleLine files) { request with paths := files.map Path.ofText } :=
    ⟨_, read, rfl⟩
  obtain ⟨first, second, whole, entries, others, errors, moreErrors, warnings, moreWarnings,
    firstRun, secondRun, wholeRun, firstTells, secondTells, tells⟩ :=
    (run_append (asks [['a']] (by decide +kernel)) (asks [['b']] (by decide +kernel))
      (asks [['a'], ['b']] (by decide +kernel)) loaded (by simpa using commands) single).2
      .sequential rfl usable
  refine ⟨catalog, first, second, whole, entries, others, errors, moreErrors, warnings,
    moreWarnings, loaded, firstRun, secondRun, wholeRun, firstTells, secondTells, tells, ?_⟩
  exact Except.ok.inj (wholeRun.symm.trans (by decide +kernel))

/-- A name that is too long breaks the run off before any file is read, so that nothing is printed
about the other file. -/
theorem run_of_overlong_name :
    let session := sampleSession "Drpo"
    let name : Text := List.replicate 256 'x'
    ¬ IsDirectory session (.ofText name) ∧
      run session (sampleLine [['a']]) = .ok ⟨.status 1,
        ["a:1:1: error: Unknown command \"Drpo\". Did you mean \"Drop\"? [FILTER_UNKNOWN_COMMAND]",
          "Files: 1  Errors: 1  Warnings: 0"]⟩ ∧
      run session (sampleLine [['a'], name]) = .error (.disk .nameTooLong name) := by
  intro session name
  have overlong : session.disk.find session.workplace (Path.ofText name).text =
      .error .nameTooLong := by decide +kernel
  refine ⟨?_, by decide +kernel, by decide +kernel⟩
  rintro ⟨-, place, found⟩
  rw [overlong] at found
  cases found

end Check

end ItemFilter.Console
