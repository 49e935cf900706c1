/-
This file writes the tokens of each line with single blanks between them. The comment and all other
blanks are gone, and still the same tokens are read.
-/

import ItemFilter.Proofs.Columns
import ItemFilter.Proofs.Comment
import ItemFilter.Proofs.EmptyBlock

namespace ItemFilter

namespace Token

/-- The text with one blank before each token and no others between them. Inside of a token it is
known whether a quote is open. -/
def spacedFrom (begun : Option Bool) : Text → Text
  | [] => []
  | character :: rest =>
      match begun with
      | none =>
          if Text.isBlank character then spacedFrom none rest
          else ' ' :: character :: spacedFrom (some (character == '"')) rest
      | some inQuotes =>
          if Text.isBlank character && !inQuotes then spacedFrom none rest
          else character :: spacedFrom (some (if character == '"' then !inQuotes else inQuotes)) rest

/-- The tokens, each behind a blank; the begun token stands before the text. -/
theorem flatMap_splitFrom (column : Nat) (current : Option Unfinished) (text : Text) :
    (splitFrom column current text).flatMap (fun token => ' ' :: token.text) =
      (current.elim [] fun begun => ' ' :: begun.token.text) ++
        spacedFrom (current.map Unfinished.inQuotes) text := by
  induction text generalizing column current with
  | nil => cases current <;> simp [splitFrom, spacedFrom]
  | cons character rest ih =>
      cases current with
      | none =>
          by_cases blank : Text.isBlank character = true
          · simp [splitFrom, spacedFrom, blank, ih]
          · have visible : Text.isBlank character = false := by simpa using blank
            rw [splitFrom_none visible, ih]
            simp [spacedFrom, visible, Unfinished.token]
      | some begun =>
          by_cases ends : (Text.isBlank character && !begun.inQuotes) = true
          · simp [splitFrom, spacedFrom, ends, ih]
          · simp [splitFrom, spacedFrom, ends, ih, Unfinished.push, Unfinished.token]

/-- Single blanks between the texts are single blanks before them, but for the first one. -/
theorem intercalate_blank (texts : List Text) :
    [' '].intercalate texts = (texts.flatMap fun text => ' ' :: text).tail := by
  induction texts with
  | nil => rfl
  | cons first rest ih =>
      cases rest with
      | nil => simp
      | cons second others =>
          rw [List.intercalate_cons_cons, ih]
          simp

theorem joined_split (text : Text) :
    [' '].intercalate ((split text).map Token.text) = (spacedFrom none text).tail := by
  have spaced := flatMap_splitFrom 0 none text
  rw [intercalate_blank, List.flatMap_map]
  exact congrArg List.tail spaced

/-- The spaced text is empty, or its first token follows at once. -/
theorem spacedFrom_none_cases (text : Text) :
    spacedFrom none text = [] ∨
      ∃ first rest, Text.isBlank first = false ∧ spacedFrom none text = ' ' :: first :: rest := by
  induction text with
  | nil => exact .inl rfl
  | cons character rest ih =>
      by_cases blank : Text.isBlank character = true
      · simpa [spacedFrom, blank] using ih
      · have visible : Text.isBlank character = false := by simpa using blank
        refine .inr ⟨character, spacedFrom (some (character == '"')) rest, visible, ?_⟩
        simp [spacedFrom, visible]

theorem parted_spacedFrom (text : Text) : Parted (spacedFrom none text) := by
  intro character member
  rcases spacedFrom_none_cases text with empty | ⟨first, rest, _, spaced⟩
  · rw [empty] at member
    cases member
  · rw [spaced] at member
    obtain rfl := Option.some.inj member
    decide

/-- The spaced text has the same tokens, in whatever columns both are read. -/
theorem splitFrom_spacedFrom (text : Text) :
    (∀ column other, (splitFrom other none (spacedFrom none text)).map Token.text =
        (splitFrom column none text).map Token.text) ∧
      ∀ column other start place reversed inQuotes,
        (splitFrom other (some ⟨reversed, place, inQuotes⟩)
            (spacedFrom (some inQuotes) text)).map Token.text =
          (splitFrom column (some ⟨reversed, start, inQuotes⟩) text).map Token.text := by
  induction text with
  | nil => exact ⟨fun _ _ => rfl, fun _ _ _ _ _ _ => rfl⟩
  | cons character rest ih =>
      obtain ⟨between, within⟩ := ih
      refine ⟨fun column other => ?_, fun column other start place reversed inQuotes => ?_⟩
      · by_cases blank : Text.isBlank character = true
        · simp only [spacedFrom, splitFrom, blank, if_true]
          exact between (column + 1) other
        · have visible : Text.isBlank character = false := by simpa using blank
          have spaced : spacedFrom none (character :: rest) =
              ' ' :: character :: spacedFrom (some (character == '"')) rest := by
            simp [spacedFrom, visible]
          rw [spaced, splitFrom, if_pos (by decide), splitFrom_none visible, splitFrom_none visible]
          exact within _ _ _ _ _ _
      · by_cases ends : (Text.isBlank character && !inQuotes) = true
        · have closed : inQuotes = false := by simp_all
          simp only [spacedFrom, splitFrom, ends, if_true]
          rw [splitFrom_parted other _ closed (parted_spacedFrom rest), List.map_cons, List.map_cons,
            between (column + 1) other]
          rfl
        · simp only [spacedFrom, splitFrom, ends, Bool.false_eq_true, if_false]
          exact within _ _ _ _ _ _

/-- The column at which the text starts does not matter for the tokens. -/
theorem map_text_splitFrom (column other : Nat) (text : Text) :
    (splitFrom column none text).map Token.text = (splitFrom other none text).map Token.text :=
  ((splitFrom_spacedFrom text).1 column column).symm.trans ((splitFrom_spacedFrom text).1 other column)

/-- The spaced text holds no comment if the text holds none. A blank is put where at least one was,
so the search stands in the same state behind it. -/
theorem clean_spacedFrom (text : Text) :
    (∀ state : Scan, state.passBlank.Clean text → state.Clean (spacedFrom none text)) ∧
      ∀ (state : Scan) (inQuotes : Bool),
        state.Clean text → state.Clean (spacedFrom (some inQuotes) text) := by
  induction text with
  | nil => exact ⟨fun state _ => state.clean_nil, fun state _ _ => state.clean_nil⟩
  | cons character rest ih =>
      obtain ⟨between, within⟩ := ih
      refine ⟨fun state clean => ?_, fun state inQuotes clean => ?_⟩
      · obtain ⟨after, next, clean⟩ := (Scan.clean_cons_iff _ _ _).mp clean
        by_cases blank : Text.isBlank character = true
        · rw [Scan.next_of_isBlank _ blank, Scan.passBlank_passBlank] at next
          obtain rfl := Option.some.inj next
          simp only [spacedFrom, blank, if_true]
          exact between state clean
        · simp only [spacedFrom, blank]
          refine (Scan.clean_cons_iff _ _ _).mpr
            ⟨state.passBlank, state.next_of_isBlank (by decide), ?_⟩
          exact (Scan.clean_cons_iff _ _ _).mpr ⟨after, next, within after _ clean⟩
      · obtain ⟨after, next, clean⟩ := (Scan.clean_cons_iff _ _ _).mp clean
        by_cases ends : (Text.isBlank character && !inQuotes) = true
        · rw [Scan.next_of_isBlank _ (Bool.and_eq_true_iff.mp ends).1] at next
          obtain rfl := Option.some.inj next
          simp only [spacedFrom, ends, if_true]
          exact between state clean
        · simp only [spacedFrom, ends]
          exact (Scan.clean_cons_iff _ _ _).mpr ⟨after, next, within after _ clean⟩

/-- Tokens that are joined by single blanks are read back, and nothing in them begins a comment. -/
theorem split_joined {text : Text} (clean : Scan.code.Clean text) (tokens : split text ≠ []) :
    let joined := [' '].intercalate ((split text).map Token.text)
    ∃ first rest, joined = first :: rest ∧ Text.isBlank first = false ∧ first ≠ '#' ∧
      (split (stripComment joined)).map Token.text = (split text).map Token.text := by
  intro joined
  have same := (splitFrom_spacedFrom text).1 0 0
  have spacedClean := (clean_spacedFrom text).1 .code clean
  have parts : joined = (spacedFrom none text).tail := joined_split text
  rcases spacedFrom_none_cases text with empty | ⟨first, rest, visible, spaced⟩
  · rw [empty] at same
    exact absurd (List.map_eq_nil_iff.mp same.symm) tokens
  · rw [spaced] at same spacedClean parts
    obtain ⟨after, next, joinedClean⟩ := (Scan.clean_cons_iff _ _ _).mp spacedClean
    obtain rfl : Scan.code = after := Option.some.inj next
    -- Joining drops the first blank, and the search for a comment does not notice it.
    have kept : stripComment joined = joined := by
      rw [stripComment, ← Scan.cut_ofQuotes, parts]
      exact joinedClean
    refine ⟨first, rest, parts, visible, ?_, ?_⟩
    · rintro rfl
      obtain ⟨_, begins, _⟩ := (Scan.clean_cons_iff _ _ _).mp joinedClean
      cases begins
    · have behind : splitFrom 0 none (' ' :: first :: rest) = splitFrom 1 none (first :: rest) := by
        rw [splitFrom, if_pos (by decide)]
      rw [kept, parts, split, List.tail_cons, map_text_splitFrom 0 1, ← behind, same]
      rfl

end Token

/-- The tokens of a line with single blanks between them. A line without code becomes empty. -/
def Text.tidied (text : Text) : Text :=
  match CodeLine.ofLine? ⟨0, text⟩ with
  | none => []
  | some code => [' '].intercalate (code.command.text :: code.argumentTexts)

def Line.tidied (line : Line) : Line :=
  ⟨line.number, line.text.tidied⟩

/-- The number of a line does not matter for its tokens. -/
theorem Line.tidied_text (line : Line) :
    line.tidied.text =
      match CodeLine.ofLine? line with
      | none => []
      | some code => [' '].intercalate (code.command.text :: code.argumentTexts) := by
  have moved := CodeLine.ofLine?_below ⟨0, line.text⟩ line.number
  have same : Line.below ⟨0, line.text⟩ line.number = line := by
    simp [below]
  rw [same] at moved
  rw [tidied, Text.tidied, moved]
  cases CodeLine.ofLine? ⟨0, line.text⟩ <;> rfl

/-- A tidied line has the tokens of the line. -/
theorem Line.tidied_alike (line : Line) : line.tidied.Alike line := by
  refine ⟨rfl, ?_⟩
  have written := line.tidied_text
  cases read : CodeLine.ofLine? line with
  | none =>
      rw [read] at written
      simp only [CodeLine.ofLine?, written]
      rfl
  | some code =>
      rw [read] at written
      obtain ⟨same, tokens⟩ := CodeLine.ofLine?_tokens read
      have clean : Token.Scan.code.Clean (Token.stripComment line.text) := by
        rw [Token.stripComment, ← Token.Scan.cut_ofQuotes]
        exact Token.Scan.clean_cut _ _
      obtain ⟨first, rest, begins, visible, noComment, back⟩ :=
        Token.split_joined clean (by simp [tokens])
      change line.tidied.text = [' '].intercalate ((code.command :: code.arguments).map Token.text)
        at written
      rw [tokens, ← written] at begins back
      cases again : Token.split (Token.stripComment line.tidied.text) with
      | nil =>
          rw [again] at back
          cases back
      | cons command arguments =>
          rw [again, List.map_cons, List.map_cons] at back
          obtain ⟨sameCommand, sameArguments⟩ := List.cons.inj back
          have noBlanks : ∀ character ∈ ([] : Text), Text.isBlank character = true := by simp
          obtain ⟨others, stripped⟩ := Text.strip_append noBlanks visible rest
          rw [List.nil_append, ← begins] at stripped
          rw [CodeLine.ofLine?_of_tokens stripped noComment again, Option.map_some, Option.map_some]
          have texts (tokens : List Token) :
              tokens.map Token.uncolumned = (tokens.map Token.text).map fun text => ⟨text, 0⟩ := by
            rw [List.map_map]
            rfl
          simp only [CodeLine.uncolumned, Token.uncolumned, texts, sameCommand, sameArguments, same]
          rfl

/-- The lines of a tidied document are tidied. -/
theorem Document.numbered_tidied {document tidy : Document}
    (laid : tidy.lines = document.lines.map Text.tidied) :
    tidy.numbered = document.numbered.map Line.tidied := by
  rw [numbered, numbered, laid, List.zipIdx_map, List.map_map, List.map_map]
  rfl

namespace EmptyBlock

theorem isOpener_uncolumned (names : List Text) (code : CodeLine) :
    isOpener names code.uncolumned = isOpener names code := by
  rw [isOpener, isOpener, code.isBare_uncolumned]
  rfl

/-- The check looks at the tokens and at the numbers of the lines only. -/
theorem check_uncolumned (names : List Text) {left right : Document}
    (same : left.codeLines.map CodeLine.uncolumned = right.codeLines.map CodeLine.uncolumned) :
    (check names left).map Diagnostic.uncolumned =
      (check names right).map Diagnostic.uncolumned := by
  have view (document : Document) : (check names document).map Diagnostic.uncolumned =
      (emptyOpeners (isOpener names) (document.codeLines.map CodeLine.uncolumned)).map
        fun code => (report code).uncolumned := by
    rw [check_eq, emptyOpeners_map (isOpener_uncolumned names), List.map_map, List.map_map]
    rfl
  rw [view, view, same]

end EmptyBlock

/-- A tidied document has the same code lines, apart from the columns. -/
theorem Document.codeLines_tidied {document tidy : Document}
    (laid : tidy.lines = document.lines.map Text.tidied) :
    tidy.codeLines.map CodeLine.uncolumned = document.codeLines.map CodeLine.uncolumned := by
  rw [codeLines, codeLines, numbered_tidied laid, List.filterMap_map, List.map_filterMap,
    List.map_filterMap]
  exact List.filterMap_congr fun line _ => line.tidied_alike.code

namespace Validation

/-- The lines get the same diagnostics, apart from the columns. -/
theorem lineDiagnostics_tidied {document tidy : Document} (setting : Setting) (probe : Probe)
    (laid : tidy.lines = document.lines.map Text.tidied) :
    (lineDiagnostics tidy setting probe).map Diagnostic.uncolumned =
      (lineDiagnostics document setting probe).map Diagnostic.uncolumned := by
  by_cases empty : setting.catalog.isEmpty = true
  · rw [lineDiagnostics_of_isEmpty tidy probe empty, lineDiagnostics_of_isEmpty document probe empty]
  · rw [lineDiagnostics_of_commands tidy probe empty,
      lineDiagnostics_of_commands document probe empty, Document.numbered_tidied laid]
    exact setting.allFindings_map_alike probe .outside Line.tidied_alike document.numbered

/-- The lines look for the same files. -/
theorem lineCalls_tidied {document tidy : Document} (setting : Setting) (probe : Probe)
    (laid : tidy.lines = document.lines.map Text.tidied) :
    lineCalls tidy setting probe = lineCalls document setting probe := by
  apply lineCalls_congr
  rw [Document.numbered_tidied laid, List.flatMap_map]
  simp only [fun line : Line => line.tidied_alike.questions setting]

/-- The checks of the whole document find the same, apart from the columns. -/
theorem checkWhole_tidied {document tidy : Document} {checker : Checker}
    (laid : tidy.lines = document.lines.map Text.tidied)
    (known : checker = .silent ∨ ∃ openers, checker = .emptyBlocks openers) :
    (checkWhole tidy checker).diagnostics.map Diagnostic.uncolumned =
      (checkWhole document checker).diagnostics.map Diagnostic.uncolumned := by
  rcases known with rfl | ⟨openers, rfl⟩
  · rfl
  · exact EmptyBlock.check_uncolumned openers (Document.codeLines_tidied laid)

/-- Layout does not matter. If the tokens of each line are written with single blanks between them,
and nothing is written for a line without code, the diagnostics stay the same in each line, apart
from the columns, and the same files are looked for. -/
theorem validate_tidied (document tidy : Document) (catalog : Catalog) (options : Options)
    (workplace : Path) (probe : Probe) (checker : Checker)
    (laid : tidy.lines = document.lines.map Text.tidied)
    (place : tidy.directory workplace = document.directory workplace)
    (known : checker = .silent ∨ ∃ openers, checker = .emptyBlocks openers) :
    (validate tidy catalog options ⟨workplace, probe, checker⟩).map
        (fun report => (report.diagnostics.map Diagnostic.uncolumned, report.calls)) =
      (validate document catalog options ⟨workplace, probe, checker⟩).map
        fun report => (report.diagnostics.map Diagnostic.uncolumned, report.calls) := by
  apply validate_congr catalog options ⟨workplace, probe, checker⟩
    (List.map Diagnostic.uncolumned) (List.map Diagnostic.uncolumned) place
  · intro directory
    rw [List.map_append, List.map_append, lineDiagnostics_tidied _ probe laid,
      checkWhole_tidied laid known]
  · intro directory
    exact lineCalls_tidied _ probe laid

/-- A hidden quote and a blank behind the open quote: the path that is looked for keeps its blank
when the line is written anew without its comment. -/
theorem validate_tidied_play :
    let play : Text := ['P', 'l', 'a', 'y']
    let file : Text := ['\\', '"', 'b', ' ']
    let catalog : Catalog := [⟨play, .actions, [[]]⟩]
    let options : Options := ⟨.single, 3, 3, ['C'], [play], ['O']⟩
    let document : Document := ⟨[['#'], '\t' :: play ++ [' ', ' '] ++ file ++ ['#', 'c']], none⟩
    let tidy : Document := ⟨[[], play ++ [' '] ++ file], none⟩
    tidy.lines = document.lines.map Text.tidied ∧
      tidy.directory .top = document.directory .top ∧
      (validate tidy catalog options ⟨.top, fun _ => none, .silent⟩).map
          (fun report => (report.diagnostics.map Diagnostic.uncolumned, report.calls)) =
        .ok ([.plain .internalError ⟨1, 0, 0⟩], [file]) := by
  intro play file catalog options document tidy
  refine ⟨rfl, rfl, ?_⟩
  exact (validate_tidied document tidy catalog options .top (fun _ => none) .silent rfl rfl
    (.inl rfl)).trans rfl

end Validation

end ItemFilter
