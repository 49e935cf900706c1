/-
This file compares the groups that are found in a match expression with the groups that the reader
of patterns counts. Step by step the scan follows the reader: it has the same groups open and knows
the same number of them.
-/

import ItemFilter.Proofs.Numbering
import ItemFilter.Proofs.Pattern.Outline

namespace ItemFilter

namespace Pattern

/-- The step is no comment, and blanks count in it. -/
structure Step.Literal (step : Step) : Prop where
  visible : step.progress.modes.verbose = false
  kept : ¬ "(?#".toList.map .plain <+: step.taken

/-- The step opens a group that captures. -/
def Step.Captures (step : Step) : Prop :=
  step.taken = [.plain '('] ∨ "(?P<".toList.map .plain <+: step.taken

/-- A group that captures has only wrappers around it. -/
def Step.Wrapped (step : Step) : Prop :=
  step.Captures → ∀ opening ∈ step.progress.enclosing, opening = .plain

/-- The rest of a class whose first member is a closing bracket, up to the next opening bracket. -/
def leak : List Symbol → List Symbol
  | .plain '[' :: .plain '^' :: .plain ']' :: rest => rest.takeWhile (· != .plain '[')
  | .plain '[' :: .plain ']' :: rest => rest.takeWhile (· != .plain '[')
  | _ => []

/-- No parenthesis stands where a class would be over if a bracket could not be its first member. -/
def Step.Tight (step : Step) : Prop :=
  Lacks "()".toList (leak step.taken)

instance (step : Step) : Decidable step.Literal :=
  decidable_of_iff (_ ∧ _)
    ⟨fun ⟨visible, kept⟩ => ⟨visible, kept⟩, fun ⟨visible, kept⟩ => ⟨visible, kept⟩⟩

instance (step : Step) : Decidable step.Captures :=
  inferInstanceAs (Decidable (_ ∨ _))

instance (step : Step) : Decidable step.Wrapped :=
  inferInstanceAs (Decidable (_ → _))

instance (step : Step) : Decidable step.Tight :=
  inferInstanceAs (Decidable (Lacks _ _))

/-- A pattern is complete when every group is closed. -/
theorem Progress.below_of_finish {limit : Nat} {progress : Progress} {tree : Node}
    (finishes : progress.finish limit = .ok tree) : progress.below = [] := by
  unfold Progress.finish at finishes
  dsimp only at finishes
  split at finishes
  · next complete =>
      simp only [Bool.and_eq_true, List.isEmpty_iff] at complete
      exact complete.1.1.1.1
  · cases finishes

end Pattern

namespace CaptureGroup

open Pattern

theorem Skipped.append {first second : Text} (skipsFirst : Skipped first)
    (skipsSecond : Skipped second) : Skipped (first ++ second) := by
  intro whole position scan rest
  rw [List.append_assoc, skipsFirst, skipsSecond, List.length_append, Nat.add_assoc]

section Symbols

variable {symbols : List Symbol}

theorem skipped_spelling (lacks : Lacks "\\[()".toList symbols) : Skipped (spelling symbols) := by
  induction symbols with
  | nil => exact fun whole position scan rest => rfl
  | cons symbol others ih =>
      obtain ⟨own, later⟩ := lacks_cons.mp lacks
      have first : Skipped symbol.text := by
        cases symbol with
        | escaped character => exact skipped_escaped character
        | plain character =>
            apply skipped_ordinary
            rw [Symbol.text, List.forall_mem_singleton]
            simpa [IsOrdinary] using lacks_plain.mp own
      exact first.append (ih later)

/-- Up to its closing bracket nothing in a class counts. -/
theorem skipped_class (lacks : Lacks "\\]".toList symbols) :
    Skipped (spelling (.plain '[' :: (symbols ++ [.plain ']']))) := by
  have parts : ∃ parts : List ClassPart, spelling symbols = parts.flatMap ClassPart.text := by
    induction symbols with
    | nil => exact ⟨[], rfl⟩
    | cons symbol others ih =>
        obtain ⟨own, later⟩ := lacks_cons.mp lacks
        obtain ⟨parts, same⟩ := ih later
        cases symbol with
        | escaped character =>
            exact ⟨.escaped character :: parts, congrArg (['\\', character] ++ ·) same⟩
        | plain character =>
            have inside : character ≠ '\\' ∧ character ≠ ']' := by
              simpa using lacks_plain.mp own
            exact ⟨.single character inside :: parts, congrArg ([character] ++ ·) same⟩
  obtain ⟨parts, same⟩ := parts
  have skips := skipped_bracket parts
  rw [← same] at skips
  have spelled : spelling (.plain '[' :: (symbols ++ [.plain ']'])) =
      '[' :: spelling symbols ++ [']'] := by
    rw [← List.cons_append, spelling_append]
    rfl
  rw [spelled]
  exact skips

/-- What comes after a class that would be over too early, up to where it is over. -/
theorem skipped_leak (lacks : Lacks "\\]".toList symbols)
    (tight : Lacks "()".toList
      ((symbols ++ [Symbol.plain ']']).takeWhile (· != Symbol.plain '['))) :
    Skipped (spelling (symbols ++ [.plain ']'])) := by
  have taken : ∀ {part : List Symbol}, .plain '[' ∉ part →
      ∀ symbol ∈ part, (symbol != .plain '[') = true := by
    intro part absent symbol member
    rw [bne_iff_ne]
    rintro rfl
    exact absent member
  by_cases opens : Symbol.plain '[' ∈ symbols
  · obtain ⟨outside, inside, rfl, absent⟩ := List.eq_append_cons_of_mem opens
    obtain ⟨first, later⟩ := lacks_append.mp lacks
    rw [List.append_assoc, List.takeWhile_append_of_pos (taken absent), List.cons_append,
      List.takeWhile_cons_of_neg (by simp), List.append_nil] at tight
    rw [List.append_assoc, List.cons_append, spelling_append]
    have skips : Lacks "\\[()".toList outside :=
      lacks_cons_sign.mpr ⟨first '\\' (by decide), lacks_cons_sign.mpr ⟨absent, tight⟩⟩
    exact (skipped_spelling skips).append (skipped_class (lacks_cons.mp later).2)
  · have absent : Symbol.plain '[' ∉ symbols ++ [.plain ']'] := by
      simpa using opens
    have backslash : Symbol.plain '\\' ∉ symbols ++ [.plain ']'] := by
      simpa using lacks '\\' (by decide)
    rw [List.takeWhile_eq_self_iff.mpr (taken absent)] at tight
    exact skipped_spelling
      (lacks_cons_sign.mpr ⟨backslash, lacks_cons_sign.mpr ⟨absent, tight⟩⟩)

/-- A class is passed over unless a bracket is its first member and parentheses come next. -/
theorem skipped_of_tight {negation body : List Symbol}
    (negates : negation = [] ∨ negation = [.plain '^']) (lacks : Lacks [']'] body.tail)
    (backslash : .plain '\\' ∉ negation ++ body)
    (tight : Lacks "()".toList (leak (.plain '[' :: (negation ++ body ++ [.plain ']'])))) :
    Skipped (spelling (.plain '[' :: (negation ++ body ++ [.plain ']']))) := by
  rw [List.mem_append, not_or] at backslash
  by_cases leads : body.head? = some (.plain ']')
  · obtain ⟨rest, rfl⟩ := List.head?_eq_some_iff.mp leads
    have parts : Symbol.plain '[' :: (negation ++ .plain ']' :: rest ++ [.plain ']']) =
        (.plain '[' :: (negation ++ [.plain ']'])) ++ (rest ++ [.plain ']']) := by
      simp
    have leaks : leak (.plain '[' :: (negation ++ .plain ']' :: rest ++ [.plain ']'])) =
        (rest ++ [Symbol.plain ']']).takeWhile (· != Symbol.plain '[') := by
      rcases negates with rfl | rfl <;> rfl
    have early : Lacks "\\]".toList negation := by
      rcases negates with rfl | rfl <;> decide
    have late : Lacks "\\]".toList rest :=
      lacks_cons_sign.mpr ⟨fun member => backslash.2 (List.mem_cons_of_mem _ member), lacks⟩
    rw [leaks] at tight
    rw [parts, spelling_append]
    exact (skipped_class early).append (skipped_leak late tight)
  · apply skipped_class
    have inside : Lacks [']'] body := by
      cases body with
      | nil => exact lacks_nil
      | cons first others =>
          have other : first ≠ .plain ']' := by simpa using leads
          exact lacks_cons.mpr ⟨lacks_singleton.mpr other, lacks⟩
    have sign : Lacks [']'] negation := by
      rcases negates with rfl | rfl <;> decide
    exact lacks_append.mpr
      ⟨lacks_cons_sign.mpr ⟨backslash.1, sign⟩, lacks_cons_sign.mpr ⟨backslash.2, inside⟩⟩

end Symbols

section Marks

variable {opening : Opening} {mark : Text}

/-- A mark says whether the group is a wrapper, and that it does not capture. -/
theorem role_of_markedBy (marked : opening.MarkedBy mark) (rest : Text) :
    isCapturing ('?' :: (mark ++ rest)) = false ∧
      isWrapper ('?' :: (mark ++ rest)) = decide (opening = .plain) := by
  rcases marked with ⟨rfl, rfl⟩ | ⟨other, special⟩
  · exact ⟨rfl, rfl⟩
  · rw [decide_eq_false other]
    simp only [isSpecial, Bool.or_eq_true, List.isPrefixOf_iff_prefix] at special
    rcases special with ((⟨more, rfl⟩ | ⟨more, rfl⟩) | ⟨more, rfl⟩) | special
    · exact ⟨rfl, rfl⟩
    · exact ⟨rfl, rfl⟩
    · exact ⟨rfl, rfl⟩
    · cases mark with
      | nil => cases special
      | cons first others =>
          have unlike : ∀ sign ∈ ":P<".toList, sign ≠ first := by
            rintro sign listed rfl
            rw [List.head?_cons, Option.any_some, List.contains_iff_mem.mpr listed] at special
            cases special
          have colon := unlike ':' (by decide)
          have letter := unlike 'P' (by decide)
          have angle := unlike '<' (by decide)
          simp [isCapturing, isWrapper, List.isPrefixOf, colon, letter, angle]

theorem isCapturing_of_named (begins : "?P<".toList <+: mark) (rest : Text) :
    isCapturing (mark ++ rest) = true := by
  obtain ⟨name, rfl⟩ := begins
  rfl

theorem isCapturing_of_bare {symbols : List Symbol}
    (bare : symbols.head? ≠ some (.plain '?')) : isCapturing (spelling symbols) = true := by
  have unlike : "?".toList.isPrefixOf (spelling symbols) = false := by
    rw [Bool.eq_false_iff]
    intro begins
    obtain ⟨rest, rfl⟩ := map_plain_prefix_of_prefix (by decide)
      (List.isPrefixOf_iff_prefix.mp begins)
    exact bare rfl
  rw [isCapturing, unlike]
  rfl

theorem skipped_question : Skipped ['?'] :=
  skipped_ordinary (List.forall_mem_singleton.mpr (by decide))

theorem skipped_mark (lacks : Lacks delimiters (mark.map .plain)) : Skipped mark := by
  have skips := skipped_spelling (lacks.mono (by decide))
  rwa [spelling_map_plain] at skips

end Marks

/-- The scan stands where the reader stands: the same groups are open, and as many are known, either
open or complete. -/
structure Scan.Follows (outline : List Opening × Nat) (scan : Scan) : Prop where
  wrappers : scan.opened.map Opened.isWrapper =
    outline.1.map fun opening => decide (opening = .plain)
  count : scan.count = outline.2
  known : scan.groups.length + scan.opened.countP (·.index.isSome) = scan.count

section Following

variable {enclosing : List Opening} {groups position : Nat} {scan : Scan} {rest : Text}
  {opening : Opening}

theorem Scan.follows_start : Scan.Follows Progress.start.outline .start :=
  ⟨rfl, rfl, rfl⟩

theorem Scan.Follows.all_isWrapper (follows : scan.Follows (enclosing, groups)) :
    scan.opened.all Opened.isWrapper = true ↔ ∀ opening ∈ enclosing, opening = .plain := by
  have same : scan.opened.all Opened.isWrapper =
      enclosing.all fun opening => decide (opening = .plain) := by
    have mapped := congrArg (List.all · id) follows.wrappers
    rwa [List.all_map, List.all_map] at mapped
  rw [same, List.all_eq_true]
  simp only [decide_eq_true_eq]

/-- A group is opened and numbered. -/
theorem Scan.Follows.number (follows : scan.Follows (enclosing, groups))
    (capturing : isCapturing rest = true) (wrapped : ∀ opening ∈ enclosing, opening = .plain)
    (group position : Nat) :
    (scan.openGroup position rest).Follows (.capture group :: enclosing, groups + 1) := by
  have known := follows.known
  rw [openGroup, capturing, follows.all_isWrapper.mpr wrapped]
  refine ⟨congrArg₂ List.cons (not_isWrapper_of_isCapturing capturing) follows.wrappers,
    congrArg (· + 1) follows.count, ?_⟩
  show scan.groups.length + List.countP _ (_ :: scan.opened) = scan.count + 1
  rw [List.countP_cons_of_pos rfl]
  omega

/-- A group is opened and not numbered. -/
theorem Scan.Follows.enclose (follows : scan.Follows (enclosing, groups))
    (other : (isCapturing rest && scan.opened.all Opened.isWrapper) = false)
    (wraps : isWrapper rest = decide (opening = .plain)) (position : Nat) :
    (scan.openGroup position rest).Follows (opening :: enclosing, groups) := by
  rw [openGroup, other]
  exact ⟨congrArg₂ List.cons wraps follows.wrappers, follows.count, follows.known⟩

theorem Scan.Follows.close (follows : scan.Follows (opening :: enclosing, groups))
    (whole : Text) (position : Nat) (rest : Text) :
    ∃ closed, scan.closeGroup whole position rest = some closed ∧
      closed.Follows (enclosing, groups) := by
  obtain ⟨opened, count, found⟩ := scan
  obtain ⟨wrappers, counted, known⟩ := follows
  cases opened with
  | nil => cases wrappers
  | cons innermost others =>
      have outside := (List.cons.inj wrappers).2
      obtain ⟨start, index, isWrapper⟩ := innermost
      cases index with
      | none => exact ⟨_, rfl, outside, counted, by simpa [relax] using known⟩
      | some index =>
          refine ⟨_, rfl, outside, counted, ?_⟩
          simp only [List.countP_cons_of_pos, Option.isSome_some] at known
          simp only [List.length_append, List.length_singleton]
          omega

end Following

/-- The text before the rest turns a scan that follows the one outline into one that follows the
other. -/
def Turns (text rest : Text) (before after : List Opening × Nat) : Prop :=
  ∀ whole position scan, Scan.Follows before scan →
    ∃ later final, Scan.Follows after final ∧
      scanFrom whole position false scan (text ++ rest) = scanFrom whole later false final rest

section Turns

variable {text rest mark : Text} {opening outer : Opening} {enclosing : List Opening}
  {groups : Nat} {before between after : List Opening × Nat}

theorem Turns.trans {first second : Text} (one : Turns first (second ++ rest) before between)
    (other : Turns second rest between after) : Turns (first ++ second) rest before after := by
  intro whole position scan follows
  obtain ⟨later, final, follows, same⟩ := one whole position scan follows
  obtain ⟨last, result, follows, also⟩ := other whole later final follows
  exact ⟨last, result, follows, by rw [List.append_assoc, same, also]⟩

theorem turns_of_skipped (skips : Skipped text) : Turns text rest before before := by
  intro whole position scan follows
  exact ⟨_, scan, follows, skips whole position scan rest⟩

theorem turns_closing : Turns [')'] rest (opening :: enclosing, groups) (enclosing, groups) := by
  intro whole position scan follows
  obtain ⟨closed, found, follows⟩ := follows.close whole position rest
  exact ⟨position + 1, closed, follows, scanFrom_closing whole position scan rest found⟩

theorem turns_capture (capturing : isCapturing rest = true)
    (wrapped : ∀ opening ∈ enclosing, opening = .plain) (group : Nat) :
    Turns ['('] rest (enclosing, groups) (.capture group :: enclosing, groups + 1) := by
  intro whole position scan follows
  exact ⟨position + 1, _, follows.number capturing wrapped group position,
    scanFrom_opening whole position scan rest⟩

theorem turns_mark (marked : opening.MarkedBy mark) :
    Turns ['('] ('?' :: (mark ++ rest)) (enclosing, groups) (opening :: enclosing, groups) := by
  intro whole position scan follows
  obtain ⟨plain, wraps⟩ := role_of_markedBy marked rest
  exact ⟨position + 1, _, follows.enclose (by rw [plain, Bool.false_and]) wraps position,
    scanFrom_opening whole position scan _⟩

theorem turns_marked (marked : opening.MarkedBy mark)
    (lacks : Lacks delimiters (mark.map .plain)) :
    Turns ('(' :: '?' :: mark) rest (enclosing, groups) (opening :: enclosing, groups) :=
  (turns_mark marked).trans (turns_of_skipped (skipped_question.append (skipped_mark lacks)))

/-- Within a group that is no wrapper nothing is numbered. -/
theorem turns_within (other : outer ≠ .plain) (skips : Skipped text) :
    Turns (['('] ++ (text ++ [')'])) rest (outer :: enclosing, groups)
      (outer :: enclosing, groups) := by
  let inner := text ++ [')'] ++ rest
  obtain ⟨opening, wraps⟩ : ∃ opening : Opening, isWrapper inner = decide (opening = .plain) := by
    cases isWrapper inner with
    | false => exact ⟨.atomic, rfl⟩
    | true => exact ⟨.plain, rfl⟩
  have opens : Turns ['('] inner (outer :: enclosing, groups)
      (opening :: outer :: enclosing, groups) := by
    intro whole position scan follows
    have covered : scan.opened.all Opened.isWrapper = false := by
      rw [Bool.eq_false_iff, Ne, follows.all_isWrapper]
      exact fun all => other (all outer List.mem_cons_self)
    exact ⟨position + 1, _, follows.enclose (by rw [covered, Bool.and_false]) wraps position,
      scanFrom_opening whole position scan inner⟩
  exact opens.trans ((turns_of_skipped skips).trans turns_closing)

end Turns

section Runs

variable {next : Progress} {step : Pattern.Step}

/-- A step of the reader turns the scan as it turns the reader. -/
theorem turns_of_outline (outline : Outline step.progress next step.after step.taken)
    (backslash : .plain '\\' ∉ step.taken) (literal : step.Literal) (wrapped : step.Wrapped)
    (tight : step.Tight) :
    Turns (spelling step.taken) (spelling step.after) step.progress.outline next.outline := by
  obtain ⟨progress, taken, after, isAfterBlank⟩ := step
  dsimp only at *
  cases outline with
  | quiet same lacks =>
      rw [same]
      exact turns_of_skipped (skipped_spelling (lacks_cons_sign.mpr ⟨backslash, lacks⟩))
  | bracket same negates lacks =>
      rw [same]
      rw [List.mem_cons, List.mem_append, not_or, not_or] at backslash
      exact turns_of_skipped (skipped_of_tight negates lacks backslash.2.1 tight)
  | close closes =>
      rw [closes]
      exact turns_closing
  | @capture group mark opens marked lacks =>
      have capturing : isCapturing (mark ++ spelling after) = true := by
        rcases marked with ⟨rfl, bare⟩ | named
        · exact isCapturing_of_bare bare
        · exact isCapturing_of_named named _
      have captures : (⟨progress, .plain '(' :: mark.map .plain, after, isAfterBlank⟩ :
          Pattern.Step).Captures := by
        rcases marked with ⟨rfl, -⟩ | ⟨name, rfl⟩
        · exact .inl rfl
        · exact .inr ⟨name.map .plain, rfl⟩
      have spelled : spelling (.plain '(' :: mark.map .plain) = ['('] ++ mark :=
        congrArg ('(' :: ·) (spelling_map_plain mark)
      rw [spelled, opens]
      exact (turns_capture capturing (wrapped captures) group).trans
        (turns_of_skipped (skipped_mark lacks))
  | @enclose opening mark opens marked lacks =>
      have spelled : spelling (.plain '(' :: .plain '?' :: mark.map .plain) = '(' :: '?' :: mark :=
        congrArg ('(' :: '?' :: ·) (spelling_map_plain mark)
      rw [spelled, opens]
      exact turns_marked marked lacks
  | @aside mark same special lacks =>
      have spelled : spelling (.plain '(' :: .plain '?' :: (mark.map .plain ++ [.plain ')'])) =
          '(' :: '?' :: mark ++ [')'] := by
        rw [← List.cons_append, ← List.cons_append, spelling_append]
        exact congrArg ('(' :: '?' :: · ++ [')']) (spelling_map_plain mark)
      rw [spelled, same]
      -- The parenthesis that is opened is closed at once.
      have marked : Opening.MarkedBy mark .atomic := .inr ⟨nofun, special⟩
      exact (turns_marked marked lacks).trans turns_closing
  | @condition group name opens lacks =>
      have spelled :
          spelling (.plain '(' :: .plain '?' :: .plain '(' :: (name.map .plain ++ [.plain ')'])) =
            ['('] ++ (['?'] ++ (['('] ++ (name ++ [')']))) := by
        show '(' :: '?' :: '(' :: spelling (name.map .plain ++ [.plain ')']) = _
        rw [spelling_append, spelling_map_plain]
        rfl
      rw [spelled, opens]
      have marked : Opening.MarkedBy ['('] (.conditional group) := .inr ⟨nofun, by decide⟩
      exact (turns_mark marked).trans ((turns_of_skipped skipped_question).trans
        (turns_within nofun (skipped_mark lacks)))
  | comment text => exact absurd ⟨text, rfl⟩ literal.kept

/-- A run of the reader turns the scan as it turns the reader. -/
theorem turns_of_readSymbols [Host] {limit room : Nat} {isAfterBlank : Bool}
    {progress last : Progress} {symbols : List Symbol}
    (reads : readSymbols limit room progress symbols = .ok last)
    (backslash : .plain '\\' ∉ symbols)
    (fits : ∀ step ∈ stepsFrom room isAfterBlank progress symbols,
      step.Literal ∧ step.Wrapped ∧ step.Tight) :
    Turns (spelling symbols) [] progress.outline last.outline := by
  induction room generalizing isAfterBlank progress symbols with
  | zero =>
      cases symbols with
      | nil =>
          obtain rfl := Except.ok.inj reads
          exact turns_of_skipped (skipped_spelling lacks_nil)
      | cons symbol rest => cases reads
  | succ room ih =>
      cases symbols with
      | nil =>
          obtain rfl := Except.ok.inj reads
          exact turns_of_skipped (skipped_spelling lacks_nil)
      | cons symbol rest =>
          rw [readSymbols] at reads
          obtain ⟨⟨next, after⟩, here, onward⟩ := exists_of_bind_ok reads
          dsimp only at onward
          split at onward
          · cases onward
          rw [stepsFrom, here] at fits
          obtain ⟨⟨literal, wrapped, tight⟩, later⟩ := List.forall_mem_cons.mp fits
          obtain ⟨used, rfl, outline⟩ := readSymbol_outline literal.visible here
          rw [take_taken] at literal wrapped tight
          rw [← List.cons_append, List.mem_append, not_or] at backslash
          have first := turns_of_outline outline backslash.1 literal wrapped tight
          rw [← List.cons_append, spelling_append]
          rw [← List.append_nil (spelling after)] at first
          exact first.trans (ih onward backslash.2 later)

end Runs

/-- In an expression that is read without verbose mode and comments, and in which groups that
capture have only wrappers around them, exactly the groups are found that the reader counts. No
class may have a closing bracket as its first member and a parenthesis behind that, before another
bracket is opened. -/
theorem find?_isSome_iff_le_groupCount [Host] {text : Text} {count : Nat}
    (accepted : groupCount text = .ok count) (literal : ∀ step ∈ steps text, step.Literal)
    (wrapped : ∀ step ∈ steps text, step.Wrapped) (tight : ∀ step ∈ steps text, step.Tight)
    (number : Int) :
    (find? text number).isSome = true ↔ 1 ≤ number ∧ number ≤ count := by
  obtain ⟨progress, reads, ending⟩ := exists_of_bind_ok accepted
  obtain ⟨tree, finishes, same⟩ := exists_of_bind_ok ending
  obtain rfl := Except.ok.inj same
  unfold readProgress at reads
  split at reads
  · cases reads
  next symbols found =>
    obtain ⟨spelled, backslash⟩ := spelling_of_symbols? found
    rw [steps, found] at literal wrapped tight
    have turns := turns_of_readSymbols reads backslash fun step member =>
      ⟨literal step member, wrapped step member, tight step member⟩
    obtain ⟨later, final, ⟨wrappers, counted, known⟩, scanned⟩ :=
      turns text 0 .start Scan.follows_start
    have enclosing : progress.outline.1 = [] := by
      rw [Progress.outline, Progress.enclosing, Progress.openings,
        Progress.below_of_finish finishes]
      rfl
    have opened : final.opened = [] := by
      rw [enclosing] at wrappers
      exact List.map_eq_nil_iff.mp wrappers
    have all : all? text = some final.groups := by
      rw [List.append_nil, ← spelled, scanFrom, opened] at scanned
      exact scanned
    have length : final.groups.length = progress.groups := by
      rw [opened] at known
      exact known.trans counted
    rcases series_all? text with ⟨groups, listed, series⟩ | ⟨nothing, -⟩
    · obtain rfl := Option.some.inj (all.symm.trans listed)
      rw [series.find?_isSome_iff all, length]
    · rw [all] at nothing
      cases nothing

/-- In the text are a wrapper, a name, classes with parentheses and with brackets, an escape, a
look, a condition, modes and a reference. -/
theorem find?_isSome_iff_le_groupCount_mixed :
    groupCount "(?:(?P<n>[)(])|\\()(?<=x)([]a]+)?(?(1)e|(?i:f))(?P=n)".toList = .ok 2 ∧
      ∀ number,
        (find? "(?:(?P<n>[)(])|\\()(?<=x)([]a]+)?(?(1)e|(?i:f))(?P=n)".toList number).isSome =
          true ↔ 1 ≤ number ∧ number ≤ 2 := by
  have accepted : groupCount
      "(?:(?P<n>[)(])|\\()(?<=x)([]a]+)?(?(1)e|(?i:f))(?P=n)".toList = .ok 2 := by
    decide +kernel
  exact ⟨accepted, find?_isSome_iff_le_groupCount accepted (by decide +kernel) (by decide +kernel)
    (by decide +kernel)⟩

/-- A class whose first member is a bracket is over too early for the scan, and its parentheses are
taken for a group or leave one open. -/
theorem find?_of_leading_bracket :
    groupCount "[]()]".toList = .ok 0 ∧
      (∀ step ∈ steps "[]()]".toList, step.Literal ∧ step.Wrapped) ∧
      find? "[]()]".toList 1 = some ⟨1, [], 2, 4, false⟩ ∧
      groupCount "([](])".toList = .ok 1 ∧
      (∀ step ∈ steps "([](])".toList, step.Literal ∧ step.Wrapped) ∧
      find? "([](])".toList 1 = none := by
  decide +kernel

end CaptureGroup

end ItemFilter
