/-
This file compares a pass that remembers answers with one that puts every question to the probe. The
reports are the same, except that a path with an answer is not called again.
-/

import ItemFilter.Proofs.Validation

namespace ItemFilter

namespace Probe

def answers (probe : Probe) (path : Text) : Bool :=
  (probe path).isSome

/-- The calls without those to a path that the probe has answered on an earlier call. -/
def remaining (probe : Probe) (earlier : List Text) : List Text → List Text
  | [] => []
  | path :: rest =>
      if path ∈ earlier ∧ probe.answers path = true then remaining probe (earlier ++ [path]) rest
      else path :: remaining probe (earlier ++ [path]) rest

theorem remaining_append (probe : Probe) (earlier first second : List Text) :
    probe.remaining earlier (first ++ second) =
      probe.remaining earlier first ++ probe.remaining (earlier ++ first) second := by
  induction first generalizing earlier with
  | nil => simp [remaining]
  | cons path rest ih =>
      rw [List.cons_append, remaining, remaining, ih, List.append_assoc]
      split <;> rfl

/-- The answered paths are called once each, in the order of their first use. -/
theorem filter_answers_remaining (probe : Probe) (earlier calls : List Text) :
    (probe.remaining earlier calls).filter probe.answers =
      (calls.filter fun path => probe.answers path && !earlier.contains path).eraseDups := by
  induction calls generalizing earlier with
  | nil => rfl
  | cons path rest ih =>
      -- Only a new path with an answer is struck from what follows.
      have same (idle : ¬ (probe.answers path = true ∧ path ∉ earlier)) :
          (rest.filter fun other =>
              probe.answers other && !(earlier ++ [path]).contains other) =
            rest.filter fun other => probe.answers other && !earlier.contains other := by
        apply List.filter_congr
        intro other _
        by_cases again : other = path
        · subst other
          by_cases used : path ∈ earlier
          · simp [used]
          · have unanswered : ¬ probe.answers path = true := fun answered => idle ⟨answered, used⟩
            simp [unanswered]
        · simp [again]
      rw [remaining]
      by_cases answered : probe.answers path = true
      · by_cases used : path ∈ earlier
        · rw [if_pos ⟨used, answered⟩, ih, same (fun fresh => fresh.2 used)]
          simp [answered, used]
        · have fewer : (rest.filter fun other =>
                probe.answers other && !(earlier ++ [path]).contains other) =
              (rest.filter fun other => probe.answers other && !earlier.contains other).filter
                fun other => !other == path := by
            rw [List.filter_filter]
            apply List.filter_congr
            intro other _
            by_cases again : other = path <;> simp [again]
          rw [if_neg (fun both => used both.1), List.filter_cons_of_pos answered, ih, fewer,
            List.filter_cons_of_pos (by simp [answered, used]), List.eraseDups_cons]
      · rw [if_neg (fun both => answered both.2), List.filter_cons_of_neg answered, ih,
          same (fun fresh => answered fresh.1)]
        simp [answered]

/-- A path that is answered is called once at most, and any other path as often as it is asked
for. -/
theorem count_remaining (probe : Probe) (earlier calls : List Text) (path : Text) :
    (probe.remaining earlier calls).count path =
      if probe.answers path = true then if path ∈ earlier then 0 else min 1 (calls.count path)
      else calls.count path := by
  induction calls generalizing earlier with
  | nil => simp [remaining]
  | cons called rest ih =>
      rw [remaining]
      by_cases same : called = path
      · subst called
        by_cases answered : probe.answers path = true
        · by_cases used : path ∈ earlier
          · simp [ih, answered, used]
          · simp [ih, answered, used]
        · simp [ih, answered]
      · have other : ¬ path = called := fun equal => same equal.symm
        by_cases skipped : called ∈ earlier ∧ probe.answers called = true
        · rw [if_pos skipped, ih]
          simp [same, other]
        · rw [if_neg skipped, List.count_cons_of_ne same, ih]
          simp [same, other]

/-- The answer about `a` is remembered; the look for `c` fails and is tried again. -/
example :
    Probe.remaining (fun path => if path = ['c'] then none else some true) []
      [['a'], ['c'], ['a'], ['b'], ['c']] = [['a'], ['c'], ['b'], ['c']] := by
  decide

end Probe

namespace Memo

/-- The memo holds the answers to the earlier calls and nothing else. -/
def Recalls (memo : Memo) (probe : Probe) (earlier : List Text) : Prop :=
  ∀ path, memo.lookup path = if path ∈ earlier then probe path else none

theorem recalls_nil (probe : Probe) : Recalls [] probe [] := by
  intro path
  simp

theorem Recalls.faithful {memo : Memo} {probe : Probe} {earlier : List Text}
    (recalls : memo.Recalls probe earlier) : memo.Faithful probe := by
  intro path found known
  rw [recalls path] at known
  split at known
  · exact known
  · cases known

/-- A question that is not passed on was answered on an earlier call. -/
theorem ask_calls {memo : Memo} {probe : Probe} {earlier : List Text}
    (recalls : memo.Recalls probe earlier) (path : Text) :
    (memo.ask probe path).calls = probe.remaining earlier [path] := by
  have known := recalls path
  unfold ask
  by_cases used : path ∈ earlier
  · rw [if_pos used] at known
    cases answered : probe path <;> simp [known, answered, Probe.remaining, Probe.answers, used]
  · rw [if_neg used] at known
    cases probe path <;> simp [known, Probe.remaining, used]

/-- The memo takes up the answer to each question. -/
theorem ask_recalls {memo : Memo} {probe : Probe} {earlier : List Text}
    (recalls : memo.Recalls probe earlier) (path : Text) :
    (memo.ask probe path).memo.Recalls probe (earlier ++ [path]) := by
  intro other
  have known := recalls path
  unfold ask
  by_cases same : other = path
  · subst other
    by_cases used : path ∈ earlier
    · rw [if_pos used] at known
      cases answered : probe path <;> simp [known, answered]
    · rw [if_neg used] at known
      cases answered : probe path <;> simp [known, List.lookup_append]
  · have elsewhere (found : Bool) : (memo ++ [(path, found)]).lookup other = memo.lookup other := by
      have different : (other == path) = false := by simp [same]
      simp [List.lookup_append, List.lookup_cons, different]
    have before := recalls other
    cases memo.lookup path with
    | some found => simp [before, same]
    | none => cases probe path <;> simp [elsewhere, before, same]

end Memo

namespace Verdict

/-- The paths that a verdict asks for. -/
def questions : Verdict → List Text
  | .asks path _ => [path]
  | .settled _ | .failed => []

/-- A verdict passes on the questions that no earlier call has answered. -/
theorem settle_calls (verdict : Verdict) {probe : Probe} {memo : Memo} {earlier : List Text}
    (recalls : memo.Recalls probe earlier) :
    (verdict.settle probe memo).calls = probe.remaining earlier verdict.questions := by
  cases verdict with
  | settled diagnostics => rfl
  | failed => rfl
  | asks path answer => exact Memo.ask_calls recalls path

theorem settle_recalls (verdict : Verdict) {probe : Probe} {memo : Memo} {earlier : List Text}
    (recalls : memo.Recalls probe earlier) :
    (verdict.settle probe memo).memo.Recalls probe (earlier ++ verdict.questions) := by
  cases verdict with
  | settled diagnostics => simpa [settle, questions] using recalls
  | failed => simpa [settle, questions] using recalls
  | asks path answer => exact Memo.ask_recalls recalls path

end Verdict

namespace Pass

/-- A step that puts its question to the probe, whatever was answered before. -/
def directStep (setting : Setting) (probe : Probe) (block : BlockState) (line : Line) : Step :=
  match CodeLine.ofLine? line with
  | none => ⟨[], ⟨block, []⟩, [], false⟩
  | some code =>
      let verdict := setting.judge block code
      let after : State := ⟨block.next (setting.opensBlock code), []⟩
      match verdict.answered probe with
      | some diagnostics => ⟨diagnostics, after, verdict.questions, false⟩
      | none => ⟨[.plain .internalError line.span], after, verdict.questions, true⟩

/-- The steps of a pass without a memo, line by line. -/
def directSteps (setting : Setting) (probe : Probe) (block : BlockState) : List Line → List Step
  | [] => []
  | line :: rest =>
      let first := directStep setting probe block line
      first :: directSteps setting probe first.state.block rest

/-- What is seen of a step, apart from its calls. -/
def Step.seen (step : Step) : List Diagnostic × Bool :=
  (step.diagnostics, step.failed)

/-- The two steps agree on the line and the blocks. The remembering one makes the calls that
remain after the earlier ones, and it recalls all answers after that. -/
structure Follows (probe : Probe) (earlier : List Text) (step direct : Step) : Prop where
  seen : step.seen = direct.seen
  block : step.state.block = direct.state.block
  calls : step.calls = probe.remaining earlier direct.calls
  recalls : step.state.memo.Recalls probe (earlier ++ direct.calls)

theorem step_follows (setting : Setting) {probe : Probe} {state : State} {earlier : List Text}
    (line : Line) (recalls : state.memo.Recalls probe earlier) :
    Follows probe earlier (step setting probe state line)
      (directStep setting probe state.block line) := by
  unfold step directStep
  cases CodeLine.ofLine? line with
  | none => exact ⟨rfl, rfl, rfl, by simpa using recalls⟩
  | some code =>
      have same := (setting.judge state.block code).settle_diagnostics recalls.faithful
      have calls := (setting.judge state.block code).settle_calls recalls
      have kept := (setting.judge state.block code).settle_recalls recalls
      dsimp only
      rw [same]
      cases (setting.judge state.block code).answered probe with
      | some diagnostics => exact ⟨rfl, rfl, calls, kept⟩
      | none => exact ⟨rfl, rfl, calls, kept⟩

/-- The whole pass is seen as the one without a memo, and makes the calls that remain of it. -/
theorem steps_follow (setting : Setting) {probe : Probe} {state : State} {earlier : List Text}
    (lines : List Line) (recalls : state.memo.Recalls probe earlier) :
    (steps setting probe state lines).map Step.seen =
        (directSteps setting probe state.block lines).map Step.seen ∧
      (steps setting probe state lines).flatMap Step.calls =
        probe.remaining earlier
          ((directSteps setting probe state.block lines).flatMap Step.calls) := by
  induction lines generalizing state earlier with
  | nil => exact ⟨rfl, rfl⟩
  | cons line rest ih =>
      have first := step_follows setting line recalls
      obtain ⟨seen, calls⟩ := ih first.recalls
      simp only [steps, directSteps, List.map_cons, List.flatMap_cons, ← first.block, first.seen,
        seen, calls, first.calls, Probe.remaining_append, true_and]

end Pass

/-- The report with the calls that remain when answers are remembered. -/
def Report.recalling (probe : Probe) (report : Report) : Report :=
  { report with calls := probe.remaining [] report.calls }

namespace Validation

/-- What the steps of a pass over the lines report. -/
def reportOf (lines : List Line) (steps : List Pass.Step) : Report :=
  let failed := (lines.zip steps).filter fun (_, step) => step.failed
  ⟨steps.flatMap Pass.Step.diagnostics, steps.flatMap Pass.Step.calls,
    failed.map fun (line, _) => .unjudged line⟩

/-- Validation that calls the probe for every question. -/
def validateDirectly (document : Document) (catalog : Catalog) (options : Options)
    (services : Services) : Except PathFault Report := do
  let whole := checkWhole document services.checker
  if catalog.isEmpty then return whole
  else
    let directory ← document.directory services.workplace
    let setting : Setting := ⟨catalog, options, directory⟩
    let steps := Pass.directSteps setting services.probe .outside document.numbered
    return (reportOf document.numbered steps).append whole

/-- A report depends on the calls and on what else is seen of the steps. -/
theorem reportOf_of_seen (lines : List Line) {steps others : List Pass.Step}
    (same : steps.map Pass.Step.seen = others.map Pass.Step.seen) :
    reportOf lines steps =
      { reportOf lines others with calls := steps.flatMap Pass.Step.calls } := by
  have diagnostics (steps : List Pass.Step) :
      (reportOf lines steps).diagnostics = (steps.map Pass.Step.seen).flatMap Prod.fst := by
    rw [List.flatMap_map]
    rfl
  have incidents (steps : List Pass.Step) :
      (reportOf lines steps).incidents =
        ((lines.zip (steps.map Pass.Step.seen)).filter fun (_, seen) => seen.2).map
          fun (line, _) => .unjudged line := by
    rw [List.zip_map_right, List.filter_map, List.map_map]
    rfl
  have sameDiagnostics := diagnostics steps
  have sameIncidents := incidents steps
  rw [same, ← diagnostics] at sameDiagnostics
  rw [same, ← incidents] at sameIncidents
  dsimp only
  rw [← sameDiagnostics, ← sameIncidents]
  rfl

/-- The check of the whole document looks for no files. -/
theorem checkWhole_calls (document : Document) (checker : Checker) :
    (checkWhole document checker).calls = [] := by
  unfold checkWhole
  split <;> rfl

/-- The check of the lines makes the calls that remain, and is otherwise the direct one. -/
theorem checkLines_recalls (document : Document) (setting : Setting) (probe : Probe) :
    checkLines document setting probe =
      (reportOf document.numbered
        (Pass.directSteps setting probe .outside document.numbered)).recalling probe := by
  have start : Pass.State.start.memo.Recalls probe [] := Memo.recalls_nil probe
  obtain ⟨seen, calls⟩ := Pass.steps_follow setting document.numbered start
  have parts := reportOf_of_seen document.numbered seen
  rw [calls] at parts
  exact parts

/-- Remembering answers changes nothing in a report but its calls: those to a path that was answered
before are left out. So each answered path is called once, in the order of first use, and each other
path as often as it is asked for. -/
theorem validate_recalls (document : Document) (catalog : Catalog) (options : Options)
    (services : Services) :
    let probe := services.probe
    validate document catalog options services =
        (validateDirectly document catalog options services).map (Report.recalling probe) ∧
      ∀ calls : List Text,
        (probe.remaining [] calls).filter probe.answers =
            (calls.filter probe.answers).eraseDups ∧
          ∀ path, (probe.remaining [] calls).count path =
            if probe.answers path = true then min 1 (calls.count path) else calls.count path := by
  intro probe
  refine ⟨?_, fun calls => ⟨?_, fun path => ?_⟩⟩
  · have noCalls := checkWhole_calls document services.checker
    unfold validate validateDirectly
    by_cases empty : catalog.isEmpty = true
    · have unchanged : checkWhole document services.checker =
          (checkWhole document services.checker).recalling probe := by
        rw [Report.recalling, noCalls, Probe.remaining, ← noCalls]
      simp only [empty, if_true]
      exact congrArg Except.ok unchanged
    · cases document.directory services.workplace with
      | error fault =>
          simp only [empty]
          rfl
      | ok directory =>
          have lines := checkLines_recalls document ⟨catalog, options, directory⟩ probe
          simp only [empty]
          refine congrArg Except.ok ?_
          rw [lines, Report.append, Report.append, Report.recalling, Report.recalling, noCalls,
            List.append_nil, List.append_nil]
  · simpa using probe.filter_answers_remaining [] calls
  · simpa using probe.count_remaining [] calls path

end Validation

end ItemFilter
