/-
This file proves that remembered answers are the answers of the probe. A verdict that looks them up
is the verdict that the probe itself would give.
-/

import ItemFilter.Verdict

namespace ItemFilter

/-- The probe that always answers. -/
def Probe.answering (answer : Text → Bool) : Probe :=
  fun path => some (answer path)

namespace Memo

/-- Every remembered answer is the answer of the probe. -/
def Faithful (memo : Memo) (probe : Probe) : Prop :=
  ∀ path found, memo.lookup path = some found → probe path = some found

/-- A pass starts without answers. -/
theorem faithful_nil (probe : Probe) : Faithful [] probe := by
  intro path found known
  simp at known

/-- An answer of the probe may be remembered. -/
theorem Faithful.add {memo : Memo} {probe : Probe} (faithful : memo.Faithful probe)
    {path : Text} {found : Bool} (answered : probe path = some found) :
    Faithful (memo ++ [(path, found)]) probe := by
  intro asked known present
  rw [List.lookup_append] at present
  cases earlier : memo.lookup asked with
  | some value =>
      rw [earlier, Option.some_or] at present
      rw [faithful asked value earlier, present]
  | none =>
      rw [earlier, Option.none_or] at present
      by_cases same : asked = path
      · subst asked
        simp only [List.lookup_cons_self, Option.some.injEq] at present
        rw [answered, present]
      · have different : (asked == path) = false := by simp [same]
        simp [List.lookup_cons, different] at present

/-- The memo answers as the probe does. -/
theorem ask_result {memo : Memo} {probe : Probe} (faithful : memo.Faithful probe) (path : Text) :
    (memo.ask probe path).result = probe path := by
  unfold ask
  split
  · next known present => exact (faithful path known present).symm
  · split
    · next found answered => exact answered.symm
    · next broken => exact broken.symm

/-- A question adds at most the answer of the probe. -/
theorem ask_faithful {memo : Memo} {probe : Probe} (faithful : memo.Faithful probe)
    (path : Text) : (memo.ask probe path).memo.Faithful probe := by
  unfold ask
  split
  · exact faithful
  · split
    · next found answered => exact faithful.add answered
    · exact faithful

/-- A path without an answer is never remembered, so each question about it reaches the probe. -/
theorem ask_calls_of_none {memo : Memo} {probe : Probe} (faithful : memo.Faithful probe)
    {path : Text} (broken : probe path = none) : (memo.ask probe path).calls = [path] := by
  have unknown : memo.lookup path = none := by
    cases present : memo.lookup path with
    | none => rfl
    | some known => rw [faithful path known present] at broken; cases broken
  simp [ask, unknown, broken]

/-- A question reaches the probe under its own path only. -/
theorem eq_of_mem_ask_calls {memo : Memo} {probe : Probe} {path called : Text}
    (member : called ∈ (memo.ask probe path).calls) : called = path := by
  unfold ask at member
  split at member
  · simp at member
  · split at member <;> simpa using member

end Memo

namespace Verdict

/-- The verdict after its question was put to the probe itself. -/
def answered (verdict : Verdict) (probe : Probe) : Option (List Diagnostic) :=
  match verdict with
  | .settled diagnostics => some diagnostics
  | .failed => none
  | .asks path answer => (probe path).map answer

/-- A faithful memo does not change a verdict. -/
theorem settle_diagnostics (verdict : Verdict) {probe : Probe} {memo : Memo}
    (faithful : memo.Faithful probe) :
    (verdict.settle probe memo).diagnostics = verdict.answered probe := by
  cases verdict with
  | settled diagnostics => rfl
  | failed => rfl
  | asks path answer =>
      change (memo.ask probe path).result.map answer = (probe path).map answer
      rw [Memo.ask_result faithful]

/-- A verdict leaves a faithful memo behind. -/
theorem settle_faithful (verdict : Verdict) {probe : Probe} {memo : Memo}
    (faithful : memo.Faithful probe) : (verdict.settle probe memo).memo.Faithful probe := by
  cases verdict with
  | settled diagnostics => exact faithful
  | failed => exact faithful
  | asks path answer => exact Memo.ask_faithful faithful path

/-- A probe that always answers leaves only a failed verdict without diagnostics. -/
theorem answered_eq_none_iff (verdict : Verdict) (answer : Text → Bool) :
    verdict.answered (Probe.answering answer) = none ↔ verdict = .failed := by
  cases verdict <;> simp [answered, Probe.answering]

/-- A call that fails belongs to a question that has no answer. -/
theorem broken_call_iff (verdict : Verdict) {probe : Probe} {memo : Memo}
    (faithful : memo.Faithful probe) :
    (∃ path ∈ (verdict.settle probe memo).calls, probe path = none) ↔
      ∃ path answer, verdict = .asks path answer ∧ probe path = none := by
  cases verdict with
  | settled diagnostics => simp [settle]
  | failed => simp [settle]
  | asks path answer =>
      constructor
      · rintro ⟨called, member, broken⟩
        have same := Memo.eq_of_mem_ask_calls member
        exact ⟨path, answer, rfl, same ▸ broken⟩
      · rintro ⟨asked, other, same, broken⟩
        obtain ⟨rfl, rfl⟩ := Verdict.asks.inj same
        refine ⟨path, ?_, broken⟩
        change path ∈ (memo.ask probe path).calls
        rw [Memo.ask_calls_of_none faithful broken]
        exact List.mem_singleton_self path

end Verdict

end ItemFilter
