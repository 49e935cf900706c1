/-
This file says which violations of a signature are reported for a line: every argument that its
parameter refuses, by its index, and then the first required parameter that has no argument.
-/

import Mathlib.Data.List.Forall2
import Mathlib.Order.Bounds.Defs
import ItemFilter.Proofs.Fit

namespace ItemFilter

namespace Signature

/-- The parameter at the index has a matcher, and it refuses the argument there. -/
def Refuses (signature : Signature) (code : CodeLine) (index : Nat) : Prop :=
  ∃ parameter argument matcher, signature[index]? = some parameter ∧
    code.arguments[index]? = some argument ∧ parameter.matcher = some matcher ∧
    matcher.accepts argument.text = false

/-- The parameter at the index is required, and there is no argument for it. -/
def Lacks (signature : Signature) (code : CodeLine) (index : Nat) : Prop :=
  code.arguments.length ≤ index ∧
    ∃ parameter, signature[index]? = some parameter ∧ parameter.required = true

/-- The diagnostic says that the argument at the index is refused. -/
def ReportsRefusal (signature : Signature) (code : CodeLine) (index : Nat)
    (diagnostic : Diagnostic) : Prop :=
  ∃ parameter argument, signature[index]? = some parameter ∧
    code.arguments[index]? = some argument ∧ diagnostic.code = .parameterMismatch ∧
    diagnostic.span = argument.span code.line.number

/-- The diagnostic says that the parameter at the index has no argument, and names its kind. -/
def ReportsLack (signature : Signature) (code : CodeLine) (index : Nat)
    (diagnostic : Diagnostic) : Prop :=
  ∃ parameter, signature[index]? = some parameter ∧ diagnostic.code = .missingParameter ∧
    diagnostic.span = code.span ∧
    diagnostic.message = "Missing required " ++ parameter.kind.name ++ " parameter for \"" ++
      code.command.text.shown ++ "\""

end Signature

theorem Parameter.accepts_eq_false_iff {parameter : Parameter} {argument : Text} :
    parameter.accepts argument = false ↔
      ∃ matcher, parameter.matcher = some matcher ∧ matcher.accepts argument = false := by
  rw [Parameter.accepts]
  cases parameter.matcher <;> simp

namespace Signature

variable (signature : Signature) (code : CodeLine)

/-- The parameters with their arguments and their index, where the argument is refused. -/
def refusedPairs : List ((Parameter × Token) × Nat) :=
  (signature.zip code.arguments).zipIdx.filter fun pair => !pair.1.1.accepts pair.1.2.text

theorem mem_refusedPairs_iff {parameter : Parameter} {argument : Token} {index : Nat} :
    ((parameter, argument), index) ∈ signature.refusedPairs code ↔
      (signature[index]? = some parameter ∧ code.arguments[index]? = some argument) ∧
        parameter.accepts argument.text = false := by
  rw [refusedPairs, List.mem_filter, List.mem_zipIdx_iff_getElem?, List.getElem?_zip_eq_some,
    Bool.not_eq_true']

/-- Leaving out the indexes gives the pairs that are checked. -/
theorem map_fst_refusedPairs :
    (signature.refusedPairs code).map Prod.fst =
      (signature.zip code.arguments).filter fun pair => !pair.1.accepts pair.2.text := by
  conv_rhs => rw [← List.zipIdx_map_fst 0 (signature.zip code.arguments), List.filter_map]
  rfl

theorem refusedPairs_increasing :
    ((signature.refusedPairs code).map Prod.snd).Pairwise (· < ·) := by
  have increasing : ((signature.zip code.arguments).zipIdx.map Prod.snd).Pairwise (· < ·) := by
    rw [List.zipIdx_map_snd]
    exact List.pairwise_lt_range'
  exact increasing.sublist (List.filter_sublist.map Prod.snd)

theorem mem_map_snd_refusedPairs_iff {index : Nat} :
    index ∈ (signature.refusedPairs code).map Prod.snd ↔ signature.Refuses code index := by
  rw [List.mem_map]
  constructor
  · intro ⟨⟨⟨parameter, argument⟩, place⟩, member, same⟩
    obtain rfl : place = index := same
    obtain ⟨⟨declared, present⟩, refused⟩ := (mem_refusedPairs_iff signature code).mp member
    obtain ⟨matcher, has, rejects⟩ := Parameter.accepts_eq_false_iff.mp refused
    exact ⟨parameter, argument, matcher, declared, present, has, rejects⟩
  · intro ⟨parameter, argument, matcher, declared, present, has, rejects⟩
    have refused := Parameter.accepts_eq_false_iff.mpr ⟨matcher, has, rejects⟩
    exact ⟨((parameter, argument), index),
      (mem_refusedPairs_iff signature code).mpr ⟨⟨declared, present⟩, refused⟩, rfl⟩

theorem reportsRefusal_refusedPairs :
    List.Forall₂ (signature.ReportsRefusal code) ((signature.refusedPairs code).map Prod.snd)
      ((signature.refusedPairs code).map fun pair => mismatch code pair.1.1 pair.1.2) := by
  rw [List.forall₂_map_left_iff, List.forall₂_map_right_iff, List.forall₂_same]
  intro ⟨⟨parameter, argument⟩, index⟩ member
  obtain ⟨⟨declared, present⟩, -⟩ := (mem_refusedPairs_iff signature code).mp member
  exact ⟨parameter, argument, declared, present, rfl, rfl⟩

/-- Of the parameters without an argument, the first required one is found. -/
theorem isLeast_of_find? {parameter : Parameter}
    (found : (signature.drop code.arguments.length).find? Parameter.required = some parameter) :
    ∃ index, IsLeast {index | signature.Lacks code index} index ∧
      signature[index]? = some parameter := by
  obtain ⟨required, place, within, here, earlier⟩ := List.find?_eq_some_iff_getElem.mp found
  have declared : signature[code.arguments.length + place]? = some parameter := by
    rw [← List.getElem?_drop, List.getElem?_eq_getElem within, here]
  refine ⟨code.arguments.length + place, ⟨?_, ?_⟩, declared⟩
  · exact ⟨Nat.le_add_right _ _, parameter, declared, required⟩
  · intro index ⟨absent, other, there, needed⟩
    apply Nat.le_of_not_lt
    intro before
    have sooner := earlier (index - code.arguments.length) (by omega)
    have same : (signature.drop code.arguments.length)[index - code.arguments.length]? =
        some other := by
      rw [List.getElem?_drop, Nat.add_sub_cancel' absent]
      exact there
    rw [(List.getElem?_eq_some_iff.mp same).2, needed] at sooner
    cases sooner

theorem not_lacks_of_find?
    (none : (signature.drop code.arguments.length).find? Parameter.required = none) (index : Nat) :
    ¬ signature.Lacks code index := by
  intro ⟨absent, parameter, declared, required⟩
  apply List.find?_eq_none.mp none parameter _ required
  apply List.mem_of_getElem?
  rw [List.getElem?_drop, Nat.add_sub_cancel' absent]
  exact declared

/-- The arguments that are refused are reported by their indexes, each at its own place. After them
the first required parameter without an argument is reported, if there is one. So nothing is
reported exactly if no argument is refused and no required parameter lacks one. -/
theorem check_lists_violations :
    ∃ refused mismatches lacking, signature.check code = mismatches ++ lacking ∧
      refused.Pairwise (· < ·) ∧ (∀ index, index ∈ refused ↔ signature.Refuses code index) ∧
      List.Forall₂ (signature.ReportsRefusal code) refused mismatches ∧
      ((lacking = [] ∧ ∀ index, ¬ signature.Lacks code index) ∨
        ∃ index diagnostic, IsLeast {index | signature.Lacks code index} index ∧
          lacking = [diagnostic] ∧ signature.ReportsLack code index diagnostic) ∧
      (signature.check code = [] ↔
        (∀ index, ¬ signature.Refuses code index) ∧ ∀ index, ¬ signature.Lacks code index) := by
  let refused := (signature.refusedPairs code).map Prod.snd
  let mismatches := (signature.refusedPairs code).map fun pair => mismatch code pair.1.1 pair.1.2
  let lacking := ((signature.drop code.arguments.length).find? Parameter.required).toList.map
    (missing code)
  have parts : signature.check code = mismatches ++ lacking := by
    rw [check, checkFrom_eq, ← map_fst_refusedPairs, List.map_map]
    rfl
  have lack : (lacking = [] ∧ ∀ index, ¬ signature.Lacks code index) ∨
      ∃ index diagnostic, IsLeast {index | signature.Lacks code index} index ∧
        lacking = [diagnostic] ∧ signature.ReportsLack code index diagnostic := by
    cases found : (signature.drop code.arguments.length).find? Parameter.required with
    | none => exact .inl ⟨by simp [lacking, found], signature.not_lacks_of_find? code found⟩
    | some parameter =>
        obtain ⟨index, least, declared⟩ := signature.isLeast_of_find? code found
        exact .inr ⟨index, missing code parameter, least, by simp [lacking, found],
          parameter, declared, rfl, rfl, rfl⟩
  refine ⟨refused, mismatches, lacking, parts, signature.refusedPairs_increasing code,
    fun index => signature.mem_map_snd_refusedPairs_iff code,
    signature.reportsRefusal_refusedPairs code, lack, ?_⟩
  rw [parts, List.append_eq_nil_iff]
  apply and_congr
  · have none_iff : mismatches = [] ↔ refused = [] := by
      rw [List.map_eq_nil_iff, List.map_eq_nil_iff]
    rw [none_iff, List.eq_nil_iff_forall_not_mem]
    simp only [refused, mem_map_snd_refusedPairs_iff]
  · constructor
    · intro nothing
      rcases lack with ⟨-, complete⟩ | ⟨index, diagnostic, -, reported, -⟩
      · exact complete
      · rw [reported] at nothing
        cases nothing
    · intro complete
      rcases lack with ⟨nothing, -⟩ | ⟨index, diagnostic, least, -⟩
      · exact nothing
      · exact absurd least.1 (complete index)

end Signature

end ItemFilter
