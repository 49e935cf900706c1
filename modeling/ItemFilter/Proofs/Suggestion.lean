/-
This file says which commands are suggested for a word: first the correction of a common mistake,
then the names within the distance, nearest first and in the order of the catalog among equals.
-/

import Mathlib.Data.List.Nodup
import ItemFilter.Proofs.Catalog
import ItemFilter.Suggestion

namespace ItemFilter.Suggestion

/-- A stable sort orders the items and keeps the order of those that count as equal. -/
theorem pairwise_mergeSort_stable {α : Type} {le : α → α → Bool} {before : α → α → Prop}
    (trans : ∀ first second third, le first second → le second third → le first third)
    (total : ∀ first second, le first second || le second first) {items : List α}
    (ordered : items.Pairwise before) :
    (items.mergeSort le).Pairwise fun left right =>
      le left right = true ∧ (le right left = true → before left right) := by
  -- Sorted along with its index, an item stands before the later ones that equal it.
  let indexed := items.zipIdx.mergeSort (List.zipIdxLE le)
  have sorted : indexed.Pairwise fun left right => List.zipIdxLE le left right = true :=
    List.pairwise_mergeSort (List.zipIdxLE_trans trans) (List.zipIdxLE_total total) _
  have distinct : indexed.Pairwise fun left right => left.2 ≠ right.2 := by
    have indexes : (items.zipIdx.map Prod.snd).Nodup := by
      rw [List.zipIdx_map_snd]
      exact List.nodup_range'
    have permuted := (List.mergeSort_perm items.zipIdx (List.zipIdxLE le)).map Prod.snd
    exact List.pairwise_map.mp (permuted.nodup_iff.mpr indexes)
  rw [← List.mergeSort_zipIdx, List.pairwise_map]
  apply (sorted.and distinct).imp_of_mem
  intro ⟨left, first⟩ ⟨right, second⟩ leftMember rightMember ⟨inOrder, other⟩
  have leftThere : items[first]? = some left :=
    List.mem_zipIdx_iff_getElem?.mp (List.mem_mergeSort.mp leftMember)
  have rightThere : items[second]? = some right :=
    List.mem_zipIdx_iff_getElem?.mp (List.mem_mergeSort.mp rightMember)
  simp only [List.zipIdxLE] at inOrder
  split at inOrder
  · next goesFirst =>
      refine ⟨goesFirst, fun equal => ?_⟩
      rw [if_pos equal, decide_eq_true_iff] at inOrder
      obtain ⟨leftWithin, rfl⟩ := List.getElem?_eq_some_iff.mp leftThere
      obtain ⟨rightWithin, rfl⟩ := List.getElem?_eq_some_iff.mp rightThere
      exact List.pairwise_iff_getElem.mp ordered first second leftWithin rightWithin
        (Nat.lt_of_le_of_ne inOrder other)
  · cases inOrder

section Ranking

variable (word : Text) (catalog : Catalog) (most : Int)

/-- The names within the distance, in the order of the catalog. -/
def near : List Text :=
  catalog.names.filter fun name => decide ((distance word name : Int) ≤ most)

/-- The first name is nearer to the word, or as near and earlier in the catalog. -/
def RanksBefore (left right : Text) : Prop :=
  distance word left < distance word right ∨
    distance word left = distance word right ∧
      catalog.names.idxOf left < catalog.names.idxOf right

/-- The name stands for a common mistake that the word is, and the catalog has it. -/
def Corrects (name : Text) : Prop :=
  mistakes.lookup word.lower = some name ∧ name ∈ catalog.names

theorem ranked_eq_mergeSort :
    ranked word catalog most =
      (near word catalog most).mergeSort fun left right =>
        decide (distance word left ≤ distance word right) := by
  rw [ranked, List.filter_map, List.map_mergeSort, List.map_map]
  · exact congrArg (List.mergeSort · _) (List.map_id _)
  · intro left leftMember right rightMember
    obtain ⟨name, -, rfl⟩ := List.mem_map.mp leftMember
    obtain ⟨other, -, rfl⟩ := List.mem_map.mp rightMember
    rfl

theorem mem_ranked_iff (name : Text) :
    name ∈ ranked word catalog most ↔
      name ∈ catalog.names ∧ (distance word name : Int) ≤ most := by
  rw [ranked_eq_mergeSort, List.mem_mergeSort, near, List.mem_filter, decide_eq_true_iff]

theorem correction?_eq_some_iff (name : Text) :
    correction? word catalog = some name ↔ Corrects word catalog name := by
  have known : catalog.hasName name = true ↔ name ∈ catalog.names := by
    rw [Catalog.hasName, ← not_iff_not, ← Catalog.find?_eq_none_iff, Option.not_isSome_iff_eq_none]
  rw [correction?, Option.filter_eq_some_iff, known, Corrects]

variable {word catalog most} (distinct : catalog.names.Nodup)

include distinct

theorem nodup_ranked : (ranked word catalog most).Nodup := by
  rw [ranked_eq_mergeSort]
  exact (List.mergeSort_perm _ _).nodup_iff.mpr (distinct.filter _)

/-- Names of equal distance keep the order of the catalog. -/
theorem ranked_ordered :
    (ranked word catalog most).Pairwise (RanksBefore word catalog) := by
  have listed : catalog.names.Pairwise fun left right =>
      catalog.names.idxOf left < catalog.names.idxOf right := by
    rw [List.pairwise_iff_getElem]
    intro first second firstWithin secondWithin before
    rw [distinct.idxOf_getElem, distinct.idxOf_getElem]
    exact before
  rw [ranked_eq_mergeSort]
  refine (pairwise_mergeSort_stable ?_ ?_ (listed.filter _)).imp ?_
  · intro first second third below above
    rw [decide_eq_true_iff] at below above ⊢
    exact Nat.le_trans below above
  · intro first second
    rw [Bool.or_eq_true, decide_eq_true_iff, decide_eq_true_iff]
    exact Nat.le_total _ _
  · intro left right ⟨noFarther, earlier⟩
    rw [decide_eq_true_iff] at noFarther earlier
    rcases Nat.lt_or_eq_of_le noFarther with nearer | equal
    · exact .inl nearer
    · exact .inr ⟨equal, earlier (Nat.le_of_eq equal.symm)⟩

end Ranking

section Candidates

variable (word : Text) (catalog : Catalog) (most : Int)

theorem candidates_of_corrects {name : Text} (corrects : Corrects word catalog name) :
    candidates word catalog most =
      name :: (ranked word catalog most).filter (· != name) := by
  rw [candidates, (correction?_eq_some_iff word catalog name).mpr corrects]

theorem candidates_of_no_correction (none : ∀ name, ¬ Corrects word catalog name) :
    candidates word catalog most = ranked word catalog most := by
  have missing : correction? word catalog = .none := by
    rw [Option.eq_none_iff_forall_ne_some]
    intro name found
    exact none name ((correction?_eq_some_iff word catalog name).mp found)
  rw [candidates, missing]

theorem Corrects.unique {word : Text} {catalog : Catalog} {name other : Text}
    (corrects : Corrects word catalog name) (also : Corrects word catalog other) : name = other :=
  Option.some.inj (corrects.1.symm.trans also.1)

theorem mem_candidates_iff (name : Text) :
    name ∈ candidates word catalog most ↔
      (name ∈ catalog.names ∧ (distance word name : Int) ≤ most) ∨ Corrects word catalog name := by
  by_cases correction : ∃ name, Corrects word catalog name
  · obtain ⟨right, corrects⟩ := correction
    have same : Corrects word catalog name ↔ name = right :=
      ⟨fun also => also.unique corrects, fun equal => equal ▸ corrects⟩
    rw [candidates_of_corrects word catalog most corrects, List.mem_cons, List.mem_filter,
      bne_iff_ne, mem_ranked_iff, same]
    tauto
  · rw [not_exists] at correction
    rw [candidates_of_no_correction word catalog most correction, mem_ranked_iff]
    exact (or_iff_left (correction name)).symm

theorem head?_candidates {name : Text} (corrects : Corrects word catalog name) :
    (candidates word catalog most).head? = some name := by
  rw [candidates_of_corrects word catalog most corrects, List.head?_cons]

/-- A limit keeps a start of the list. -/
theorem cut_eq_take (limit : Int) (names : List Text) :
    cut limit names = names.take (if 0 ≤ limit then limit else names.length + limit).toNat := by
  unfold cut
  split
  · rfl
  · congr 1
    omega

variable {word catalog most} (distinct : catalog.names.Nodup)

include distinct

theorem nodup_candidates : (candidates word catalog most).Nodup := by
  by_cases correction : ∃ name, Corrects word catalog name
  · obtain ⟨name, corrects⟩ := correction
    rw [candidates_of_corrects word catalog most corrects, List.nodup_cons]
    exact ⟨by simp, (nodup_ranked distinct).filter _⟩
  · rw [candidates_of_no_correction word catalog most (not_exists.mp correction)]
    exact nodup_ranked distinct

/-- The candidates other than the correction are ranked. -/
theorem candidates_ordered :
    (candidates word catalog most).Pairwise fun left right =>
      ¬ Corrects word catalog left → RanksBefore word catalog left right := by
  by_cases correction : ∃ name, Corrects word catalog name
  · obtain ⟨name, corrects⟩ := correction
    rw [candidates_of_corrects word catalog most corrects, List.pairwise_cons]
    refine ⟨fun _ _ wrong => absurd corrects wrong, ?_⟩
    apply ((ranked_ordered distinct).filter _).imp
    intro left right before _
    exact before
  · rw [candidates_of_no_correction word catalog most (not_exists.mp correction)]
    apply (ranked_ordered distinct).imp
    intro left right before _
    exact before

/-- What a start of the candidates leaves out is no nearer than what it holds. -/
theorem distance_le_of_left_out (count : Nat) {shown hidden : Text}
    (member : shown ∈ (candidates word catalog most).take count)
    (other : ¬ Corrects word catalog shown) (known : hidden ∈ catalog.names)
    (absent : hidden ∉ (candidates word catalog most).take count) :
    distance word shown ≤ distance word hidden := by
  have ordered : (candidates word catalog most).Pairwise _ := candidates_ordered distinct
  have ranked := (mem_candidates_iff word catalog most shown).mp (List.mem_of_mem_take member)
  by_cases listed : hidden ∈ candidates word catalog most
  · rw [← List.take_append_drop count (candidates word catalog most)] at ordered listed
    have later := (List.mem_append.mp listed).resolve_left absent
    rcases (List.pairwise_append.mp ordered).2.2 shown member hidden later other with
      nearer | ⟨equal, -⟩
    · exact Nat.le_of_lt nearer
    · exact Nat.le_of_eq equal
  · have within := (ranked.resolve_right other).2
    have beyond : ¬ (distance word hidden : Int) ≤ most := fun near =>
      listed ((mem_candidates_iff word catalog most hidden).mpr (.inl ⟨known, near⟩))
    omega

end Candidates

/-- The suggestions are a start of a list without repetitions. It holds the names within the
distance and the correction, if there is one. The correction comes first and the others by their
rank, so no name is left out for one that is farther from the word, unless that is the
correction. -/
theorem suggest_ranks (word : Text) {catalog : Catalog} (distinct : catalog.names.Nodup)
    (most limit : Int) :
    ∃ names : List Text, names.Nodup ∧
      suggest word catalog most limit =
        names.take (if 0 ≤ limit then limit else names.length + limit).toNat ∧
      (∀ name, name ∈ names ↔
        (name ∈ catalog.names ∧ (distance word name : Int) ≤ most) ∨
          Corrects word catalog name) ∧
      (∀ name, Corrects word catalog name → names.head? = some name) ∧
      (names.Pairwise fun left right =>
        ¬ Corrects word catalog left → RanksBefore word catalog left right) ∧
      ∀ shown ∈ suggest word catalog most limit, ¬ Corrects word catalog shown →
        ∀ hidden ∈ catalog.names, hidden ∉ suggest word catalog most limit →
          distance word shown ≤ distance word hidden := by
  refine ⟨candidates word catalog most, nodup_candidates distinct, cut_eq_take limit _,
    mem_candidates_iff word catalog most,
    fun name corrects => head?_candidates word catalog most corrects,
    candidates_ordered distinct, ?_⟩
  intro shown member other hidden known absent
  rw [suggest, cut_eq_take] at member absent
  exact distance_le_of_left_out distinct _ member other known absent

/-- The correction is too far from the word to be found by its distance, and comes first. Of the two
names at distance one, the earlier one comes first. -/
theorem suggest_ranks_text :
    let word := "SetText".toList
    let catalog : Catalog := ["SetNext", "SetTextColor", "SetTest"].map fun name =>
      ⟨name.toList, .actions, [[]]⟩
    catalog.names.Nodup ∧ ∃ names : List Text, names.Nodup ∧
      suggest word catalog 3 2 = names.take 2 ∧
      names.head? = some "SetTextColor".toList ∧
      "SetNext".toList ∈ names ∧ "SetTest".toList ∈ names ∧
      names.Pairwise fun left right =>
        ¬ Corrects word catalog left → RanksBefore word catalog left right := by
  intro word catalog
  have distinct : catalog.names.Nodup := by decide
  have corrects : Corrects word catalog "SetTextColor".toList := by
    constructor <;> decide +kernel
  have next : (distance word "SetNext".toList : Int) ≤ 3 := by decide +kernel
  have test : (distance word "SetTest".toList : Int) ≤ 3 := by decide +kernel
  obtain ⟨names, nodup, start, members, first, ordered, -⟩ := suggest_ranks word distinct 3 2
  exact ⟨distinct, names, nodup, start, first _ corrects,
    (members _).mpr (.inl ⟨by decide, next⟩), (members _).mpr (.inl ⟨by decide, test⟩), ordered⟩

end ItemFilter.Suggestion
