/-
This file compares trees before and after blanks are made looser. The new tree leads on wherever the
old one does, and where there were no blanks it is the same search of the same width.
-/

import Mathlib.Data.List.Chain
import Mathlib.Data.List.Forall2
import ItemFilter.Proofs.Pattern.Blankless

namespace ItemFilter.Pattern

/-- The new tree is as loose as the old one, and no looser if the old one has no blanks. -/
structure Node.Twin [Host] (old new : Node) : Prop where
  loose : old.search.Le new.search
  tight : old.Blankless → new.search = old.search ∧ new.width [] = old.width []

/-- The same of items one after the other. -/
structure Twins [Host] (old new : List Node) : Prop where
  loose : (searchAll old).Le (searchAll new)
  tight : BlanklessAll old → searchAll new = searchAll old ∧ widthAll new = widthAll old

section Widths

theorem Width.plus_assoc [Host] (first second third : Width) :
    (first.plus second).plus third = first.plus (second.plus third) := by
  simp only [plus, clip, Width.mk.injEq]
  omega

theorem widthAll_clip [Host] (nodes : List Node) : (widthAll nodes).clip = widthAll nodes := by
  cases nodes with
  | nil => rfl
  | cons node others =>
      show ((node.width []).plus (widthAll others)).clip = (node.width []).plus (widthAll others)
      simp only [Width.plus, Width.clip, Width.mk.injEq]
      omega

theorem widthAll_append [Host] (left right : List Node) :
    widthAll (left ++ right) = (widthAll left).plus (widthAll right) := by
  induction left with
  | nil =>
      have zero : Width.plus ⟨0, 0⟩ (widthAll right) = (widthAll right).clip := by
        rw [Width.plus, Nat.zero_add, Nat.zero_add]
      exact (zero.trans (widthAll_clip right)).symm
  | cons node others ih =>
      show (node.width []).plus (widthAll (others ++ right)) = _
      rw [ih, ← Width.plus_assoc]
      rfl

end Widths

section Lists

variable {old new otherOld otherNew : List Node}

theorem Twins.refl [Host] (nodes : List Node) : Twins nodes nodes :=
  ⟨searchAll_le nodes, fun _ => ⟨rfl, rfl⟩⟩

theorem BlanklessAll.of_append {left right : List Node} (blankless : BlanklessAll (left ++ right)) :
    BlanklessAll left ∧ BlanklessAll right := by
  obtain ⟨each, apart⟩ := blankless
  obtain ⟨inLeft, inRight⟩ := List.forall_mem_append.mp each
  exact ⟨⟨inLeft, apart.left_of_append⟩, ⟨inRight, apart.right_of_append⟩⟩

theorem Twins.append [Host] (twins : Twins old new) (others : Twins otherOld otherNew) :
    Twins (old ++ otherOld) (new ++ otherNew) := by
  refine ⟨searchAll_append_le twins.loose others.loose, ?_⟩
  intro blankless
  obtain ⟨left, right⟩ := blankless.of_append
  obtain ⟨search, width⟩ := twins.tight left
  obtain ⟨otherSearch, otherWidth⟩ := others.tight right
  constructor
  · funext rest
    rw [searchAll_append, searchAll_append, search, otherSearch]
  · rw [widthAll_append, widthAll_append, width, otherWidth]

/-- The values of branches agree if those of each branch do. -/
theorem foldBranches_congr {M : Type} {add : Node → M → M} {join : M → M → M} {last : M}
    {olds news : List (List Node)}
    (same : List.Forall₂ (fun old new => old.foldr add last = new.foldr add last) olds news) :
    foldBranches add join last olds = foldBranches add join last news := by
  induction same with
  | nil => rfl
  | cons here later ih =>
      cases later with
      | nil => exact here
      | cons next more => exact congrArg₂ join here ih

/-- Branches that are twins are twins when they are put together. -/
theorem Twins.items [Host] {modes : Modes} {olds news : List (List Node)}
    (twins : List.Forall₂ Twins olds news) (nonempty : olds ≠ [])
    (uniform : ∀ branch ∈ olds, Uniform modes branch)
    (uniformNew : ∀ branch ∈ news, Uniform modes branch)
    (steady : ∀ branch ∈ olds, EndsSteady branch)
    (steadyNew : ∀ branch ∈ news, EndsSteady branch) :
    Twins (Alternation.items modes olds) (Alternation.items modes news) := by
  have several : news ≠ [] := by
    rintro rfl
    exact nonempty (List.forall₂_nil_right_iff.mp twins)
  have apart := searchAll_items nonempty uniform steady
  have apartNew := searchAll_items several uniformNew steadyNew
  constructor
  · rw [apart, apartNew]
    exact searchBranches_le (twins.imp fun _ _ twin => twin.loose)
  · intro blankless
    have each := splits_blankless.ofItems blankless
    have same : List.Forall₂ (fun old new => searchAll new = searchAll old ∧
        widthAll new = widthAll old) olds news := by
      apply ((List.forall₂_and_left olds news).mpr ⟨each, twins⟩).imp
      intro old new both
      exact both.2.tight both.1
    constructor
    · rw [apart, apartNew]
      funext rest
      apply Eq.symm
      apply foldBranches_congr
      exact same.imp fun _ _ branch => congrFun branch.1.symm rest
    · rw [widthAll_items modes nonempty, widthAll_items modes several]
      apply Eq.symm
      apply foldBranches_congr
      exact same.imp fun _ _ branch => branch.2.symm

end Lists

section Nodes

variable {old new : Node}

theorem Twins.node [Host] {olds news : List Node} (twins : Twins olds news) :
    (Node.sequenceOf olds).Twin (Node.sequenceOf news) := by
  constructor
  · rw [search_sequenceOf, search_sequenceOf]
    exact twins.loose
  · intro blankless
    rw [search_sequenceOf, search_sequenceOf, width_sequenceOf, width_sequenceOf]
    exact twins.tight (blanklessAll_of_sequenceOf blankless)

namespace Node.Twin

theorem single [Host] (twin : old.Twin new) : Twins [old] [new] := by
  refine ⟨twin.loose, ?_⟩
  intro blankless
  obtain ⟨search, width⟩ := twin.tight (blankless.each old List.mem_cons_self)
  refine ⟨search, ?_⟩
  show (new.width []).plus ⟨0, 0⟩ = (old.width []).plus ⟨0, 0⟩
  rw [width]

/-- Without references the widths of groups do not count. -/
theorem width_eq [Host] (twin : old.Twin new) (blankless : old.Blankless)
    (unreferenced : old.Unreferenced) (newUnreferenced : new.Unreferenced)
    (groups newGroups : List (Nat × Width)) : new.width newGroups = old.width groups := by
  rw [newUnreferenced.width, unreferenced.width]
  exact (twin.tight blankless).2

theorem refl [Host] (node : Node) : node.Twin node :=
  ⟨Node.search_le node, fun _ => ⟨rfl, rfl⟩⟩

/-- A class that lists more is looser. -/
theorem widened [Host] {leaf other : Atom} (widens : leaf.widensTo other = true) {modes : Modes}
    (steady : leaf.Steady modes) (steadyNew : other.Steady modes) :
    (Node.atom modes leaf).Twin (.atom modes other) := by
  obtain ⟨written, wider⟩ := Bool.and_eq_true_iff.mp widens
  have same : ∀ atom : Atom, Alternation.members? [.atom .none atom] =
      Alternation.members? [.atom modes atom] := by
    intro atom
    rcases atom with _ | ⟨code, _ | _⟩ | ⟨listed, _ | _⟩ <;> rfl
  rw [same, same] at wider
  split at wider
  · next members others found foundOther =>
      constructor
      · rw [steady.search_eq found, steadyNew.search_eq foundOther]
        exact Way.ofMembers_le wider modes
      · intro blankless
        rw [blankless] at written
        cases written
  · cases wider

theorem enclosed [Host] (twin : old.Twin new) : (Node.enclosed old).Twin (.enclosed new) :=
  ⟨twin.loose, twin.tight⟩

theorem capture [Host] (twin : old.Twin new) (group other : Nat) :
    (Node.capture group old).Twin (.capture other new) :=
  ⟨twin.loose, twin.tight⟩

theorem look [Host] (twin : old.Twin new) {direction : Direction} {negated : Bool}
    (relaxed : (Node.look direction negated old).Relaxed) :
    (Node.look direction negated old).Twin (.look direction negated new) := by
  have same : old.Blankless → (Node.look direction negated new).search =
      (Node.look direction negated old).search := by
    intro blankless
    cases direction <;> (funext rest; rw [Node.search, Node.search, (twin.tight blankless).1])
  refine ⟨?_, fun blankless => ⟨same blankless, rfl⟩⟩
  by_cases lenient : direction = .ahead ∧ negated = false
  · obtain ⟨rfl, rfl⟩ := lenient
    exact twin.loose.looking
  · have blankless : old.Blankless := by
      cases direction with
      | ahead =>
          cases negated with
          | false => exact absurd ⟨rfl, rfl⟩ lenient
          | true => exact relaxed
      | behind width => exact relaxed
    rw [same blankless]
    exact Node.search_le _

theorem atomic [Host] (twin : old.Twin new) (blankless : old.Blankless) :
    (Node.atomic old).Twin (.atomic new) := by
  obtain ⟨search, width⟩ := twin.tight blankless
  have same : (Node.atomic new).search = (Node.atomic old).search := by
    funext rest
    rw [Node.search, Node.search, search]
  refine ⟨?_, fun _ => ⟨same, width⟩⟩
  rw [same]
  exact Node.search_le _

theorem repeated [Host] (twin : old.Twin new) {greed : Greed} {least : Nat} {most : Option Nat}
    (relaxed : (Node.repeated greed least most old).Relaxed) :
    (Node.repeated greed least most old).Twin (.repeated greed least most new) := by
  have same : old.Blankless → (Node.repeated greed least most new).search =
      (Node.repeated greed least most old).search := by
    intro blankless
    funext rest
    rw [Node.search, Node.search, (twin.tight blankless).1]
  refine ⟨?_, ?_⟩
  · by_cases possessive : greed = .possessive
    · subst possessive
      rw [same relaxed]
      exact Node.search_le _
    · exact twin.loose.turns possessive least (most.map (· - least))
  · intro blankless
    refine ⟨same blankless, ?_⟩
    rw [Node.width, Node.width, (twin.tight blankless).2]

end Node.Twin

/-- A group that gives its items away is as loose as one that keeps them. -/
theorem Twins.captured [Host] {olds news : List Node} (twins : Twins olds news) (group : Nat) :
    Twins olds [.capture group (.sequenceOf news)] := by
  have search : searchAll [.capture group (.sequenceOf news)] = searchAll news :=
    search_sequenceOf news
  have width : widthAll [.capture group (.sequenceOf news)] = widthAll news :=
    (Node.width_plus_zero _).trans (width_sequenceOf news)
  constructor
  · rw [search]
    exact twins.loose
  · rw [search, width]
    exact twins.tight

/-- A run of blanks is looser as one. -/
theorem twins_run [Host] {modes : Modes} {run : List Node} (inRun : ∀ node ∈ run, node.InRun modes)
    (greed : Greed) : Twins (run ++ [.gap modes greed]) [.gap modes greed] := by
  refine ⟨searchAll_run_le inRun greed, ?_⟩
  intro blankless
  -- The last tree of the run would be a blank, or stand before another `\s+`.
  have nothing : run = [] := by
    rcases List.eq_nil_or_concat run with rfl | ⟨others, last, rfl⟩
    · rfl
    rw [List.concat_eq_append] at blankless inRun
    obtain ⟨each, -⟩ := List.forall_mem_append.mp blankless.each
    have own : last.Blankless := each last (by simp)
    have apart : ¬(last.IsGap ∧ (Node.gap modes greed).IsGap) := by
      have chain := blankless.apart
      rw [List.append_assoc] at chain
      exact List.isChain_pair.mp chain.right_of_append
    rcases inRun last (by simp) with rfl | rfl | rfl
    · cases own
    · cases own
    · exact absurd ⟨⟨modes, .greedy, rfl⟩, ⟨modes, greed, rfl⟩⟩ apart
  rw [nothing]
  exact ⟨rfl, rfl⟩

/-- A run may also end with a blank. -/
theorem twins_of_inRun [Host] {modes : Modes} {run : List Node} (nonempty : run ≠ [])
    (inRun : ∀ node ∈ run, node.InRun modes) : Twins run [.gap modes .greedy] := by
  rcases List.eq_nil_or_concat run with rfl | ⟨others, last, rfl⟩
  · exact absurd rfl nonempty
  rw [List.concat_eq_append] at inRun ⊢
  obtain ⟨before, own⟩ := List.forall_mem_append.mp inRun
  have joined := twins_run before .greedy
  have ended : last.InRun modes := own last List.mem_cons_self
  constructor
  · intro rest search rests
    have wider : (searchAll [last]).Le (searchAll [.gap modes .greedy]) := ended.search_le
    have apart := searchAll_append_le (searchAll_le others) wider (Search.Le.refl rest)
    have whole := joined.loose rests
    exact fun place counted found => whole place counted (apart place counted found)
  · intro blankless
    have own := blankless.each last (by simp)
    rcases ended with rfl | rfl | rfl
    · cases own
    · cases own
    · exact joined.tight blankless

end Nodes

end ItemFilter.Pattern
