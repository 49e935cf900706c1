/-
This file defines which trees hold no blank that normalizing makes looser, and which trees hold such
blanks only where more may match. It follows these properties from a group back to its branches.
-/

import ItemFilter.Proofs.Pattern.Loosening

namespace ItemFilter.Pattern

/-- The leaf does not stand for a space or a tabulator that is written out. -/
def Atom.isBlankless : Atom → Bool
  | .any => true
  | .literal code negated => negated || !(code == ' '.toNat || code == '\t'.toNat)
  | .oneOf members negated =>
      negated || !(members.contains (.single ' '.toNat) || members.contains (.single '\t'.toNat))

theorem Atom.isBlankless_oneOf {members : List Member} :
    (Atom.oneOf members false).isBlankless = true ↔
      .single ' '.toNat ∉ members ∧ .single '\t'.toNat ∉ members := by
  simp [isBlankless]

/-- The class lists a blank that is written out, and the other one lists `\s` for it and all its
other members. -/
def Atom.widensTo (leaf other : Atom) : Bool :=
  !leaf.isBlankless &&
    match Alternation.members? [.atom .none leaf], Alternation.members? [.atom .none other] with
    | some members, some others => members.all (Member.isKept others)
    | _, _ => false

namespace Node

def IsGap (node : Node) : Prop :=
  ∃ modes greed, node = .gap modes greed

def StartsGap : Node → Prop
  | .sequence first _ => first.IsGap
  | node => node.IsGap

/-- No blank is written out, and no `\s+` stands before another. -/
def Blankless : Node → Prop
  | .empty | .anchor _ _ | .reference _ _ => True
  | .atom _ leaf => leaf.isBlankless = true
  | .sequence first second =>
      first.Blankless ∧ second.Blankless ∧ ¬(first.IsGap ∧ second.StartsGap)
  | .choice first second | .conditional _ first second => first.Blankless ∧ second.Blankless
  | .enclosed body | .capture _ body | .look _ _ body | .atomic body | .repeated _ _ _ body =>
      body.Blankless

/-- Where the first match is taken for good, where something must not match and where a look goes
back, there are no blanks. -/
def Relaxed : Node → Prop
  | .empty | .atom _ _ | .anchor _ _ | .reference _ _ => True
  | .sequence first second | .choice first second | .conditional _ first second =>
      first.Relaxed ∧ second.Relaxed
  | .enclosed body | .capture _ body | .look .ahead false body => body.Relaxed
  | .look _ _ body | .atomic body | .repeated .possessive _ _ body => body.Blankless
  | .repeated _ _ _ body => body.Relaxed

theorem Blankless.relaxed {node : Node} (blankless : node.Blankless) : node.Relaxed := by
  induction node with
  | empty | atom | anchor | reference => trivial
  | sequence first second left right => exact ⟨left blankless.1, right blankless.2.1⟩
  | choice first second left right => exact ⟨left blankless.1, right blankless.2⟩
  | conditional group first second left right => exact ⟨left blankless.1, right blankless.2⟩
  | enclosed body ih => exact ih blankless
  | capture group body ih => exact ih blankless
  | look direction negated body ih =>
      cases direction with
      | ahead =>
          cases negated with
          | false => exact ih blankless
          | true => exact blankless
      | behind width => exact blankless
  | atomic body ih => exact blankless
  | repeated greed least most body ih =>
      cases greed with
      | greedy => exact ih blankless
      | reluctant => exact ih blankless
      | possessive => exact blankless

end Node

/-- The items, one after the other, are blankless. -/
structure BlanklessAll (nodes : List Node) : Prop where
  each : ∀ node ∈ nodes, node.Blankless
  apart : nodes.IsChain fun first second => ¬(first.IsGap ∧ second.IsGap)

theorem blanklessAll_of_sequenceOf {nodes : List Node}
    (blankless : (Node.sequenceOf nodes).Blankless) : BlanklessAll nodes := by
  induction nodes with
  | nil => exact ⟨nofun, .nil⟩
  | cons item rest ih =>
      cases rest with
      | nil => exact ⟨List.forall_mem_singleton.mpr blankless, .singleton item⟩
      | cons next others =>
          obtain ⟨first, second, apart⟩ := blankless
          obtain ⟨each, chain⟩ := ih second
          refine ⟨List.forall_mem_cons.mpr ⟨first, each⟩, .cons_cons ?_ chain⟩
          rintro ⟨gap, ⟨modes, greed, rfl⟩⟩
          apply apart
          refine ⟨gap, ?_⟩
          cases others with
          | nil => exact ⟨modes, greed, rfl⟩
          | cons third more => exact ⟨modes, greed, rfl⟩

/-- A property of trees, and of lists of items, that holds of the branches of a group if it holds of
the group. -/
structure Splits (holds : Node → Prop) (each : List Node → Prop) : Prop where
  member : ∀ nodes, each nodes → ∀ node ∈ nodes, holds node
  leaf : ∀ node rest, node.isLeaf = true → holds node → each rest → each (node :: rest)
  ofSequence : ∀ nodes, holds (.sequenceOf nodes) → each nodes
  ofChoice : ∀ first second, holds (.choice first second) → holds first ∧ holds second
  ofClass : ∀ modes members branch own, holds (.atom modes (.oneOf members false)) →
    Alternation.members? branch = some own → own ⊆ members → each branch

theorem exists_of_mapM_eq_some {α β : Type} {read : α → Option β} {inputs : List α}
    {outputs : List β} (all : inputs.mapM read = some outputs) {input : α}
    (listed : input ∈ inputs) : ∃ output ∈ outputs, read input = some output := by
  induction inputs generalizing outputs with
  | nil => cases listed
  | cons first others ih =>
      rw [List.mapM_cons] at all
      obtain ⟨output, here, all⟩ := Option.bind_eq_some_iff.mp all
      obtain ⟨rest, later, all⟩ := Option.bind_eq_some_iff.mp all
      obtain rfl := Option.some.inj all
      rcases List.mem_cons.mp listed with rfl | behind
      · exact ⟨output, List.mem_cons_self, here⟩
      · obtain ⟨found, among, same⟩ := ih later behind
        exact ⟨found, List.mem_cons_of_mem output among, same⟩

namespace Splits

variable {holds : Node → Prop} {each : List Node → Prop}

theorem ofChoiceOf (splits : Splits holds each) {branches : List Node}
    (whole : holds (.choiceOf branches)) : ∀ branch ∈ branches, holds branch := by
  induction branches with
  | nil => exact nofun
  | cons branch rest ih =>
      cases rest with
      | nil => exact List.forall_mem_singleton.mpr whole
      | cons next others =>
          obtain ⟨first, later⟩ := splits.ofChoice _ _ whole
          exact List.forall_mem_cons.mpr ⟨first, ih later⟩

theorem ofSplitShared (splits : Splits holds each) {first : List Node} {others : List (List Node)}
    (shared : ∀ node ∈ (Alternation.splitShared first others).1, holds node)
    (remaining : ∀ branch ∈ (Alternation.splitShared first others).2, each branch) :
    ∀ branch ∈ first :: others, each branch := by
  induction first generalizing others with
  | nil => exact remaining
  | cons item rest ih =>
      rw [Alternation.splitShared] at shared remaining
      split at shared
      · next common =>
          rw [if_pos common] at remaining
          obtain ⟨leaf, begins⟩ := Bool.and_eq_true_iff.mp common
          obtain ⟨own, later⟩ := List.forall_mem_cons.mp shared
          obtain ⟨here, there⟩ := List.forall_mem_cons.mp (ih later remaining)
          refine List.forall_mem_cons.mpr ⟨splits.leaf item rest leaf own here, ?_⟩
          intro branch member
          have same := List.all_eq_true.mp begins branch member
          have whole : branch = item :: branch.tail :=
            List.eq_cons_of_mem_head? (by simpa using same)
          rw [whole]
          exact splits.leaf item branch.tail leaf own (there _ (List.mem_map_of_mem member))
      · next different =>
          rw [if_neg different] at remaining
          exact remaining

/-- The items of a group split into its branches. -/
theorem ofItems (splits : Splits holds each) {modes : Modes} {branches : List (List Node)}
    (all : each (Alternation.items modes branches)) : ∀ branch ∈ branches, each branch := by
  unfold Alternation.items at all
  split at all
  · exact nofun
  · exact List.forall_mem_singleton.mpr all
  · next first others several =>
      dsimp only at all
      split at all
      · next members found =>
          obtain ⟨shared, last⟩ := List.forall_mem_append.mp (splits.member _ all)
          apply splits.ofSplitShared shared
          intro branch listed
          obtain ⟨own, among, ofBranch⟩ := exists_of_mapM_eq_some found listed
          apply splits.ofClass modes _ branch own (List.forall_mem_singleton.mp last) ofBranch
          intro member inside
          exact List.mem_eraseDups.mpr (List.mem_flatten.mpr ⟨own, among, inside⟩)
      · obtain ⟨shared, last⟩ := List.forall_mem_append.mp (splits.member _ all)
        apply splits.ofSplitShared shared
        intro branch listed
        apply splits.ofSequence
        exact splits.ofChoiceOf (List.forall_mem_singleton.mp last) _ (List.mem_map_of_mem listed)

/-- A property of each item alone, which all characters have. -/
theorem ofEach (sequence : ∀ first second, holds (.sequence first second) →
      holds first ∧ holds second)
    (choice : ∀ first second, holds (.choice first second) → holds first ∧ holds second)
    (atom : ∀ modes leaf, holds (.atom modes leaf)) :
    Splits holds fun nodes => ∀ node ∈ nodes, holds node where
  member _ all := all
  leaf _ _ _ own all := List.forall_mem_cons.mpr ⟨own, all⟩
  ofSequence nodes whole := by
    induction nodes with
    | nil => exact nofun
    | cons item rest ih =>
        cases rest with
        | nil => exact List.forall_mem_singleton.mpr whole
        | cons next others =>
            obtain ⟨first, later⟩ := sequence _ _ whole
            exact List.forall_mem_cons.mpr ⟨first, ih later⟩
  ofChoice := choice
  ofClass _ _ branch _ _ found _ := by
    unfold Alternation.members? at found
    split at found
    · exact List.forall_mem_singleton.mpr (atom _ _)
    · exact List.forall_mem_singleton.mpr (atom _ _)
    · cases found

end Splits

theorem splits_unreferenced :
    Splits Node.Unreferenced fun nodes => ∀ node ∈ nodes, node.Unreferenced :=
  .ofEach (fun _ _ both => both) (fun _ _ both => both) fun _ _ => trivial

theorem splits_relaxed : Splits Node.Relaxed fun nodes => ∀ node ∈ nodes, node.Relaxed :=
  .ofEach (fun _ _ both => both) (fun _ _ both => both) fun _ _ => trivial

theorem splits_blankless : Splits Node.Blankless BlanklessAll where
  member _ all := all.each
  leaf node rest leaf own all := by
    refine ⟨List.forall_mem_cons.mpr ⟨own, all.each⟩, ?_⟩
    -- A leaf is no run of blanks.
    have single : ¬node.IsGap := by
      rintro ⟨modes, greed, rfl⟩
      cases leaf
    cases rest with
    | nil => exact .singleton node
    | cons next others => exact .cons_cons (fun both => single both.1) all.apart
  ofSequence _ := blanklessAll_of_sequenceOf
  ofChoice _ _ both := both
  ofClass modes members branch own whole found within := by
    obtain ⟨space, tab⟩ := Atom.isBlankless_oneOf.mp whole
    unfold Alternation.members? at found
    split at found
    · next kind code =>
        obtain rfl := Option.some.inj found
        have listed : Member.single code ∈ members := within List.mem_cons_self
        have blankless : (Node.atom kind (.literal code false)).Blankless := by
          have visible : code ≠ ' '.toNat ∧ code ≠ '\t'.toNat :=
            ⟨fun same => space (same ▸ listed), fun same => tab (same ▸ listed)⟩
          simpa [Node.Blankless, Atom.isBlankless] using visible
        exact ⟨List.forall_mem_singleton.mpr blankless, .singleton _⟩
    · next kind listed =>
        obtain rfl := Option.some.inj found
        have blankless : (Node.atom kind (.oneOf listed false)).Blankless :=
          Atom.isBlankless_oneOf.mpr ⟨fun inside => space (within inside),
            fun inside => tab (within inside)⟩
        exact ⟨List.forall_mem_singleton.mpr blankless, .singleton _⟩
    · cases found

end ItemFilter.Pattern
