/-
This file gives plain trees their languages. A plain tree is built from characters, sequences,
branches and capturing groups. It matches the texts of its language whatever groups were marked
before, and putting the branches of a group together keeps their languages.
-/

import Mathlib.Algebra.BigOperators.Ring.List
import Mathlib.Computability.Language
import ItemFilter.Pattern.Alternation
import ItemFilter.Pattern.Matching

namespace ItemFilter.Pattern

/-- A tree of characters, sequences, branches and capturing groups, without modes. -/
def Node.Plain : Node → Prop
  | .empty => True
  | .atom modes _ => modes = .none
  | .sequence first second | .choice first second => first.Plain ∧ second.Plain
  | .capture _ body => body.Plain
  | _ => False

/-- The texts of one character that is accepted. -/
def characterLanguage (accepts : Char → Bool) : Language Char :=
  {text | ∃ character, accepts character = true ∧ text = [character]}

theorem mem_characterLanguage_mul {accepts : Char → Bool} {language : Language Char} {text : Text} :
    text ∈ characterLanguage accepts * language ↔
      ∃ character others, text = character :: others ∧ accepts character = true ∧
        others ∈ language := by
  rw [Language.mem_mul]
  constructor
  · rintro ⟨first, ⟨character, accepted, rfl⟩, others, member, rfl⟩
    exact ⟨character, others, rfl, accepted, member⟩
  · rintro ⟨character, others, rfl, accepted, member⟩
    exact ⟨[character], ⟨character, accepted, rfl⟩, others, member, rfl⟩

/-- The texts that a plain tree matches. -/
def Node.language : Node → Language Char
  | .empty => 1
  | .atom modes leaf => characterLanguage fun character => leaf.accepts modes character
  | .sequence first second => first.language * second.language
  | .choice first second => first.language + second.language
  | .capture _ body => body.language
  | _ => 0

/-- The texts of the items one after the other. -/
def sequenceLanguage (nodes : List Node) : Language Char :=
  (nodes.map Node.language).prod

/-- The texts of some branch. -/
def branchesLanguage (branches : List (List Node)) : Language Char :=
  (branches.map sequenceLanguage).sum

theorem sequenceLanguage_append (left right : List Node) :
    sequenceLanguage (left ++ right) = sequenceLanguage left * sequenceLanguage right := by
  rw [sequenceLanguage, List.map_append, List.prod_append]
  rfl

theorem sequenceLanguage_singleton (node : Node) : sequenceLanguage [node] = node.language := by
  simp [sequenceLanguage]

theorem sequenceLanguage_cons (node : Node) (nodes : List Node) :
    sequenceLanguage (node :: nodes) = node.language * sequenceLanguage nodes :=
  rfl

theorem branchesLanguage_cons (branch : List Node) (branches : List (List Node)) :
    branchesLanguage (branch :: branches) = sequenceLanguage branch + branchesLanguage branches :=
  rfl

section Rests

/-- Whether the rest matches depends only on the text ahead: it has to be in the language. -/
def Rest.Decides (rest : Rest) (language : Language Char) : Prop :=
  ∀ place, (rest place).isFound = true ↔ place.ahead ∈ language

variable {rest first second : Rest} {language left right : Language Char}

theorem Outcome.isFound_orElse (outcome : Outcome) (next : Marks → Outcome) :
    (outcome.orElse next).isFound = true ↔
      outcome.isFound = true ∨ ∃ marks, outcome = .failed marks ∧ (next marks).isFound = true := by
  cases outcome <;> simp [Outcome.orElse, Outcome.isFound]

theorem Rest.isFound_attempt (rest : Rest) (place : Place) :
    (rest.attempt place).isFound = true ↔ (rest place).isFound = true := by
  rw [attempt, Outcome.isFound_orElse]
  simp [Outcome.isFound]

theorem Rest.Decides.either (decidesFirst : first.Decides left)
    (decidesSecond : second.Decides right) :
    (first.either second).Decides (left + right) := by
  intro place
  have recovered : ∀ marks, (second.attempt (place.recover marks)).isFound = true ↔
      place.ahead ∈ right := by
    -- The second way starts from other marks, but with the same text ahead.
    intro marks
    rw [Rest.isFound_attempt, decidesSecond]
    rfl
  rw [Language.mem_add, ← decidesFirst place, Rest.either, Outcome.isFound_orElse]
  simp only [recovered]
  cases first place <;> simp [Outcome.isFound]

theorem Rest.Decides.after {accepts : Char → Bool} (decides : rest.Decides language) :
    Rest.Decides (rest.after (·.step? accepts)) (characterLanguage accepts * language) := by
  intro place
  rw [mem_characterLanguage_mul, Rest.after, Place.step?]
  cases ahead : place.ahead with
  | nil => simp [Outcome.isFound]
  | cons character others =>
      by_cases accepted : accepts character = true
      · simpa [accepted] using decides _
      · simp [accepted, Outcome.isFound]

theorem Node.Plain.decides {node : Node} (plain : node.Plain) (decides : rest.Decides language) :
    Rest.Decides (node.part rest) (node.language * language) := by
  induction node generalizing rest language with
  | empty =>
      intro place
      rw [Node.language, one_mul, Node.part]
      exact decides place
  | atom modes leaf =>
      intro place
      rw [Node.part]
      exact decides.after place
  | sequence first second ihFirst ihSecond =>
      intro place
      rw [Node.language, mul_assoc, Node.part]
      exact ihFirst plain.1 (ihSecond plain.2 decides) place
  | choice first second ihFirst ihSecond =>
      intro place
      rw [Node.language, add_mul, Node.part]
      exact (ihFirst plain.1 decides).either (ihSecond plain.2 decides) place
  | capture group body ih =>
      intro place
      have closes : Rest.Decides (fun after => rest (after.closeGroup group)) language :=
        fun after => decides (after.closeGroup group)
      rw [Node.language, Node.part]
      exact ih plain closes (place.openGroup group)
  | _ => cases plain

end Rests

section Lists

theorem language_sequenceOf (nodes : List Node) :
    (Node.sequenceOf nodes).language = sequenceLanguage nodes := by
  induction nodes with
  | nil => rfl
  | cons item rest ih =>
      cases rest with
      | nil => exact (sequenceLanguage_singleton item).symm
      | cons next others =>
          rw [Node.sequenceOf, Node.language, ih]
          · rfl
          · exact List.cons_ne_nil next others

theorem language_choiceOf {branches : List Node} (nonempty : branches ≠ []) :
    (Node.choiceOf branches).language = (branches.map Node.language).sum := by
  induction branches with
  | nil => exact absurd rfl nonempty
  | cons branch rest ih =>
      cases rest with
      | nil => simp [Node.choiceOf]
      | cons next others =>
          rw [Node.choiceOf, Node.language, ih (List.cons_ne_nil next others)]
          · rfl
          · exact List.cons_ne_nil next others

/-- The tree is plain and not nested deeper than the bound. -/
structure Node.Within (bound : Nat) (node : Node) : Prop where
  plain : node.Plain
  depth : node.depth ≤ bound

variable {bound : Nat}

theorem Node.Within.mono {node : Node} (within : node.Within bound) {wider : Nat}
    (le : bound ≤ wider) : node.Within wider :=
  ⟨within.plain, within.depth.trans le⟩

theorem depth_sequenceOf_le {nodes : List Node} (le : ∀ node ∈ nodes, node.depth ≤ bound) :
    (Node.sequenceOf nodes).depth ≤ bound := by
  induction nodes with
  | nil => exact Nat.zero_le bound
  | cons item rest ih =>
      obtain ⟨first, later⟩ := List.forall_mem_cons.mp le
      cases rest with
      | nil => exact first
      | cons next others => exact max_le first (ih later)

theorem holds_sequenceOf {holds : Node → Prop} (empty : holds .empty)
    (sequence : ∀ first second, holds first → holds second → holds (.sequence first second))
    {nodes : List Node} (all : ∀ node ∈ nodes, holds node) : holds (.sequenceOf nodes) := by
  induction nodes with
  | nil => exact empty
  | cons item rest ih =>
      obtain ⟨first, later⟩ := List.forall_mem_cons.mp all
      cases rest with
      | nil => exact first
      | cons next others => exact sequence _ _ first (ih later)

theorem holds_choiceOf {holds : Node → Prop} (empty : holds .empty)
    (choice : ∀ first second, holds first → holds second → holds (.choice first second))
    {branches : List Node} (all : ∀ branch ∈ branches, holds branch) :
    holds (.choiceOf branches) := by
  induction branches with
  | nil => exact empty
  | cons branch rest ih =>
      obtain ⟨first, later⟩ := List.forall_mem_cons.mp all
      cases rest with
      | nil => exact first
      | cons next others => exact choice _ _ first (ih later)

theorem plain_sequenceOf {nodes : List Node} (plain : ∀ node ∈ nodes, node.Plain) :
    (Node.sequenceOf nodes).Plain :=
  holds_sequenceOf trivial (fun _ _ left right => ⟨left, right⟩) plain

theorem within_sequenceOf {nodes : List Node} (within : ∀ node ∈ nodes, node.Within bound) :
    (Node.sequenceOf nodes).Within bound :=
  ⟨plain_sequenceOf fun node member => (within node member).plain,
    depth_sequenceOf_le fun node member => (within node member).depth⟩

theorem depth_choice_le {first second : Node} (left : first.depth ≤ bound)
    (right : second.depth ≤ bound) : (Node.choice first second).depth ≤ bound + 1 := by
  rw [Node.depth.eq_def]
  dsimp only
  split <;> omega

/-- Branches side by side count once. -/
theorem depth_choiceOf_le {branches : List Node} (le : ∀ branch ∈ branches, branch.depth ≤ bound) :
    (Node.choiceOf branches).depth ≤ bound + 1 := by
  induction branches with
  | nil => exact Nat.zero_le _
  | cons branch rest ih =>
      obtain ⟨first, later⟩ := List.forall_mem_cons.mp le
      cases rest with
      | nil => exact first.trans (Nat.le_succ bound)
      | cons next others =>
          cases others with
          | nil => exact depth_choice_le first (later next List.mem_cons_self)
          | cons third more => exact max_le (Nat.succ_le_succ first) (ih later)

theorem within_choiceOf {branches : List Node} (within : ∀ branch ∈ branches, branch.Within bound) :
    (Node.choiceOf branches).Within (bound + 1) := by
  constructor
  · apply holds_choiceOf trivial fun _ _ left right => ⟨left, right⟩
    exact fun branch member => (within branch member).plain
  · exact depth_choiceOf_le fun branch member => (within branch member).depth

end Lists

namespace Alternation

/-- What the branches share can be taken out of them. -/
theorem language_splitShared (first : List Node) (others : List (List Node)) :
    sequenceLanguage (splitShared first others).1 * branchesLanguage (splitShared first others).2 =
      branchesLanguage (first :: others) := by
  induction first generalizing others with
  | nil => exact one_mul _
  | cons item rest ih =>
      rw [splitShared]
      split
      · next shared =>
          have begins : ∀ branch ∈ others, branch = item :: branch.tail := by
            intro branch member
            have same := List.all_eq_true.mp (Bool.and_eq_true_iff.mp shared).2 branch member
            exact List.eq_cons_of_mem_head? (by simpa using same)
          have later : branchesLanguage others =
              item.language * branchesLanguage (others.map List.tail) := by
            rw [branchesLanguage, branchesLanguage, List.map_map, ← List.sum_map_mul_left]
            apply congrArg List.sum
            apply List.map_congr_left
            intro branch member
            conv_lhs => rw [begins branch member]
            rfl
          rw [sequenceLanguage_cons, mul_assoc, ih, branchesLanguage_cons, mul_add, ← later]
          rfl
      · exact one_mul _

/-- Nothing is added to the branches. -/
theorem forall_splitShared {holds : Node → Prop} {first : List Node} {others : List (List Node)}
    (all : ∀ branch ∈ first :: others, ∀ node ∈ branch, holds node) :
    (∀ node ∈ (splitShared first others).1, holds node) ∧
      ∀ branch ∈ (splitShared first others).2, ∀ node ∈ branch, holds node := by
  induction first generalizing others with
  | nil => exact ⟨nofun, all⟩
  | cons item rest ih =>
      rw [splitShared]
      split
      · have tails : ∀ branch ∈ rest :: others.map List.tail, ∀ node ∈ branch, holds node := by
          obtain ⟨own, others⟩ := List.forall_mem_cons.mp all
          refine List.forall_mem_cons.mpr ⟨(List.forall_mem_cons.mp own).2, ?_⟩
          intro branch member node inside
          obtain ⟨whole, listed, rfl⟩ := List.mem_map.mp member
          exact others whole listed node (List.mem_of_mem_tail inside)
        obtain ⟨shared, remaining⟩ := ih tails
        have here : holds item := all (item :: rest) List.mem_cons_self item List.mem_cons_self
        exact ⟨List.forall_mem_cons.mpr ⟨here, shared⟩, remaining⟩
      · exact ⟨nofun, all⟩

theorem splitShared_ne_nil (first : List Node) (others : List (List Node)) :
    (splitShared first others).2 ≠ [] := by
  induction first generalizing others with
  | nil => exact List.cons_ne_nil _ _
  | cons item rest ih =>
      rw [splitShared]
      split
      · exact ih (others.map List.tail)
      · exact List.cons_ne_nil _ _

/-- The texts of one character in a class. -/
def membersLanguage (members : List Member) : Language Char :=
  characterLanguage fun character => members.any (Member.contains .none character)

theorem language_class (members : List Member) :
    (Node.atom .none (.oneOf members false)).language = membersLanguage members := by
  rw [Node.language, membersLanguage]
  apply congrArg
  funext character
  simp [Atom.accepts, Modes.none]

theorem membersLanguage_nil : membersLanguage [] = 0 := by
  ext text
  constructor
  · rintro ⟨character, inside, -⟩
    cases inside
  · intro member
    exact absurd member (Language.notMem_zero text)

theorem membersLanguage_append (left right : List Member) :
    membersLanguage (left ++ right) = membersLanguage left + membersLanguage right := by
  ext text
  simp only [membersLanguage, characterLanguage, List.any_append,
    Bool.or_eq_true, or_and_right, exists_or]
  rfl

theorem membersLanguage_eraseDups (members : List Member) :
    membersLanguage members.eraseDups = membersLanguage members := by
  rw [membersLanguage, membersLanguage]
  apply congrArg
  funext character
  rw [Bool.eq_iff_iff]
  simp

theorem language_members? {branch : List Node} {members : List Member}
    (plain : ∀ node ∈ branch, node.Plain) (found : members? branch = some members) :
    sequenceLanguage branch = membersLanguage members := by
  unfold members? at found
  split at found
  · next modes code =>
      obtain rfl := Option.some.inj found
      obtain rfl : modes = .none := plain _ List.mem_cons_self
      rw [sequenceLanguage_singleton, Node.language, membersLanguage]
      apply congrArg
      funext character
      simp [Atom.accepts, Modes.equates, Modes.none, Member.contains]
  · next modes listed =>
      obtain rfl := Option.some.inj found
      obtain rfl : modes = .none := plain _ List.mem_cons_self
      rw [sequenceLanguage_singleton, language_class]
  · cases found

theorem language_mapM_members? {branches : List (List Node)} {members : List (List Member)}
    (plain : ∀ branch ∈ branches, ∀ node ∈ branch, node.Plain)
    (found : branches.mapM members? = some members) :
    branchesLanguage branches = membersLanguage members.flatten := by
  induction branches generalizing members with
  | nil =>
      obtain rfl := Option.some.inj found
      exact membersLanguage_nil.symm
  | cons branch others ih =>
      obtain ⟨own, later⟩ := List.forall_mem_cons.mp plain
      rw [List.mapM_cons] at found
      obtain ⟨first, ofBranch, found⟩ := Option.bind_eq_some_iff.mp found
      obtain ⟨rest, ofOthers, found⟩ := Option.bind_eq_some_iff.mp found
      obtain rfl := Option.some.inj found
      rw [branchesLanguage_cons, language_members? own ofBranch, ih later ofOthers,
        List.flatten_cons, membersLanguage_append]

/-- The items that stand for the branches match what some branch matches. -/
theorem language_items {branches : List (List Node)} (nonempty : branches ≠ [])
    (plain : ∀ branch ∈ branches, ∀ node ∈ branch, node.Plain) :
    sequenceLanguage (items .none branches) = branchesLanguage branches := by
  unfold items
  split
  · exact absurd rfl nonempty
  · next branch => exact (add_zero _).symm
  · next first others several =>
      rw [← language_splitShared]
      have inside := (forall_splitShared plain).2
      have remains := splitShared_ne_nil first others
      dsimp only
      split
      · next members found =>
          rw [sequenceLanguage_append, sequenceLanguage_singleton, language_class,
            membersLanguage_eraseDups, language_mapM_members? inside found]
      · rw [sequenceLanguage_append, sequenceLanguage_singleton,
          language_choiceOf (by simpa using remains), List.map_map]
        congr 2
        exact List.map_congr_left fun branch _ => language_sequenceOf branch

/-- What holds of the parts of all branches holds of the items, if it holds of classes and
choices. -/
theorem forall_items {modes : Modes} {holds outer : Node → Prop}
    (wider : ∀ node, holds node → outer node)
    (merged : ∀ members, outer (.atom modes (.oneOf members false)))
    (choice : ∀ branches : List (List Node), (∀ branch ∈ branches, ∀ node ∈ branch, holds node) →
      outer (.choiceOf (branches.map .sequenceOf)))
    {branches : List (List Node)} (all : ∀ branch ∈ branches, ∀ node ∈ branch, holds node) :
    ∀ node ∈ items modes branches, outer node := by
  unfold items
  split
  · exact nofun
  · next branch =>
      intro node member
      exact wider node (all branch List.mem_cons_self node member)
  · next first others several =>
      obtain ⟨shared, remaining⟩ := forall_splitShared all
      have before : ∀ node ∈ (splitShared first others).1, outer node :=
        fun node member => wider node (shared node member)
      dsimp only
      split
      · exact List.forall_mem_append.mpr ⟨before, List.forall_mem_singleton.mpr (merged _)⟩
      · exact List.forall_mem_append.mpr
          ⟨before, List.forall_mem_singleton.mpr (choice _ remaining)⟩

theorem within_items {bound : Nat} {branches : List (List Node)}
    (within : ∀ branch ∈ branches, ∀ node ∈ branch, node.Within bound) :
    ∀ node ∈ items .none branches, node.Within (bound + 1) := by
  apply forall_items (fun node inside => inside.mono (Nat.le_succ bound)) _ _ within
  · exact fun members => ⟨rfl, Nat.zero_le _⟩
  · intro remaining inside
    apply within_choiceOf
    intro branch member
    obtain ⟨nodes, listed, rfl⟩ := List.mem_map.mp member
    exact within_sequenceOf (inside nodes listed)

end Alternation

section Lines

/-- What may be left at the end of a line. -/
def lineEndLanguage : Language Char :=
  {text | text = [] ∨ text = ['\n']}

theorem mem_lineEndLanguage {text : Text} :
    text ∈ lineEndLanguage ↔ text = [] ∨ text = ['\n'] :=
  Iff.rfl

theorem decides_lineEnd :
    Rest.Decides ((Node.sequenceOf [.anchor .none .lineEnd]).part .found) lineEndLanguage := by
  intro place
  have holds : Anchor.lineEnd.holds .none place = true ↔ place.ahead ∈ lineEndLanguage := by
    simp [Anchor.holds, Modes.none, mem_lineEndLanguage]
  rw [← holds, Node.sequenceOf, Node.part]
  split
  · next there => exact iff_of_true rfl there
  · next elsewhere => exact iff_of_false Bool.false_ne_true elsewhere

end Lines

end ItemFilter.Pattern
