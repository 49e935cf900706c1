/-
This file says what the items of a group lead to and how wide they are. Putting the branches of a
group together changes neither, as long as all leaves have the modes of the group and those that end
a branch match the same in a class.
-/

import ItemFilter.Proofs.Pattern.Search
import ItemFilter.Proofs.Pattern.Language

namespace ItemFilter.Pattern

section Folds

variable {M : Type} (add : Node → M → M) (join : M → M → M) (last : M)

/-- The value of the branches, when the items of a branch are added one by one and the values of the
branches are joined. -/
def foldBranches : List (List Node) → M
  | [] => last
  | [branch] => branch.foldr add last
  | branch :: others => join (branch.foldr add last) (foldBranches others)

variable {add join last}

theorem foldBranches_cons {branch : List Node} {others : List (List Node)} (several : others ≠ []) :
    foldBranches add join last (branch :: others) =
      join (branch.foldr add last) (foldBranches add join last others) := by
  cases others with
  | nil => exact absurd rfl several
  | cons next more => rfl

variable (distributes : ∀ node : Node, node.isLeaf = true → ∀ left right,
  add node (join left right) = join (add node left) (add node right))

include distributes

theorem foldBranches_map_cons {node : Node} (leaf : node.isLeaf = true)
    {branches : List (List Node)} (nonempty : branches ≠ []) :
    foldBranches add join last (branches.map (node :: ·)) =
      add node (foldBranches add join last branches) := by
  induction branches with
  | nil => exact absurd rfl nonempty
  | cons branch others ih =>
      cases others with
      | nil => rfl
      | cons next more =>
          have several : next :: more ≠ [] := List.cons_ne_nil next more
          rw [List.map_cons, foldBranches_cons (by simp), ih several, foldBranches_cons several,
            distributes node leaf]
          rfl

/-- The leaves that all branches start with may be added after the branches are joined. -/
theorem foldr_splitShared (first : List Node) (others : List (List Node)) :
    (Alternation.splitShared first others).1.foldr add
        (foldBranches add join last (Alternation.splitShared first others).2) =
      foldBranches add join last (first :: others) := by
  induction first generalizing others with
  | nil => rfl
  | cons item rest ih =>
      rw [Alternation.splitShared]
      split
      · next shared =>
          obtain ⟨leaf, begins⟩ := Bool.and_eq_true_iff.mp shared
          have whole : others = (others.map List.tail).map (item :: ·) := by
            rw [List.map_map]
            apply List.ext_getElem (by simp)
            intro index here there
            have same := List.all_eq_true.mp begins _ (List.getElem_mem here)
            simpa using List.eq_cons_of_mem_head? (by simpa using same)
          have joined : foldBranches add join last ((item :: rest) :: others) =
              add item (foldBranches add join last (rest :: others.map List.tail)) := by
            rw [← foldBranches_map_cons distributes leaf (List.cons_ne_nil _ _), List.map_cons,
              ← whole]
          rw [joined, ← ih]
          rfl
      · rfl

end Folds

section Searches

/-- The way of the items one after the other. -/
def searchAll (nodes : List Node) : Way := fun rest =>
  nodes.foldr Node.search rest

/-- The first of two searches that succeeds. -/
def Search.orElse (first second : Search) : Search := fun place =>
  (first place).or (second place)

/-- The way of the branches, in order of preference. -/
def searchBranches (branches : List (List Node)) : Way := fun rest =>
  foldBranches Node.search Search.orElse rest branches

theorem searchAll_append (left right : List Node) (rest : Search) :
    searchAll (left ++ right) rest = searchAll left (searchAll right rest) :=
  List.foldr_append

theorem search_sequenceOf (nodes : List Node) :
    (Node.sequenceOf nodes).search = searchAll nodes := by
  induction nodes with
  | nil => rfl
  | cons item rest ih =>
      cases rest with
      | nil => rfl
      | cons next others =>
          funext search
          rw [Node.sequenceOf, Node.search, ih]
          · rfl
          · exact List.cons_ne_nil next others

theorem search_choiceOf {branches : List (List Node)} (nonempty : branches ≠ []) :
    (Node.choiceOf (branches.map Node.sequenceOf)).search = searchBranches branches := by
  induction branches with
  | nil => exact absurd rfl nonempty
  | cons branch others ih =>
      cases others with
      | nil => exact search_sequenceOf branch
      | cons next more =>
          have several : next :: more ≠ [] := List.cons_ne_nil next more
          funext rest
          have joined : searchBranches (branch :: next :: more) rest =
              Search.orElse (searchAll branch rest) (searchBranches (next :: more) rest) :=
            foldBranches_cons several
          rw [joined, ← ih several, ← search_sequenceOf]
          rfl

/-- A leaf leads to one place at most. -/
theorem search_orElse_of_isLeaf (node : Node) (leaf : node.isLeaf = true) (left right : Search) :
    node.search (left.orElse right) = (node.search left).orElse (node.search right) := by
  funext place
  cases node with
  | atom modes kind =>
      rw [Search.orElse, Node.search, Node.search, Node.search]
      dsimp only
      cases place.step? fun character => kind.accepts modes character <;> rfl
  | anchor modes kind =>
      rw [Search.orElse, Node.search, Node.search, Node.search]
      dsimp only
      split <;> rfl
  | reference modes group => rfl
  | _ => cases leaf

/-- The characters of two classes, as one class. -/
theorem orElse_single (left right : Char → Bool) (rest : Search) :
    (Way.single left rest).orElse (Way.single right rest) =
      Way.single (fun character => left character || right character) rest := by
  funext place
  rw [Search.orElse, Way.single, Way.single, Way.single, Place.step?, Place.step?, Place.step?]
  cases place.ahead with
  | nil => rfl
  | cons character others =>
      cases accepted : left character with
      | false => simp [accepted]
      | true =>
          cases also : right character <;> simp [accepted, also]

/-- Whether a character belongs to a member of a class. Where case is ignored, its lower-case form
counts. -/
def Member.holds (modes : Modes) (character : Char) (member : Member) : Bool :=
  if modes.ignoreCase then member.containsFolded modes (modes.lower character.toNat)
  else member.contains modes character

/-- What the leaf matches does not depend on the class that it is put into. -/
def Atom.Steady (modes : Modes) (leaf : Atom) : Prop :=
  ∀ members, Alternation.members? [.atom modes leaf] = some members →
    ∀ character, leaf.accepts modes character = members.any (Member.holds modes character)

section Steady

variable {modes : Modes} {leaf : Atom} {members : List Member}

/-- Unless case is ignored and some member is cased, characters are compared as they are. -/
theorem Atom.accepts_of_uncased (found : Alternation.members? [.atom modes leaf] = some members)
    (uncased : modes.ignoreCase = false ∨ members.any (Member.isCased modes) = false)
    (character : Char) :
    leaf.accepts modes character = members.any (Member.contains modes character) := by
  have plainly : (modes.ignoreCase && members.any (Member.isCased modes)) = false :=
    Bool.and_eq_false_iff.mpr uncased
  rcases leaf with _ | ⟨code, _ | _⟩ | ⟨listed, _ | _⟩
  · cases found
  · obtain rfl := Option.some.inj found
    have own : (modes.ignoreCase && modes.isCased code) = false := by
      rcases uncased with cased | uncased
      · rw [cased, Bool.false_and]
      · rw [(Bool.or_eq_false_iff.mp (Bool.or_eq_false_iff.mp uncased).1).1, Bool.and_false]
    simp [Atom.accepts, Modes.equates, own, Member.contains]
  · cases found
  · obtain rfl := Option.some.inj found
    rw [Atom.accepts, plainly]
    exact Bool.xor_false _
  · cases found

theorem Atom.steady_of_cased (cased : modes.ignoreCase = false) (leaf : Atom) :
    leaf.Steady modes := by
  intro members found character
  have holds : Member.holds modes character = Member.contains modes character := by
    funext member
    rw [Member.holds, if_neg (ne_true_of_eq_false cased)]
  rw [holds]
  exact accepts_of_uncased found (.inl cased) character

theorem forall_char_iff (holds : Char → Bool) :
    (∀ character, holds character = true) ↔
      ((List.range 0x110000).all fun code => holds (Char.ofNat code)) = true := by
  rw [List.all_eq_true]
  refine ⟨fun all code _ => all _, fun all character => ?_⟩
  have low : character.toNat < 0x110000 := by
    rcases character.valid with below | ⟨-, below⟩
    · exact below.trans (by decide)
    · exact below
  have own := all character.toNat (List.mem_range.mpr low)
  rwa [Char.ofNat_toNat] at own

instance (modes : Modes) (leaf : Atom) : Decidable (leaf.Steady modes) :=
  if cased : modes.ignoreCase = false then .isTrue (Atom.steady_of_cased cased leaf)
  else
    match found : Alternation.members? [.atom modes leaf] with
    | none => .isTrue fun members same => absurd (found.symm.trans same) (by simp)
    | some members =>
        decidable_of_iff ((List.range 0x110000).all fun code =>
            leaf.accepts modes (Char.ofNat code) ==
              members.any (Member.holds modes (Char.ofNat code))) <| by
          rw [← forall_char_iff fun character => leaf.accepts modes character ==
            members.any (Member.holds modes character)]
          simp only [beq_iff_eq, Atom.Steady, found, Option.some.injEq, forall_eq']

end Steady

/-- The way of a class to which a character belongs through one of its members. -/
def Way.ofMembers (modes : Modes) (members : List Member) : Way :=
  Way.single fun character => members.any (Member.holds modes character)

theorem Atom.Steady.search_eq {modes : Modes} {leaf : Atom} (steady : leaf.Steady modes)
    {members : List Member} (found : Alternation.members? [.atom modes leaf] = some members) :
    (Node.atom modes leaf).search = Way.ofMembers modes members := by
  funext rest place
  rw [Node.search]
  simp only [Way.ofMembers, Way.single, steady members found]

/-- Every leaf that matches a character has the modes. -/
def Uniform (modes : Modes) (nodes : List Node) : Prop :=
  ∀ own leaf, Node.atom own leaf ∈ nodes → own = modes

/-- The tree is a leaf only if it matches the same in a class. -/
def Node.Steady : Node → Prop
  | .atom modes leaf => leaf.Steady modes
  | _ => True

instance : (node : Node) → Decidable node.Steady
  | .atom modes leaf => inferInstanceAs (Decidable (leaf.Steady modes))
  | .empty | .anchor _ _ | .reference _ _ | .sequence _ _ | .choice _ _ | .enclosed _
  | .capture _ _ | .look _ _ _ | .atomic _ | .conditional _ _ _ | .repeated _ _ _ _ =>
      .isTrue trivial

/-- The last item of the branch, if there is one, is steady. -/
def EndsSteady (branch : List Node) : Prop :=
  ∀ node, branch.getLast? = some node → node.Steady

instance (branch : List Node) : Decidable (EndsSteady branch) :=
  match last : branch.getLast? with
  | none => .isTrue fun _ same => absurd (last.symm.trans same) (by simp)
  | some node => decidable_of_iff node.Steady (by simp [EndsSteady, last])

theorem exists_atom_of_members? {branch : List Node} {members : List Member}
    (found : Alternation.members? branch = some members) :
    ∃ own leaf, branch = [.atom own leaf] := by
  unfold Alternation.members? at found
  split at found
  · exact ⟨_, _, rfl⟩
  · exact ⟨_, _, rfl⟩
  · cases found

section Classes

variable {modes : Modes} {branches : List (List Node)} {members : List (List Member)}

/-- The branch is a leaf with these members, and matches the same in a class. -/
def IsClass (modes : Modes) (branch : List Node) (own : List Member) : Prop :=
  ∃ leaf : Atom, branch = [.atom modes leaf] ∧ leaf.Steady modes ∧
    Alternation.members? [.atom modes leaf] = some own

theorem isClass_of_members? {branch : List Node} (uniform : Uniform modes branch)
    (steady : EndsSteady branch) {own : List Member}
    (found : Alternation.members? branch = some own) : IsClass modes branch own := by
  obtain ⟨other, leaf, rfl⟩ := exists_atom_of_members? found
  obtain rfl := uniform other leaf List.mem_cons_self
  exact ⟨leaf, rfl, steady _ rfl, found⟩

theorem forall₂_isClass (uniform : ∀ branch ∈ branches, Uniform modes branch)
    (steady : ∀ branch ∈ branches, EndsSteady branch)
    (found : branches.mapM Alternation.members? = some members) :
    List.Forall₂ (IsClass modes) branches members := by
  induction branches generalizing members with
  | nil =>
      obtain rfl := Option.some.inj found
      exact .nil
  | cons branch others ih =>
      obtain ⟨own, later⟩ := List.forall_mem_cons.mp uniform
      obtain ⟨ends, endsLater⟩ := List.forall_mem_cons.mp steady
      rw [List.mapM_cons] at found
      obtain ⟨first, ofBranch, found⟩ := Option.bind_eq_some_iff.mp found
      obtain ⟨rest, ofOthers, found⟩ := Option.bind_eq_some_iff.mp found
      obtain rfl := Option.some.inj found
      exact .cons (isClass_of_members? own ends ofBranch) (ih later endsLater ofOthers)

theorem IsClass.searchAll_eq {branch : List Node} {own : List Member}
    (isClass : IsClass modes branch own) : searchAll branch = Way.ofMembers modes own := by
  obtain ⟨leaf, rfl, steady, found⟩ := isClass
  exact steady.search_eq found

theorem searchBranches_of_isClass (nonempty : branches ≠ [])
    (classes : List.Forall₂ (IsClass modes) branches members) :
    searchBranches branches = Way.ofMembers modes members.flatten := by
  induction classes with
  | nil => exact absurd rfl nonempty
  | @cons branch own others rest here later ih =>
      cases others with
      | nil =>
          obtain rfl := List.forall₂_nil_left_iff.mp later
          rw [List.flatten_singleton, ← here.searchAll_eq]
          rfl
      | cons next more =>
          have several : next :: more ≠ [] := List.cons_ne_nil next more
          funext search
          have joined : searchBranches (branch :: next :: more) search =
              Search.orElse (searchAll branch search) (searchBranches (next :: more) search) :=
            foldBranches_cons several
          rw [joined, here.searchAll_eq, ih several, Way.ofMembers, Way.ofMembers, orElse_single,
            List.flatten_cons]
          simp only [Way.ofMembers, List.any_append]

/-- Members of steady leaves hold what they contain, if none of them is cased. -/
theorem any_contains_flatten (classes : List.Forall₂ (IsClass modes) branches members)
    (uncased : members.flatten.any (Member.isCased modes) = false) (character : Char) :
    members.flatten.any (Member.contains modes character) =
      members.flatten.any (Member.holds modes character) := by
  induction classes with
  | nil => rfl
  | @cons branch own others rest here later ih =>
      obtain ⟨leaf, rfl, steady, found⟩ := here
      rw [List.flatten_cons, List.any_append, Bool.or_eq_false_iff] at uncased
      rw [List.flatten_cons, List.any_append, List.any_append, ih uncased.2, ← steady own found,
        Atom.accepts_of_uncased found (.inr uncased.1)]

theorem any_eraseDups (members : List Member) (holds : Member → Bool) :
    members.eraseDups.any holds = members.any holds := by
  rw [Bool.eq_iff_iff]
  simp

/-- A class of leaves that are steady is steady. -/
theorem steady_oneOf_flatten (classes : List.Forall₂ (IsClass modes) branches members) :
    (Atom.oneOf members.flatten.eraseDups false).Steady modes := by
  intro listed same character
  obtain rfl := Option.some.inj same
  rw [any_eraseDups]
  cases cased : members.flatten.any (Member.isCased modes) with
  | false =>
      have uncased : members.flatten.eraseDups.any (Member.isCased modes) = false := by
        rw [any_eraseDups, cased]
      rw [Atom.accepts_of_uncased same (.inr uncased), any_eraseDups]
      exact any_contains_flatten classes cased character
  | true =>
      cases ignores : modes.ignoreCase with
      | false =>
          rw [Atom.steady_of_cased ignores _ _ same, any_eraseDups]
      | true =>
          have folded : Member.holds modes character =
              Member.containsFolded modes (modes.lower character.toNat) := by
            funext member
            rw [Member.holds, if_pos ignores]
          rw [Atom.accepts, any_eraseDups, any_eraseDups, cased, ignores, folded]
          exact Bool.xor_false _

end Classes

/-- What remains of the branches is the end of one of them. -/
theorem suffix_of_mem_splitShared {first : List Node} {others : List (List Node)}
    {remaining : List Node} (listed : remaining ∈ (Alternation.splitShared first others).2) :
    ∃ branch ∈ first :: others, remaining <:+ branch := by
  induction first generalizing others with
  | nil => exact ⟨remaining, listed, List.suffix_refl _⟩
  | cons item rest ih =>
      rw [Alternation.splitShared] at listed
      split at listed
      · obtain ⟨branch, among, ends⟩ := ih listed
        rcases List.mem_cons.mp among with rfl | among
        · exact ⟨_, List.mem_cons_self, ends.trans (List.suffix_cons item _)⟩
        · obtain ⟨other, member, rfl⟩ := List.mem_map.mp among
          exact ⟨other, List.mem_cons_of_mem _ member, ends.trans (List.tail_suffix other)⟩
      · exact ⟨remaining, listed, List.suffix_refl _⟩

section Items

variable {modes : Modes} {first : List Node} {others : List (List Node)}

theorem uniform_splitShared (uniform : ∀ branch ∈ first :: others, Uniform modes branch) :
    ∀ branch ∈ (Alternation.splitShared first others).2, Uniform modes branch := by
  intro remaining listed own leaf member
  obtain ⟨branch, among, ends⟩ := suffix_of_mem_splitShared listed
  exact uniform branch among own leaf (ends.subset member)

theorem endsSteady_splitShared (steady : ∀ branch ∈ first :: others, EndsSteady branch) :
    ∀ branch ∈ (Alternation.splitShared first others).2, EndsSteady branch := by
  intro remaining listed node last
  obtain ⟨branch, among, before, rfl⟩ := suffix_of_mem_splitShared listed
  apply steady _ among node
  rw [List.getLast?_append, last, Option.some_or]

/-- Put together, the branches lead where they led apart. -/
theorem searchAll_items {branches : List (List Node)} (nonempty : branches ≠ [])
    (uniform : ∀ branch ∈ branches, Uniform modes branch)
    (steady : ∀ branch ∈ branches, EndsSteady branch) :
    searchAll (Alternation.items modes branches) = searchBranches branches := by
  unfold Alternation.items
  split
  · exact absurd rfl nonempty
  · rfl
  · next first others several =>
      have remains := Alternation.splitShared_ne_nil first others
      have inside := uniform_splitShared uniform
      have ends := endsSteady_splitShared steady
      funext rest
      have shared : searchBranches (first :: others) rest =
          searchAll (Alternation.splitShared first others).1
            (searchBranches (Alternation.splitShared first others).2 rest) :=
        (foldr_splitShared search_orElse_of_isLeaf first others).symm
      dsimp only
      split
      · next members found =>
          have classes := forall₂_isClass inside ends found
          have whole : Way.ofMembers modes members.flatten =
              (Node.atom modes (.oneOf members.flatten.eraseDups false)).search := by
            rw [(steady_oneOf_flatten classes).search_eq rfl, Way.ofMembers, Way.ofMembers]
            simp only [any_eraseDups]
          rw [shared, searchAll_append, searchBranches_of_isClass remains classes, whole]
          rfl
      · rw [shared, searchAll_append, ← search_choiceOf remains]
        rfl

end Items

end Searches

section Widths

/-- The width of one part before another. -/
def Width.plus [Host] (left right : Width) : Width :=
  Width.clip ⟨left.least + right.least, left.most + right.most⟩

/-- The width of one part or another. -/
def Width.join (left right : Width) : Width :=
  ⟨min left.least right.least, max left.most right.most⟩

/-- The width of the items one after the other. -/
def widthAll [Host] (nodes : List Node) : Width :=
  nodes.foldr (fun node => (node.width []).plus) ⟨0, 0⟩

def widthBranches [Host] (branches : List (List Node)) : Width :=
  foldBranches (fun node => (node.width []).plus) Width.join ⟨0, 0⟩ branches

theorem Width.plus_join [Host] (width left right : Width) :
    width.plus (left.join right) = (width.plus left).join (width.plus right) := by
  simp only [plus, join, clip, Width.mk.injEq]
  omega

theorem Node.width_le [Host] (node : Node) :
    (node.width []).least ≤ Host.leastWidth ∧ (node.width []).most ≤ Host.mostWidth := by
  induction node with
  | atom => exact ⟨Host.leastWidth_pos, Host.mostWidth_pos⟩
  | empty | anchor | reference | look => exact ⟨Nat.zero_le _, Nat.zero_le _⟩
  | sequence first second => exact ⟨Nat.min_le_right _ _, Nat.min_le_right _ _⟩
  | choice first second left right =>
      exact ⟨Nat.le_trans (Nat.min_le_left _ _) left.1, Nat.max_le.mpr ⟨left.2, right.2⟩⟩
  | enclosed body ih => exact ih
  | capture group body ih => exact ih
  | atomic body ih => exact ih
  | conditional group present absent left right =>
      exact ⟨Nat.le_trans (Nat.min_le_left _ _) left.1, Nat.max_le.mpr ⟨left.2, right.2⟩⟩
  | repeated greed least most body => exact ⟨Nat.min_le_right _ _, Nat.min_le_right _ _⟩

theorem Node.width_plus_zero [Host] (node : Node) :
    (node.width []).plus ⟨0, 0⟩ = node.width [] := by
  obtain ⟨least, most⟩ := node.width_le
  rw [Width.plus, Width.clip, Nat.add_zero, Nat.add_zero, Nat.min_eq_left least,
    Nat.min_eq_left most]

theorem widthAll_atom [Host] (modes : Modes) (atom : Atom) :
    widthAll [.atom modes atom] = ⟨1, 1⟩ :=
  (Node.atom modes atom).width_plus_zero

/-- Without references the widths of groups do not count. -/
theorem Node.Unreferenced.width [Host] {node : Node} (unreferenced : node.Unreferenced)
    (groups : List (Nat × Width)) : node.width groups = node.width [] := by
  induction node with
  | empty | atom | anchor | look => rfl
  | reference => cases unreferenced
  | sequence first second ihFirst ihSecond =>
      rw [Node.width, Node.width, ihFirst unreferenced.1, ihSecond unreferenced.2]
  | choice first second ihFirst ihSecond =>
      rw [Node.width, Node.width, ihFirst unreferenced.1, ihSecond unreferenced.2]
  | enclosed body ih => exact ih unreferenced
  | capture group body ih => exact ih unreferenced
  | atomic body ih => exact ih unreferenced
  | conditional => cases unreferenced
  | repeated greed least most body ih => rw [Node.width, Node.width, ih unreferenced]

theorem width_sequenceOf [Host] (nodes : List Node) :
    (Node.sequenceOf nodes).width [] = widthAll nodes := by
  induction nodes with
  | nil => rfl
  | cons item rest ih =>
      cases rest with
      | nil => exact item.width_plus_zero.symm
      | cons next others =>
          rw [Node.sequenceOf, Node.width, ih]
          · rfl
          · exact List.cons_ne_nil next others

theorem width_choiceOf [Host] {branches : List (List Node)} (nonempty : branches ≠ []) :
    (Node.choiceOf (branches.map Node.sequenceOf)).width [] = widthBranches branches := by
  induction branches with
  | nil => exact absurd rfl nonempty
  | cons branch others ih =>
      cases others with
      | nil => exact width_sequenceOf branch
      | cons next more =>
          have several : next :: more ≠ [] := List.cons_ne_nil next more
          have joined : widthBranches (branch :: next :: more) =
              (widthAll branch).join (widthBranches (next :: more)) :=
            foldBranches_cons several
          rw [joined, ← ih several, ← width_sequenceOf]
          rfl

theorem widthBranches_of_mapM_members? [Host] {branches : List (List Node)}
    (nonempty : branches ≠ []) {members : List (List Member)}
    (found : branches.mapM Alternation.members? = some members) :
    widthBranches branches = ⟨1, 1⟩ := by
  have own : ∀ {branch : List Node} {first : List Member},
      Alternation.members? branch = some first → widthAll branch = ⟨1, 1⟩ := by
    intro branch first ofBranch
    unfold Alternation.members? at ofBranch
    split at ofBranch
    · exact widthAll_atom _ _
    · exact widthAll_atom _ _
    · cases ofBranch
  induction branches generalizing members with
  | nil => exact absurd rfl nonempty
  | cons branch others ih =>
      rw [List.mapM_cons] at found
      obtain ⟨first, ofBranch, found⟩ := Option.bind_eq_some_iff.mp found
      obtain ⟨rest, ofOthers, -⟩ := Option.bind_eq_some_iff.mp found
      cases others with
      | nil => exact own ofBranch
      | cons next more =>
          have several : next :: more ≠ [] := List.cons_ne_nil next more
          have joined : widthBranches (branch :: next :: more) =
              (widthAll branch).join (widthBranches (next :: more)) :=
            foldBranches_cons several
          rw [joined, own ofBranch, ih several ofOthers]
          rfl

/-- Put together, the branches are as wide as they were apart. -/
theorem widthAll_items [Host] (modes : Modes) {branches : List (List Node)}
    (nonempty : branches ≠ []) :
    widthAll (Alternation.items modes branches) = widthBranches branches := by
  unfold Alternation.items
  split
  · exact absurd rfl nonempty
  · rfl
  · next first others several =>
      have remains := Alternation.splitShared_ne_nil first others
      have shared : widthBranches (first :: others) =
          (Alternation.splitShared first others).1.foldr (fun node => (node.width []).plus)
            (widthBranches (Alternation.splitShared first others).2) :=
        (foldr_splitShared (fun node _ => (node.width []).plus_join) first others).symm
      dsimp only
      split
      · next members found =>
          rw [shared, widthBranches_of_mapM_members? remains found, widthAll, List.foldr_append,
            ← widthAll, widthAll_atom]
      · rw [shared, ← width_choiceOf remains, widthAll, List.foldr_append, List.foldr_cons,
          List.foldr_nil, Node.width_plus_zero]

end Widths

end ItemFilter.Pattern
