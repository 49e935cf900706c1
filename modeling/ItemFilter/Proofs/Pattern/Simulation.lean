/-
This file reads a pattern and its normalized form side by side. What the one reader has open
corresponds to what the other has open: wrappers correspond to groups, runs of blanks to one, and
the whole pattern to the group for a whole argument.
-/

import ItemFilter.Proofs.Pattern.Steps
import ItemFilter.Proofs.Pattern.Twin
import ItemFilter.Proofs.Pattern.Wording

namespace ItemFilter.Pattern

/-- Items that are twins. All have the modes, the new ones are harmless, and they end with a leaf
that matches the same in a class if the old ones do. -/
structure Alike [Host] (modes : Modes) (old new : List Node) : Prop where
  twins : Twins old new
  uniform : Uniform modes old
  uniformNew : Uniform modes new
  unreferenced : ∀ node ∈ new, node.Unreferenced
  nil : new = [] → old = []
  steady : EndsSteady old → EndsSteady new

theorem forall_mem_of_forall₂ {α β : Type} {related : α → β → Prop} {holds : α → Prop}
    (imp : ∀ left right, related left right → holds left) {lefts : List α} {rights : List β}
    (all : List.Forall₂ related lefts rights) : ∀ left ∈ lefts, holds left := by
  induction all with
  | nil => exact nofun
  | cons here later ih => exact List.forall_mem_cons.mpr ⟨imp _ _ here, ih⟩

section Ends

variable {modes : Modes} {node : Node} {left right : List Node}

theorem endsSteady_singleton : EndsSteady [node] ↔ node.Steady := by
  simp [EndsSteady]

theorem endsSteady_append :
    EndsSteady (left ++ right) ↔ EndsSteady right ∧ (right = [] → EndsSteady left) := by
  rcases List.eq_nil_or_concat right with rfl | ⟨others, last, rfl⟩
  · simp [EndsSteady]
  · simp [EndsSteady, ← List.append_assoc]

theorem Uniform.append (first : Uniform modes left) (second : Uniform modes right) :
    Uniform modes (left ++ right) := by
  intro own leaf member
  exact (List.mem_append.mp member).elim (first own leaf) (second own leaf)

theorem uniform_singleton (other : ∀ own leaf, node ≠ .atom own leaf) : Uniform modes [node] := by
  intro own leaf member
  exact absurd (List.mem_singleton.mp member).symm (other own leaf)

/-- Where case counts, every leaf matches the same in a class. -/
theorem Uniform.endsSteady (uniform : Uniform modes left) (cased : modes.ignoreCase = false) :
    EndsSteady left := by
  intro node last
  cases node with
  | atom own leaf =>
      obtain rfl := uniform own leaf (List.mem_of_getLast? last)
      exact Atom.steady_of_cased cased leaf
  | _ => trivial

end Ends

section Items

variable {modes : Modes} {old new otherOld otherNew : List Node}

namespace Alike

theorem empty [Host] (modes : Modes) : Alike modes [] [] :=
  ⟨.refl [], nofun, nofun, nofun, id, id⟩

theorem append [Host] (alike : Alike modes old new) (other : Alike modes otherOld otherNew) :
    Alike modes (old ++ otherOld) (new ++ otherNew) where
  twins := alike.twins.append other.twins
  uniform := alike.uniform.append other.uniform
  uniformNew := alike.uniformNew.append other.uniformNew
  unreferenced := List.forall_mem_append.mpr ⟨alike.unreferenced, other.unreferenced⟩
  nil none := by
    obtain ⟨first, second⟩ := List.append_eq_nil_iff.mp none
    rw [alike.nil first, other.nil second, List.append_nil]
  steady := by
    rw [endsSteady_append, endsSteady_append]
    rintro ⟨last, before⟩
    exact ⟨other.steady last, fun none => alike.steady (before (other.nil none))⟩

theorem atom [Host] {leaf other : Atom} (twin : (Node.atom modes leaf).Twin (.atom modes other))
    (steady : leaf.Steady modes → other.Steady modes) :
    Alike modes [.atom modes leaf] [.atom modes other] := by
  have uniform : ∀ leaf, Uniform modes [.atom modes leaf] := by
    intro leaf own other member
    exact (Node.atom.inj (List.mem_singleton.mp member)).1
  refine ⟨twin.single, uniform leaf, uniform other, List.forall_mem_singleton.mpr trivial, nofun,
    ?_⟩
  rw [endsSteady_singleton, endsSteady_singleton]
  exact steady

/-- Items that become one tree, which is no leaf. -/
theorem one [Host] {node : Node} (twins : Twins old [node]) (uniform : Uniform modes old)
    (other : ∀ own leaf, node ≠ .atom own leaf) (unreferenced : node.Unreferenced) :
    Alike modes old [node] := by
  refine ⟨twins, uniform, uniform_singleton other, List.forall_mem_singleton.mpr unreferenced,
    nofun, fun _ => endsSteady_singleton.mpr ?_⟩
  cases node with
  | atom own leaf => exact absurd rfl (other own leaf)
  | _ => trivial

/-- Single trees that are no leaves. -/
theorem single [Host] {first second : Node} (twin : first.Twin second)
    (other : ∀ own leaf, first ≠ .atom own leaf) (otherNew : ∀ own leaf, second ≠ .atom own leaf)
    (unreferenced : second.Unreferenced) : Alike modes [first] [second] :=
  .one twin.single (uniform_singleton other) otherNew unreferenced

theorem node [Host] (alike : Alike modes old new) :
    (Node.sequenceOf old).Twin (.sequenceOf new) ∧ (Node.sequenceOf new).Unreferenced := by
  refine ⟨alike.twins.node, ?_⟩
  exact holds_sequenceOf trivial (fun _ _ left right => ⟨left, right⟩) alike.unreferenced

end Alike

/-- Putting branches together makes no leaf with other modes. -/
theorem uniform_items {branches : List (List Node)}
    (uniform : ∀ branch ∈ branches, Uniform modes branch) :
    Uniform modes (Alternation.items modes branches) := by
  let holds (node : Node) : Prop := ∀ own leaf, node = .atom own leaf → own = modes
  have each : ∀ branch ∈ branches, ∀ node ∈ branch, holds node := by
    rintro branch listed node member own leaf rfl
    exact uniform branch listed own leaf member
  have all : ∀ node ∈ Alternation.items modes branches, holds node := by
    apply Alternation.forall_items (fun _ own => own) _ _ each
    · intro members own leaf same
      exact (Node.atom.inj same).1.symm
    · intro remaining inside
      apply holds_choiceOf nofun (fun _ _ _ _ => nofun)
      intro branch member
      obtain ⟨nodes, listed, rfl⟩ := List.mem_map.mp member
      exact holds_sequenceOf nofun (fun _ _ _ _ => nofun) (inside nodes listed)
  exact fun own leaf member => all _ member own leaf rfl

theorem unreferenced_items {branches : List (List Node)}
    (unreferenced : ∀ branch ∈ branches, ∀ node ∈ branch, node.Unreferenced) :
    ∀ node ∈ Alternation.items modes branches, node.Unreferenced := by
  apply Alternation.forall_items (fun _ own => own) (fun _ => trivial) _ unreferenced
  intro remaining inside
  apply holds_choiceOf trivial fun _ _ left right => ⟨left, right⟩
  intro branch member
  obtain ⟨nodes, listed, rfl⟩ := List.mem_map.mp member
  exact holds_sequenceOf trivial (fun _ _ left right => ⟨left, right⟩) (inside nodes listed)

end Items

/-- What a group becomes. A wrapper becomes a group that is counted, and the whole pattern becomes
the group for a whole argument. -/
inductive Opening.Twin : Opening → Opening → Prop
  | whole : Twin .whole .plain
  | plain (group : Nat) : Twin .plain (.capture group)
  | enclosed : Twin .enclosed .enclosed
  | capture (group other : Nat) : Twin (.capture group) (.capture other)
  | ahead (negated : Bool) : Twin (.ahead negated) (.ahead negated)
  | behind (negated outermost other : Bool) :
      Twin (.behind negated outermost) (.behind negated other)
  | atomic : Twin .atomic .atomic

theorem Opening.Twin.ne_conditional {old new : Opening} (twin : old.Twin new) (group : Nat) :
    new ≠ .conditional group := by
  rintro rfl
  cases twin

/-- The branches of the frames correspond, and those that are finished end with what matches the
same in a class. -/
structure Frame.Twin [Host] (old new : Frame) : Prop where
  opening : old.opening.Twin new.opening
  modes : new.modes = old.modes
  steady : ∀ branch ∈ old.branches, EndsSteady branch
  branches : List.Forall₂ (Alike old.modes) (old.branch :: old.branches)
    (new.branch :: new.branches)

/-- The last item of the old frame corresponds to the last one of the new frame, if it can be
repeated. -/
def Frame.LastTwin [Host] (old new : Frame) : Prop :=
  ∀ (base : Frame) (item : Item), old = base.push item → item.Repeatable →
    ∃ (newBase : Frame) (newItem : Item), new = newBase.push newItem ∧ newItem.Repeatable ∧
      base.Twin newBase ∧ Alike base.modes item.nodes newItem.nodes

section Frames

variable {old new base : Frame} {item newItem other : Item}

theorem Frame.push_inj (same : old.push item = base.push other) : old = base ∧ item = other := by
  cases old
  cases base
  simp only [Frame.push, Frame.mk.injEq, List.cons.injEq] at same ⊢
  exact ⟨⟨same.1, same.2.1, same.2.2.1, same.2.2.2.2⟩, same.2.2.2.1⟩

theorem Frame.Twin.push [Host] (twin : old.Twin new)
    (alike : Alike old.modes item.nodes newItem.nodes) :
    (old.push item).Twin (new.push newItem) := by
  obtain ⟨here, later⟩ := List.forall₂_cons.mp twin.branches
  refine ⟨twin.opening, twin.modes, twin.steady, List.forall₂_cons.mpr ⟨?_, later⟩⟩
  rw [Frame.branch_push_item, Frame.branch_push_item]
  exact here.append alike

theorem Frame.Twin.lastTwin [Host] (twin : old.Twin new)
    (alike : Alike old.modes item.nodes newItem.nodes) (repeatable : newItem.Repeatable) :
    (old.push item).LastTwin (new.push newItem) := by
  intro base other same _
  obtain ⟨rfl, rfl⟩ := Frame.push_inj same
  exact ⟨new, newItem, rfl, repeatable, twin, alike⟩

theorem Frame.lastTwin_of_not [Host] (fixed : ¬item.Repeatable) (new : Frame) :
    (old.push item).LastTwin new := by
  intro base other same repeatable
  obtain ⟨rfl, rfl⟩ := Frame.push_inj same
  exact absurd repeatable fixed

theorem Frame.lastTwin_of_nil [Host] (empty : old.items = []) (new : Frame) :
    old.LastTwin new := by
  intro base item same
  rw [same] at empty
  cases empty

theorem Frame.Twin.start [Host] {opening newOpening : Opening} (opens : opening.Twin newOpening)
    (modes : Modes) : (Frame.start opening modes).Twin (.start newOpening modes) :=
  ⟨opens, rfl, nofun, .cons (.empty modes) .nil⟩

theorem Frame.Twin.alternate [Host] (twin : old.Twin new) (steady : EndsSteady old.branch) :
    old.alternate.Twin new.alternate :=
  ⟨twin.opening, twin.modes, List.forall_mem_cons.mpr ⟨steady, twin.steady⟩,
    .cons (.empty old.modes) twin.branches⟩

/-- What the frames put their branches together to. -/
theorem Frame.Twin.nodes [Host] (twin : old.Twin new)
    (steady : old.branches ≠ [] → EndsSteady old.branch) :
    Twins old.nodes new.nodes ∧ Uniform old.modes old.nodes ∧
      ∀ node ∈ new.nodes, node.Unreferenced := by
  have inOrder := List.forall₂_reverse_iff.mpr twin.branches
  have uniform := forall_mem_of_forall₂ (fun _ _ branch => branch.uniform) inOrder
  have uniformNew := forall_mem_of_forall₂ (fun _ _ branch => branch.uniformNew) inOrder.flip
  have unreferenced := forall_mem_of_forall₂ (fun _ _ branch => branch.unreferenced) inOrder.flip
  rw [Frame.nodes, Frame.nodes, twin.modes]
  refine ⟨?_, uniform_items uniform, unreferenced_items unreferenced⟩
  by_cases several : old.branches = []
  · obtain ⟨here, others⟩ := List.forall₂_cons.mp twin.branches
    rw [several, List.forall₂_nil_left_iff] at others
    rw [several, others]
    exact here.twins
  · have ends : ∀ branch ∈ (old.branch :: old.branches).reverse, EndsSteady branch := by
      intro branch member
      exact List.forall_mem_cons.mpr ⟨steady several, twin.steady⟩ branch
        (List.mem_reverse.mp member)
    have endsNew : ∀ branch ∈ (new.branch :: new.branches).reverse, EndsSteady branch := by
      have both := ((List.forall₂_and_left _ _).mpr ⟨ends, inOrder⟩).flip
      exact forall_mem_of_forall₂ (fun _ _ branch => branch.2.steady branch.1) both
    exact Twins.items (inOrder.imp fun _ _ branch => branch.twins) (by simp) uniform uniformNew
      ends endsNew

end Frames

/-- The frame around the group for a whole argument. -/
def lineFrame : Frame :=
  (Progress.start.push (.anchor .none .lineStart)).top

/-- The open groups correspond, innermost ones first. The whole pattern has no modes, and a wrapper
has the modes of what is around it. -/
inductive FramesTwin [Host] : List Frame → List Frame → Prop
  | whole {old new : Frame} (twin : old.Twin new) (whole : old.opening = .whole)
      (modeless : old.modes = .none) :
      FramesTwin [old] [new, lineFrame]
  | inner {old new outer : Frame} {outers news : List Frame}
      (twin : old.Twin new) (wrapped : old.opening = .plain → old.modes = outer.modes)
      (around : FramesTwin (outer :: outers) news) :
      FramesTwin (old :: outer :: outers) (new :: news)

/-- The progress of the two readers corresponds. -/
structure Progress.Twin [Host] (old new : Progress) : Prop where
  frames : FramesTwin (old.top :: old.below) (new.top :: new.below)
  names : new.names.map Prod.fst = old.names.map Prod.fst
  conditions : new.conditions = []
  isLoose : new.isLoose = false
  isFar : new.isFar = false

/-- The last items of the innermost groups correspond. -/
def Progress.LastTwin [Host] (old new : Progress) : Prop :=
  old.top.LastTwin new.top

section Moves

variable {old new next : Progress}

theorem FramesTwin.top [Host] {frame : Frame} {frames news : List Frame}
    (twin : FramesTwin (frame :: frames) news) :
    ∃ newFrame others, news = newFrame :: others ∧
      frame.Twin newFrame ∧
      ∀ other newOther : Frame, other.Twin newOther → other.opening = frame.opening →
        other.modes = frame.modes → FramesTwin (other :: frames) (newOther :: others) := by
  cases twin with
  | whole twin whole modeless =>
      refine ⟨_, _, rfl, twin, ?_⟩
      intro other newOther otherTwin opening modes
      exact .whole otherTwin (opening.trans whole) (modes.trans modeless)
  | inner twin wrapped around =>
      refine ⟨_, _, rfl, twin, ?_⟩
      intro other newOther otherTwin opening modes
      refine .inner otherTwin ?_ around
      rw [opening, modes]
      exact wrapped

namespace Progress.Twin

theorem top [Host] (twin : old.Twin new) : old.top.Twin new.top := by
  obtain ⟨frame, others, same, own, -⟩ := twin.frames.top
  obtain ⟨rfl, -⟩ := List.cons.inj same
  exact own

theorem modes [Host] (twin : old.Twin new) : new.modes = old.modes :=
  twin.top.modes

/-- Outside of all groups one reader reads the whole pattern, and the other one a line. -/
theorem outermost [Host] (twin : old.Twin new) (closed : old.below = []) :
    old.modes = .none ∧ new.top.opening = .plain ∧ new.below = [lineFrame] := by
  have frames := twin.frames
  rw [closed] at frames
  generalize whole : new.top :: new.below = news at frames
  cases frames with
  | whole own outermost modeless =>
      obtain ⟨rfl, below⟩ := List.cons.inj whole
      have opening := own.opening
      rw [outermost] at opening
      refine ⟨modeless, ?_, below⟩
      generalize new.top.opening = kind at opening
      cases opening with
      | whole => rfl

/-- The top frames may be replaced by others that correspond. -/
theorem withTop [Host] (twin : old.Twin new) {frame newFrame : Frame}
    (own : frame.Twin newFrame) (opening : frame.opening = old.top.opening)
    (modes : frame.modes = old.top.modes) :
    { old with top := frame }.Twin { new with top := newFrame } := by
  obtain ⟨top, others, same, -, replace⟩ := twin.frames.top
  obtain ⟨rfl, rfl⟩ := List.cons.inj same
  exact ⟨replace frame newFrame own opening modes, twin.names, twin.conditions, twin.isLoose,
    twin.isFar⟩

theorem push [Host] (twin : old.Twin new) {item newItem : Item}
    (alike : Alike old.modes item.nodes newItem.nodes) :
    { old with top := old.top.push item }.Twin { new with top := new.top.push newItem } :=
  twin.withTop (twin.top.push alike) rfl rfl

/-- Both readers have opened a group. -/
theorem opened [Host] (twin : old.Twin new) {opening newOpening : Opening}
    (opens : opening.Twin newOpening) {modes newModes : Modes} (same : newModes = modes)
    (wrapped : opening = .plain → modes = old.modes) :
    FramesTwin (.start opening modes :: old.top :: old.below)
        (.start newOpening newModes :: new.top :: new.below) ∧
      (Frame.start opening modes).LastTwin (.start newOpening newModes) := by
  subst same
  exact ⟨.inner (.start opens newModes) wrapped twin.frames, Frame.lastTwin_of_nil rfl _⟩

/-- The groups around the innermost ones correspond, too. -/
theorem around [Host] (twin : old.Twin new) {outer : Frame} {others : List Frame}
    (below : old.below = outer :: others) :
    ∃ newOuter newOthers, new.below = newOuter :: newOthers ∧
      (old.top.opening = .plain → old.top.modes = outer.modes) ∧
      FramesTwin (outer :: others) (newOuter :: newOthers) := by
  have frames := twin.frames
  rw [below] at frames
  generalize whole : new.top :: new.below = news at frames
  cases frames with
  | inner own wrapped around =>
      obtain ⟨-, rfl⟩ := List.cons.inj whole
      obtain ⟨newOuter, newOthers, newBelow, -, -⟩ := around.top
      exact ⟨newOuter, newOthers, newBelow, wrapped, newBelow ▸ around⟩

theorem leaf [Host] (twin : old.Twin new) {atom other : Atom}
    (leaves : (Node.atom old.modes atom).Twin (.atom old.modes other))
    (steady : atom.Steady old.modes → other.Steady old.modes) :
    (old.push (.atom old.modes atom)).Twin (new.push (.atom new.modes other)) ∧
      (old.push (.atom old.modes atom)).LastTwin (new.push (.atom new.modes other)) := by
  rw [twin.modes]
  constructor
  · exact twin.push (.atom leaves steady)
  · exact twin.top.lastTwin (.atom leaves steady) trivial

theorem anchor [Host] (twin : old.Twin new) (kind : Anchor) :
    (old.push (.anchor old.modes kind)).Twin (new.push (.anchor new.modes kind)) ∧
      (old.push (.anchor old.modes kind)).LastTwin (new.push (.anchor new.modes kind)) := by
  rw [twin.modes]
  constructor
  · exact twin.push (.single (.refl _) nofun nofun trivial)
  · exact Frame.lastTwin_of_not id _

theorem repeatLast [Host] (twin : old.Twin new) (last : old.LastTwin new) {greed : Greed}
    {least : Nat} {most : Option Nat} (repeats : old.repeatLast greed least most = .ok next)
    (relaxed : next.Relaxed) :
    ∃ moved, new.repeatLast greed least most = .ok moved ∧ next.Twin moved ∧
      next.LastTwin moved := by
  obtain ⟨base, item, whole, repeatable, rfl⟩ := Progress.repeatLast_eq_ok.mp repeats
  obtain ⟨newBase, newItem, newWhole, newRepeatable, baseTwin, alike⟩ :=
    last base item whole repeatable
  have lenient := (relaxed.last rfl).2
  obtain ⟨body, unreferenced⟩ := alike.node
  have repeated : Alike base.modes [.repeated greed least most (.sequenceOf item.nodes)]
      [.repeated greed least most (.sequenceOf newItem.nodes)] :=
    .single (body.repeated lenient) nofun nofun unreferenced
  refine ⟨_, Progress.repeatLast_eq_ok.mpr ⟨newBase, newItem, newWhole, newRepeatable, rfl⟩, ?_, ?_⟩
  · exact twin.withTop (baseTwin.push repeated) (whole ▸ rfl) (whole ▸ rfl)
  · exact Frame.lastTwin_of_not id _

theorem alternate [Host] (twin : old.Twin new) (steady : EndsSteady old.top.branch) :
    new.alternate = .ok { new with top := new.top.alternate } ∧
      { old with top := old.top.alternate }.Twin { new with top := new.top.alternate } ∧
      { old with top := old.top.alternate }.LastTwin { new with top := new.top.alternate } := by
  refine ⟨?_, twin.withTop (twin.top.alternate steady) rfl rfl, Frame.lastTwin_of_nil rfl _⟩
  rw [Progress.alternate]
  split
  · next same _ => exact absurd same (twin.top.opening.ne_conditional _)
  · rfl

end Progress.Twin

section Closing

variable {outer newOuter : Frame} {others newOthers : List Frame}

/-- The closed groups become items of the groups around them. -/
theorem FramesTwin.closed [Host] {item newItem : Item}
    (around : FramesTwin (outer :: others) (newOuter :: newOthers))
    (alike : Alike outer.modes item.nodes newItem.nodes) (repeatable : newItem.Repeatable) :
    FramesTwin (outer.push item :: others) (newOuter.push newItem :: newOthers) ∧
      (outer.push item).LastTwin (newOuter.push newItem) := by
  obtain ⟨frame, frames, same, own, replace⟩ := around.top
  obtain ⟨rfl, rfl⟩ := List.cons.inj same
  exact ⟨replace _ _ (own.push alike) rfl rfl, own.lastTwin alike repeatable⟩

/-- The same for groups that become trees, which are no leaves. -/
theorem FramesTwin.closed_single [Host] {node newNode : Node}
    (around : FramesTwin (outer :: others) (newOuter :: newOthers)) (twin : node.Twin newNode)
    (other : ∀ own leaf, node ≠ .atom own leaf) (otherNew : ∀ own leaf, newNode ≠ .atom own leaf)
    (unreferenced : newNode.Unreferenced) (repeatable : (Item.single newNode).Repeatable) :
    FramesTwin (outer.push (.single node) :: others)
        (newOuter.push (.single newNode) :: newOthers) ∧
      (outer.push (.single node)).LastTwin (newOuter.push (.single newNode)) :=
  around.closed (.single twin other otherNew unreferenced) repeatable

theorem Progress.Twin.close [Host] (twin : old.Twin new) (closes : old.close = .ok next)
    (relaxed : next.Relaxed) (steady : old.top.branches ≠ [] → EndsSteady old.top.branch) :
    ∃ moved, new.close = .ok moved ∧ next.Twin moved ∧ next.LastTwin moved := by
  cases below : old.below with
  | nil =>
      rw [Progress.close, below] at closes
      cases closes
  | cons outer others =>
      obtain ⟨newOuter, newOthers, newBelow, wrapped, around⟩ := twin.around below
      obtain ⟨twins, uniform, each⟩ := twin.top.nodes steady
      have body : old.top.node.Twin new.top.node := twins.node
      have unreferenced : new.top.node.Unreferenced :=
        holds_sequenceOf trivial (fun _ _ left right => ⟨left, right⟩) each
      have opening := twin.top.opening
      generalize opens : old.top.opening = kind at opening wrapped
      generalize newOpens : new.top.opening = newKind at opening
      rw [Progress.close, below, opens] at closes
      rw [Progress.close, newBelow, newOpens]
      cases opening with
      | whole => cases closes
      | plain group =>
          obtain rfl := Except.ok.inj closes
          have alike : Alike outer.modes (Item.plain old.top.nodes).nodes
              (Item.single (.capture group new.top.node)).nodes :=
            .one (twins.captured group) (wrapped rfl ▸ uniform) (by simp) unreferenced
          obtain ⟨frames, last⟩ := around.closed alike trivial
          exact ⟨_, rfl, ⟨frames, twin.names, twin.conditions, twin.isLoose, twin.isFar⟩, last⟩
      | enclosed =>
          obtain rfl := Except.ok.inj closes
          obtain ⟨frames, last⟩ :=
            around.closed_single body.enclosed (by simp) (by simp) unreferenced trivial
          exact ⟨_, rfl, ⟨frames, twin.names, twin.conditions, twin.isLoose, twin.isFar⟩, last⟩
      | capture group other =>
          obtain rfl := Except.ok.inj closes
          obtain ⟨frames, last⟩ :=
            around.closed_single (body.capture group other) (by simp) (by simp) unreferenced trivial
          exact ⟨_, rfl, ⟨frames, twin.names, twin.conditions, twin.isLoose, twin.isFar⟩, last⟩
      | ahead negated =>
          obtain rfl := Except.ok.inj closes
          have lenient := (relaxed.last rfl).2
          obtain ⟨frames, last⟩ :=
            around.closed_single (body.look lenient) (by simp) (by simp) unreferenced trivial
          exact ⟨_, rfl, ⟨frames, twin.names, twin.conditions, twin.isLoose, twin.isFar⟩, last⟩
      | behind negated outermost other =>
          obtain rfl := Except.ok.inj closes
          obtain ⟨oldUnreferenced, blankless⟩ := relaxed.last rfl
          have width : new.top.node.width new.closed = old.top.node.width old.closed :=
            body.width_eq blankless oldUnreferenced unreferenced _ _
          obtain ⟨frames, last⟩ :=
            around.closed_single (body.look blankless) (by simp) (by simp) unreferenced trivial
          -- The look behind is as wide as before, so it is no looser and reaches no farther.
          obtain ⟨before, near⟩ := Bool.or_eq_false_iff.mp relaxed.isLoose
          have even := (Bool.or_eq_false_iff.mp before).2
          have isLoose := Bool.or_eq_false_iff.mpr ⟨even, near⟩
          have isFar := (Bool.or_eq_false_iff.mp relaxed.isFar).2
          dsimp only
          rw [width, twin.isLoose, twin.isFar]
          exact ⟨_, rfl, ⟨frames, twin.names, twin.conditions, isLoose, isFar⟩, last⟩
      | atomic =>
          obtain rfl := Except.ok.inj closes
          have lenient := (relaxed.last rfl).2
          obtain ⟨frames, last⟩ :=
            around.closed_single (body.atomic lenient) (by simp) (by simp) unreferenced trivial
          exact ⟨_, rfl, ⟨frames, twin.names, twin.conditions, twin.isLoose, twin.isFar⟩, last⟩

end Closing

/-- A name that is free before is free afterwards. -/
theorem Progress.Twin.openNamed [Host] (twin : old.Twin new) {name : Text}
    (opens : old.openNamed name = .ok next) :
    ∃ moved, new.openNamed name = .ok moved ∧ next.Twin moved ∧ next.LastTwin moved := by
  have free : ∀ names : List (Text × Nat), (names.lookup name).isNone = true ↔
      ∀ other ∈ names.map Prod.fst, (name != other) = true := by
    intro names
    rw [Option.isNone_iff_eq_none, List.lookup_eq_none_iff, List.forall_mem_map]
  unfold Progress.openNamed at opens
  split at opens
  · next fits =>
      obtain rfl := Except.ok.inj opens
      obtain ⟨identifier, unused⟩ := Bool.and_eq_true_iff.mp fits
      have stillUnused : (new.names.lookup name).isNone = true := by
        rw [free, twin.names, ← free]
        exact unused
      refine ⟨_, if_pos (Bool.and_eq_true_iff.mpr ⟨identifier, stillUnused⟩), ?_⟩
      obtain ⟨frames, last⟩ :=
        twin.opened (.capture (old.groups + 1) (new.groups + 1)) twin.modes nofun
      exact ⟨⟨frames, congrArg (name :: ·) twin.names, twin.conditions, twin.isLoose, twin.isFar⟩,
        last⟩
  · cases opens

/-- What is opened as a wrapper is opened as a group. -/
theorem Progress.Twin.wrap [Host] (twin : old.Twin new) :
    (old.openFrame .plain old.modes).Twin new.openCapture ∧
      (old.openFrame .plain old.modes).LastTwin new.openCapture := by
  obtain ⟨frames, last⟩ := twin.opened (.plain (new.groups + 1)) twin.modes fun _ => rfl
  exact ⟨⟨frames, twin.names, twin.conditions, twin.isLoose, twin.isFar⟩, last⟩

/-- A move that needs nothing but the innermost group can be made by both readers. -/
theorem Move.twin [Host] {move : Move} (twin : old.Twin new) (applied : move.apply old = .ok next)
    (relaxed : next.Relaxed) (free : move.IsFree) (unwrapped : move ≠ .wrap)
    (steady : move = .alternate ∨ move = .close ∧ old.top.branches ≠ [] →
      EndsSteady old.top.branch)
    (last : ∀ greed least most, move = .repetition greed least most → old.LastTwin new) :
    ∃ moved, move.apply new = .ok moved ∧ next.Twin moved ∧
      (next ≠ old ∨ old.LastTwin new → next.LastTwin moved) := by
  have plainly : ∀ {moved : Progress}, move.apply new = .ok moved →
      next.Twin moved ∧ next.LastTwin moved → ∃ moved, move.apply new = .ok moved ∧
        next.Twin moved ∧ (next ≠ old ∨ old.LastTwin new → next.LastTwin moved) :=
    fun moves twins => ⟨_, moves, twins.1, fun _ => twins.2⟩
  cases move with
  | stay =>
      obtain rfl := Except.ok.inj applied
      exact ⟨new, rfl, twin, fun other => other.resolve_left fun moves => moves rfl⟩
  | leaf atom =>
      obtain rfl := Except.ok.inj applied
      exact plainly rfl (twin.leaf (.refl _) id)
  | anchor kind =>
      obtain rfl := Except.ok.inj applied
      exact plainly rfl (twin.anchor kind)
  | repetition greed least most =>
      obtain ⟨moved, repeats, twins⟩ := twin.repeatLast (last greed least most rfl) applied relaxed
      exact plainly repeats twins
  | alternate =>
      obtain rfl := Progress.eq_of_alternate applied
      obtain ⟨alternates, twins⟩ := twin.alternate (steady (.inl rfl))
      exact plainly alternates twins
  | close =>
      obtain ⟨moved, closes, twins⟩ :=
        twin.close applied relaxed fun several => steady (.inr ⟨rfl, several⟩)
      exact plainly closes twins
  | wrap => exact absurd rfl unwrapped
  | ahead negated =>
      obtain rfl := Except.ok.inj applied
      obtain ⟨frames, last⟩ := twin.opened (.ahead negated) twin.modes nofun
      exact plainly rfl
        ⟨⟨frames, twin.names, twin.conditions, twin.isLoose, twin.isFar⟩, last⟩
  | atomic =>
      obtain rfl := Except.ok.inj applied
      obtain ⟨frames, last⟩ := twin.opened .atomic twin.modes nofun
      exact plainly rfl
        ⟨⟨frames, twin.names, twin.conditions, twin.isLoose, twin.isFar⟩, last⟩
  | modes on off =>
      obtain rfl := Except.ok.inj applied
      have changed : new.modes.change on off = old.modes.change on off := by rw [twin.modes]
      obtain ⟨frames, last⟩ := twin.opened .enclosed changed nofun
      exact plainly rfl
        ⟨⟨frames, twin.names, twin.conditions, twin.isLoose, twin.isFar⟩, last⟩
  | capture =>
      obtain rfl := Except.ok.inj applied
      obtain ⟨frames, last⟩ :=
        twin.opened (.capture (old.groups + 1) (new.groups + 1)) twin.modes nofun
      exact plainly rfl
        ⟨⟨frames, twin.names, twin.conditions, twin.isLoose, twin.isFar⟩, last⟩
  | named name =>
      obtain ⟨moved, opens, twins⟩ := twin.openNamed applied
      exact plainly opens twins
  | behind negated =>
      obtain rfl := Except.ok.inj applied
      obtain ⟨frames, last⟩ := twin.opened (.behind negated _ _) twin.modes nofun
      exact plainly rfl
        ⟨⟨frames, twin.names, twin.conditions, twin.isLoose, twin.isFar⟩, last⟩
  | refer group => exact free.elim
  | condition group conditions => exact free.elim
  | settle setting => exact free.elim

end Moves

end ItemFilter.Pattern
