/-
This file lists the steps in which a pattern is read and says which of them normalizing leaves in
order. What is known of the finished tree is followed back to every step.
-/

import ItemFilter.Proofs.Pattern.Blankless
import ItemFilter.Proofs.Pattern.Joining
import ItemFilter.Proofs.Pattern.Refusal

namespace ItemFilter.Pattern

/-- A step of the reader: the progress before it, the symbols that it takes, those after them, and
whether the last item is a blank that is written out. -/
structure Step where
  progress : Progress
  taken : List Symbol
  after : List Symbol
  isAfterBlank : Bool

/-- The steps from the progress on, as far as there are any. A comment is a step that changes
nothing. -/
def stepsFrom [Host] : Nat → Bool → Progress → List Symbol → List Step
  | room + 1, isAfterBlank, progress, symbol :: rest =>
      match readSymbol progress symbol rest with
      | .error _ => []
      | .ok (next, after) =>
          let taken := (symbol :: rest).take (rest.length + 1 - after.length)
          ⟨progress, taken, after, isAfterBlank⟩ ::
            stepsFrom room (symbol.isBlank || (isAfterBlank && decide (next = progress))) next after
  | _, _, _, _ => []

/-- The steps in which a text is read. -/
def steps [Host] (text : Text) : List Step :=
  match symbols? text with
  | none => []
  | some symbols => stepsFrom symbols.length false .start symbols

/-- The symbols are a class with blanks, and joined they are a class that lists no less. Neither of
them depends on the class that it is put into. -/
def widensClass [Host] (modes : Modes) : List Symbol → Bool
  | .plain '[' :: body =>
      match readBracket body, readBracket (joined false body) with
      | .ok (leaf, []), .ok (other, []) =>
          leaf.widensTo other && decide (leaf.Steady modes ∧ other.Steady modes)
      | _, _ => false
  | _ => false

/-- Normalizing makes a class wider, and no other change. -/
structure Step.Widens [Host] (step : Step) : Prop where
  widens : widensClass step.progress.modes step.taken = true
  apart : Matcher.normalize (spelling (step.taken ++ step.after)) =
    spelling (joined false step.taken) ++ Matcher.normalize (spelling step.after)

/-- The step is passed over, and so is what normalizing makes of it. -/
structure Step.Passed (step : Step) : Prop where
  before : step.progress.modes.passes step.taken = true
  afterwards : step.progress.modes.passes (joined false step.taken) = true
  apart : Matcher.normalize (spelling (step.taken ++ step.after)) =
    spelling (joined false step.taken) ++ Matcher.normalize (spelling step.after)

/-- The step ends a branch of a group that has several. -/
def Step.EndsBranch (step : Step) : Prop :=
  step.taken = [.plain '|'] ∨ step.taken = [.plain ')'] ∧ step.progress.top.branches ≠ []

/-- Normalizing leaves the step in order. A branch that ends does so with a leaf that matches the
same in a class, what does not count is passed over afterwards, too, and no modes are set for the
whole pattern. The step takes a wrapper, or begins a run of blanks, or takes a class that becomes
wider, or is passed over, or takes symbols that normalizing keeps; and it does not repeat a
blank. -/
structure Step.Harmless [Host] (step : Step) : Prop where
  steady : step.EndsBranch → EndsSteady step.progress.top.branch
  visible : step.taken.head?.any step.progress.modes.hides = true → step.Passed
  unset : setsModes step.taken = false
  kept : step.taken = wrapper ∨ startsRun (step.taken ++ step.after) = true ∨ step.Widens ∨
    step.Passed ∨ Matcher.normalize (spelling (step.taken ++ step.after)) =
      spelling step.taken ++ Matcher.normalize (spelling step.after)
  single : IsMark step.taken → step.isAfterBlank = false

instance [Host] (step : Step) : Decidable step.Widens :=
  decidable_of_iff (_ ∧ _)
    ⟨fun ⟨widens, apart⟩ => ⟨widens, apart⟩, fun ⟨widens, apart⟩ => ⟨widens, apart⟩⟩

instance (step : Step) : Decidable step.Passed :=
  decidable_of_iff (_ ∧ _ ∧ _)
    ⟨fun ⟨before, afterwards, apart⟩ => ⟨before, afterwards, apart⟩,
    fun ⟨before, afterwards, apart⟩ => ⟨before, afterwards, apart⟩⟩

instance (step : Step) : Decidable step.EndsBranch :=
  inferInstanceAs (Decidable (_ ∨ _ ∧ _))

instance [Host] (step : Step) : Decidable step.Harmless :=
  decidable_of_iff (_ ∧ _ ∧ _ ∧ _ ∧ _)
    ⟨fun ⟨steady, visible, unset, kept, single⟩ => ⟨steady, visible, unset, kept, single⟩,
    fun ⟨steady, visible, unset, kept, single⟩ => ⟨steady, visible, unset, kept, single⟩⟩

/-- The symbols are read in harmless steps. -/
inductive ReadsHarmless [Host] : Bool → Progress → List Symbol → Progress → Prop
  | done (isAfterBlank : Bool) (progress : Progress) :
      ReadsHarmless isAfterBlank progress [] progress
  | step {isAfterBlank : Bool} {progress next last : Progress} {symbol : Symbol}
      {used after : List Symbol}
      (reads : readSymbol progress symbol (used ++ after) = .ok (next, after))
      (harmless : Step.Harmless ⟨progress, symbol :: used, after, isAfterBlank⟩)
      (later : ReadsHarmless (symbol.isBlank || (isAfterBlank && decide (next = progress))) next
        after last) :
      ReadsHarmless isAfterBlank progress (symbol :: (used ++ after)) last

/-- What a step takes is told by how many symbols are left. -/
theorem take_taken (symbol : Symbol) (used after : List Symbol) :
    (symbol :: (used ++ after)).take ((used ++ after).length + 1 - after.length) =
      symbol :: used := by
  have length : (used ++ after).length + 1 - after.length = (symbol :: used).length := by
    simp only [List.length_append, List.length_cons]
    omega
  rw [length, ← List.cons_append, List.take_left]

theorem readsHarmless_of_readSymbols [Host] {limit room : Nat} {isAfterBlank : Bool}
    {progress last : Progress} {symbols : List Symbol}
    (reads : readSymbols limit room progress symbols = .ok last)
    (harmless : ∀ step ∈ stepsFrom room isAfterBlank progress symbols, step.Harmless) :
    ReadsHarmless isAfterBlank progress symbols last := by
  induction room generalizing isAfterBlank progress symbols with
  | zero =>
      cases symbols with
      | nil =>
          obtain rfl := Except.ok.inj reads
          exact .done isAfterBlank progress
      | cons symbol rest => cases reads
  | succ room ih =>
      cases symbols with
      | nil =>
          obtain rfl := Except.ok.inj reads
          exact .done isAfterBlank progress
      | cons symbol rest =>
          rw [readSymbols] at reads
          obtain ⟨⟨next, after⟩, here, onward⟩ := exists_of_bind_ok reads
          dsimp only at onward
          split at onward
          · cases onward
          rw [stepsFrom, here] at harmless
          obtain ⟨own, later⟩ := List.forall_mem_cons.mp harmless
          obtain ⟨used, rfl⟩ := (passes_of_readSymbol here).leaves
          rw [take_taken] at own
          exact .step here own (ih onward later)

section Relaxed

/-- All that the frame holds is relaxed and refers to no group. -/
def Frame.Relaxed (frame : Frame) : Prop :=
  ∀ branch ∈ frame.branch :: frame.branches, ∀ node ∈ branch, node.Unreferenced ∧ node.Relaxed

def Progress.openings (progress : Progress) : List Opening :=
  (progress.top :: progress.below).map Frame.opening

/-- The progress may lead to a tree that is relaxed and refers to no group. -/
structure Progress.Relaxed (progress : Progress) : Prop where
  frames : ∀ frame ∈ progress.top :: progress.below, frame.Relaxed
  untested : ∀ group, .conditional group ∉ progress.openings.dropLast
  isLoose : progress.isLoose = false
  isFar : progress.isFar = false

variable {frame : Frame} {progress next : Progress}

theorem Frame.branch_push_item (frame : Frame) (item : Item) :
    (frame.push item).branch = frame.branch ++ item.nodes := by
  simp [Frame.branch, Frame.push]

theorem Frame.Relaxed.of_push {item : Item} (relaxed : (frame.push item).Relaxed) :
    frame.Relaxed ∧ ∀ node ∈ item.nodes, node.Unreferenced ∧ node.Relaxed := by
  obtain ⟨current, finished⟩ := List.forall_mem_cons.mp relaxed
  rw [Frame.branch_push_item] at current
  obtain ⟨before, own⟩ := List.forall_mem_append.mp current
  exact ⟨List.forall_mem_cons.mpr ⟨before, finished⟩, own⟩

theorem Frame.Relaxed.push (relaxed : frame.Relaxed) {item : Item}
    (own : ∀ node ∈ item.nodes, node.Unreferenced ∧ node.Relaxed) : (frame.push item).Relaxed := by
  obtain ⟨current, finished⟩ := List.forall_mem_cons.mp relaxed
  refine List.forall_mem_cons.mpr ⟨?_, finished⟩
  rw [Frame.branch_push_item]
  exact List.forall_mem_append.mpr ⟨current, own⟩

/-- The group is relaxed if its items are. -/
theorem Frame.relaxed_of_nodes
    (relaxed : ∀ node ∈ frame.nodes, node.Unreferenced ∧ node.Relaxed) : frame.Relaxed := by
  have listed : ∀ branch ∈ frame.branch :: frame.branches,
      branch ∈ (frame.branch :: frame.branches).reverse :=
    fun branch member => List.mem_reverse.mpr member
  intro branch member node inside
  constructor
  · exact splits_unreferenced.ofItems (fun node member => (relaxed node member).1) branch
      (listed branch member) node inside
  · exact splits_relaxed.ofItems (fun node member => (relaxed node member).2) branch
      (listed branch member) node inside

theorem Frame.relaxed_of_node (unreferenced : frame.node.Unreferenced)
    (relaxed : frame.node.Relaxed) : frame.Relaxed := by
  have first := splits_unreferenced.ofSequence frame.nodes unreferenced
  have second := splits_relaxed.ofSequence frame.nodes relaxed
  exact Frame.relaxed_of_nodes fun node member => ⟨first node member, second node member⟩

theorem Progress.Relaxed.last {node : Node} (relaxed : next.Relaxed)
    (top : next.top = frame.push (.single node)) : node.Unreferenced ∧ node.Relaxed := by
  have own := relaxed.frames next.top List.mem_cons_self
  rw [top] at own
  exact own.of_push.2 node List.mem_cons_self

variable (progress) in
/-- The same frames below, and a top frame that held no more. -/
theorem Progress.relaxed_of_top (relaxed : next.Relaxed)
    (top : next.top.Relaxed → progress.top.Relaxed)
    (opening : next.top.opening = progress.top.opening) (below : next.below = progress.below)
    (isLoose : next.isLoose = progress.isLoose) (isFar : next.isFar = progress.isFar) :
    progress.Relaxed := by
  obtain ⟨own, others⟩ := List.forall_mem_cons.mp relaxed.frames
  refine ⟨List.forall_mem_cons.mpr ⟨top own, below ▸ others⟩, ?_, isLoose ▸ relaxed.isLoose,
    isFar ▸ relaxed.isFar⟩
  have same : progress.openings = next.openings := by
    rw [openings, openings, List.map_cons, List.map_cons, opening, below]
  rw [same]
  exact relaxed.untested

variable (progress) in
/-- A group has been opened. -/
theorem Progress.relaxed_of_below (relaxed : next.Relaxed)
    (below : next.below = progress.top :: progress.below)
    (isLoose : next.isLoose = progress.isLoose) (isFar : next.isFar = progress.isFar) :
    progress.Relaxed ∧ ∀ group, next.top.opening ≠ .conditional group := by
  have openings : next.openings.dropLast = next.top.opening :: progress.openings.dropLast := by
    rw [Progress.openings, below]
    rfl
  obtain ⟨-, others⟩ := List.forall_mem_cons.mp relaxed.frames
  have untested := relaxed.untested
  rw [openings] at untested
  refine ⟨⟨below ▸ others, ?_, isLoose ▸ relaxed.isLoose, isFar ▸ relaxed.isFar⟩, ?_⟩
  · exact fun group member => untested group (List.mem_cons_of_mem _ member)
  · exact fun group same => untested group (same ▸ List.mem_cons_self)

/-- A group has been closed and stands in the group around it as an item. -/
theorem Progress.Relaxed.of_close (relaxed : next.Relaxed) {outer : Frame} {item : Item}
    (below : progress.below = outer :: next.below) (top : next.top = outer.push item)
    (body : (∀ node ∈ item.nodes, node.Unreferenced ∧ node.Relaxed) → progress.top.Relaxed)
    (untested : ∀ group, progress.top.opening ≠ .conditional group)
    (isLoose : next.isLoose = false → progress.isLoose = false)
    (isFar : next.isFar = false → progress.isFar = false) : progress.Relaxed := by
  obtain ⟨own, others⟩ := List.forall_mem_cons.mp relaxed.frames
  rw [top] at own
  obtain ⟨around, inside⟩ := own.of_push
  have openings : progress.openings.dropLast =
      progress.top.opening :: next.openings.dropLast := by
    rw [Progress.openings, Progress.openings, below, top]
    rfl
  refine ⟨?_, ?_, isLoose relaxed.isLoose, isFar relaxed.isFar⟩
  · rw [below]
    exact List.forall_mem_cons.mpr ⟨body inside, List.forall_mem_cons.mpr ⟨around, others⟩⟩
  · intro group
    rw [openings, List.mem_cons, not_or]
    exact ⟨fun same => untested group same.symm, relaxed.untested group⟩

theorem Progress.Relaxed.of_closed [Host] (relaxed : next.Relaxed)
    (closes : progress.close = .ok next) : progress.Relaxed := by
  cases below : progress.below with
  | nil =>
      rw [Progress.close, below] at closes
      cases closes
  | cons outer others =>
      have single : ∀ {node : Node} {frame : Frame},
          (node.Unreferenced ∧ node.Relaxed → frame.node.Unreferenced ∧ frame.node.Relaxed) →
          (∀ inner ∈ (Item.single node).nodes, inner.Unreferenced ∧ inner.Relaxed) →
            frame.Relaxed := by
        intro node frame body all
        obtain ⟨unreferenced, relaxed⟩ := body (all node List.mem_cons_self)
        exact frame.relaxed_of_node unreferenced relaxed
      rw [Progress.close, below] at closes
      cases opening : progress.top.opening with
      | whole => simp only [opening] at closes; cases closes
      | plain =>
          simp only [opening] at closes
          obtain rfl := Except.ok.inj closes
          exact relaxed.of_close below rfl progress.top.relaxed_of_nodes (by simp [opening]) id id
      | enclosed =>
          simp only [opening] at closes
          obtain rfl := Except.ok.inj closes
          exact relaxed.of_close below rfl (single id) (by simp [opening]) id id
      | capture group =>
          simp only [opening] at closes
          obtain rfl := Except.ok.inj closes
          exact relaxed.of_close below rfl (single id) (by simp [opening]) id id
      | ahead negated =>
          simp only [opening] at closes
          obtain rfl := Except.ok.inj closes
          apply relaxed.of_close below rfl (single _) (by simp [opening]) id id
          rintro ⟨unreferenced, body⟩
          cases negated with
          | false => exact ⟨unreferenced, body⟩
          | true => exact ⟨unreferenced, body.relaxed⟩
      | behind negated outermost =>
          simp only [opening] at closes
          obtain rfl := Except.ok.inj closes
          apply relaxed.of_close below rfl (single _) (by simp [opening])
          · exact fun loose => (Bool.or_eq_false_iff.mp (Bool.or_eq_false_iff.mp loose).1).1
          · exact fun far => (Bool.or_eq_false_iff.mp far).1
          · exact fun both => ⟨both.1, Node.Blankless.relaxed both.2⟩
      | atomic =>
          simp only [opening] at closes
          obtain rfl := Except.ok.inj closes
          apply relaxed.of_close below rfl (single _) (by simp [opening]) id id
          exact fun both => ⟨both.1, Node.Blankless.relaxed both.2⟩
      | conditional group =>
          simp only [opening] at closes
          -- What is closed would be a node that refers to the group.
          have referred : ∀ {present absent : Node},
              next.top = outer.push (.single (.conditional group present absent)) → False := by
            intro present absent top
            have own := relaxed.frames next.top List.mem_cons_self
            rw [top] at own
            exact (own.of_push.2 _ List.mem_cons_self).1
          split at closes
          · obtain rfl := Except.ok.inj closes
            exact (referred rfl).elim
          · obtain rfl := Except.ok.inj closes
            exact (referred rfl).elim

/-- An item that may be repeated. -/
def Item.Repeatable : Item → Prop
  | .single (.anchor _ _) | .single (.repeated _ _ _ _) => False
  | _ => True

theorem Progress.repeatLast_eq_ok {greed : Greed} {least : Nat} {most : Option Nat} :
    progress.repeatLast greed least most = .ok next ↔
      ∃ (base : Frame) (item : Item), progress.top = base.push item ∧ item.Repeatable ∧
        next = { progress with
          top := base.push (.single (.repeated greed least most (.sequenceOf item.nodes))) } := by
  constructor
  · intro repeats
    unfold Progress.repeatLast at repeats
    split at repeats
    · cases repeats
    · cases repeats
    · cases repeats
    · next item items notAnchor notRepeated whole =>
        obtain rfl := Except.ok.inj repeats
        refine ⟨{ progress.top with items := items }, item, ?_, ?_, rfl⟩
        · rw [Frame.push, ← whole]
        · unfold Item.Repeatable
          split
          · next modes kind => exact notAnchor modes kind rfl
          · next greed least most body => exact notRepeated greed least most body rfl
          · trivial
  · rintro ⟨base, item, whole, repeatable, rfl⟩
    rw [Progress.repeatLast, whole, Frame.push]
    split
    · next none => cases none
    · next same =>
        obtain ⟨rfl, rfl⟩ := List.cons.inj same
        exact repeatable.elim
    · next same =>
        obtain ⟨rfl, rfl⟩ := List.cons.inj same
        exact repeatable.elim
    · next same =>
        obtain ⟨rfl, rfl⟩ := List.cons.inj same
        rfl

/-- The frame when a further branch begins. -/
def Frame.alternate (frame : Frame) : Frame :=
  { frame with branches := frame.branch :: frame.branches, items := [] }

theorem Progress.eq_of_alternate (alternates : progress.alternate = .ok next) :
    next = { progress with top := progress.top.alternate } := by
  unfold Progress.alternate at alternates
  split at alternates
  · cases alternates
  · exact (Except.ok.inj alternates).symm

theorem Progress.eq_of_openNamed {name : Text} (opens : progress.openNamed name = .ok next) :
    next =
      { progress with names := (name, progress.groups + 1) :: progress.names }.openCapture := by
  unfold Progress.openNamed at opens
  split at opens
  · exact (Except.ok.inj opens).symm
  · cases opens

theorem Move.relaxed_of_apply [Host] {move : Move} (applied : move.apply progress = .ok next)
    (relaxed : next.Relaxed) : progress.Relaxed := by
  cases move with
  | stay =>
      obtain rfl := Except.ok.inj applied
      exact relaxed
  | leaf atom =>
      obtain rfl := Except.ok.inj applied
      exact progress.relaxed_of_top relaxed (fun top => top.of_push.1) rfl rfl rfl rfl
  | anchor kind =>
      obtain rfl := Except.ok.inj applied
      exact progress.relaxed_of_top relaxed (fun top => top.of_push.1) rfl rfl rfl rfl
  | refer group =>
      obtain rfl := Except.ok.inj applied
      exact progress.relaxed_of_top relaxed (fun top => top.of_push.1) rfl rfl rfl rfl
  | repetition greed least most =>
      obtain ⟨base, item, whole, -, rfl⟩ := Progress.repeatLast_eq_ok.mp applied
      apply progress.relaxed_of_top relaxed _ (whole ▸ rfl) rfl rfl rfl
      intro top
      obtain ⟨before, own⟩ := top.of_push
      obtain ⟨unreferenced, body⟩ := own _ List.mem_cons_self
      have inside : (Node.sequenceOf item.nodes).Relaxed := by
        cases greed with
        | greedy => exact body
        | reluctant => exact body
        | possessive => exact Node.Blankless.relaxed body
      rw [whole]
      apply before.push
      intro node member
      exact ⟨splits_unreferenced.ofSequence _ unreferenced node member,
        splits_relaxed.ofSequence _ inside node member⟩
  | alternate =>
      obtain rfl := Progress.eq_of_alternate applied
      apply progress.relaxed_of_top relaxed _ rfl rfl rfl rfl
      exact fun top => (List.forall_mem_cons.mp top).2
  | close => exact relaxed.of_closed applied
  | wrap =>
      obtain rfl := Except.ok.inj applied
      exact (progress.relaxed_of_below relaxed rfl rfl rfl).1
  | ahead negated =>
      obtain rfl := Except.ok.inj applied
      exact (progress.relaxed_of_below relaxed rfl rfl rfl).1
  | atomic =>
      obtain rfl := Except.ok.inj applied
      exact (progress.relaxed_of_below relaxed rfl rfl rfl).1
  | modes on off =>
      obtain rfl := Except.ok.inj applied
      exact (progress.relaxed_of_below relaxed rfl rfl rfl).1
  | capture =>
      obtain rfl := Except.ok.inj applied
      exact (progress.relaxed_of_below relaxed rfl rfl rfl).1
  | named name =>
      obtain rfl := Progress.eq_of_openNamed applied
      exact (progress.relaxed_of_below relaxed rfl rfl rfl).1
  | behind negated =>
      obtain rfl := Except.ok.inj applied
      exact (progress.relaxed_of_below relaxed rfl rfl rfl).1
  | condition group conditions =>
      obtain rfl := Except.ok.inj applied
      exact (progress.relaxed_of_below relaxed rfl rfl rfl).1
  | settle setting =>
      obtain rfl := Except.ok.inj applied
      exact progress.relaxed_of_top relaxed id rfl rfl rfl rfl

theorem ReadsHarmless.relaxed [Host] {isAfterBlank : Bool} {symbols : List Symbol} {last : Progress}
    (reads : ReadsHarmless isAfterBlank progress symbols last) (relaxed : last.Relaxed) :
    progress.Relaxed := by
  induction reads with
  | done => exact relaxed
  | step reads harmless later ih =>
      obtain ⟨move, applied⟩ := exists_move reads
      exact move.relaxed_of_apply applied (ih relaxed)

/-- The progress at the end of a relaxed pattern. -/
theorem Progress.relaxed_of_finish {limit : Nat} {tree : Node}
    (finishes : progress.finish limit = .ok tree) (unreferenced : tree.Unreferenced)
    (relaxed : tree.Relaxed) :
    progress.Relaxed ∧ progress.below = [] ∧ tree = progress.top.node := by
  unfold Progress.finish at finishes
  dsimp only at finishes
  split at finishes
  · next complete =>
      split at finishes
      · cases finishes
      next near =>
        obtain rfl := Except.ok.inj finishes
        simp only [Bool.and_eq_true, List.isEmpty_iff, Bool.not_eq_true'] at complete
        obtain ⟨⟨⟨⟨below, -⟩, fixed⟩, -⟩, -⟩ := complete
        refine ⟨⟨?_, ?_, fixed, Bool.not_eq_true _ ▸ near⟩, below, rfl⟩
        · rw [below]
          exact List.forall_mem_singleton.mpr (progress.top.relaxed_of_node unreferenced relaxed)
        · rw [Progress.openings, below]
          exact fun _ => List.not_mem_nil
  · cases finishes

end Relaxed

end ItemFilter.Pattern
