/-
This file says how deep a pattern can be nested: no deeper than twice its length. So there is always
a limit with which a pattern is read as if there were none, and a greater limit changes nothing in a
pattern that is read.
-/

import ItemFilter.Proofs.Pattern.Steps
import ItemFilter.Proofs.Pattern.Wording

namespace ItemFilter.Pattern

/-- The symbols are read step by step, however deep they are nested. -/
inductive Reads [Host] : Progress → List Symbol → Progress → Prop
  | done (progress : Progress) : Reads progress [] progress
  | step {progress next last : Progress} {symbol : Symbol} {rest after : List Symbol}
      (reads : readSymbol progress symbol rest = .ok (next, after))
      (later : Reads next after last) : Reads progress (symbol :: rest) last

/-- Nothing in the frame is nested deeper than the bound. -/
def Frame.Fits (bound : Nat) (frame : Frame) : Prop :=
  ∀ branch ∈ frame.branch :: frame.branches, ∀ node ∈ branch, node.depth ≤ bound

/-- Neither the open groups nor what they hold are nested deeper than the bound. -/
structure Progress.Fits (bound : Nat) (progress : Progress) : Prop where
  depth : progress.depth ≤ bound
  frames : ∀ frame ∈ progress.top :: progress.below, frame.Fits bound

section Frames

variable {bound : Nat} {frame : Frame}

theorem Frame.Fits.mono (fits : frame.Fits bound) {wider : Nat} (le : bound ≤ wider) :
    frame.Fits wider :=
  fun branch listed node member => (fits branch listed node member).trans le

theorem Frame.fits_start (opening : Opening) (modes : Modes) (bound : Nat) :
    (Frame.start opening modes).Fits bound :=
  List.forall_mem_singleton.mpr fun _ member => absurd member List.not_mem_nil

theorem Frame.Fits.push (fits : frame.Fits bound) {item : Item}
    (own : ∀ node ∈ item.nodes, node.depth ≤ bound) : (frame.push item).Fits bound := by
  obtain ⟨current, finished⟩ := List.forall_mem_cons.mp fits
  refine List.forall_mem_cons.mpr ⟨?_, finished⟩
  rw [Frame.branch_push_item]
  exact List.forall_mem_append.mpr ⟨current, own⟩

theorem Frame.Fits.of_push {item : Item} (fits : (frame.push item).Fits bound) :
    frame.Fits bound ∧ ∀ node ∈ item.nodes, node.depth ≤ bound := by
  obtain ⟨current, finished⟩ := List.forall_mem_cons.mp fits
  rw [Frame.branch_push_item] at current
  obtain ⟨before, own⟩ := List.forall_mem_append.mp current
  exact ⟨List.forall_mem_cons.mpr ⟨before, finished⟩, own⟩

theorem Frame.Fits.alternate (fits : frame.Fits bound) : frame.alternate.Fits bound :=
  List.forall_mem_cons.mpr ⟨fun _ member => absurd member List.not_mem_nil, fits⟩

/-- Branches that are put together are nested one level deeper at most. -/
theorem Frame.Fits.nodes (fits : frame.Fits bound) :
    ∀ node ∈ frame.nodes, node.depth ≤ bound + 1 := by
  have inOrder : ∀ branch ∈ (frame.branch :: frame.branches).reverse, ∀ node ∈ branch,
      node.depth ≤ bound :=
    fun branch member => fits branch (List.mem_reverse.mp member)
  have wider : ∀ node : Node, node.depth ≤ bound → node.depth ≤ bound + 1 :=
    fun _ own => Nat.le_succ_of_le own
  apply Alternation.forall_items wider (fun _ => Nat.zero_le _) _ inOrder
  intro remaining inside
  apply depth_choiceOf_le
  intro branch member
  obtain ⟨nodes, listed, rfl⟩ := List.mem_map.mp member
  exact depth_sequenceOf_le (inside nodes listed)

theorem Frame.Fits.node (fits : frame.Fits bound) : frame.node.depth ≤ bound + 1 :=
  depth_sequenceOf_le fits.nodes

end Frames

section Moves

variable {bound : Nat} {progress next : Progress}

theorem Opening.depth_le (opening : Opening) : opening.depth ≤ 2 := by
  cases opening <;> simp [depth]

theorem Progress.Fits.mono (fits : progress.Fits bound) {wider : Nat} (le : bound ≤ wider) :
    progress.Fits wider :=
  ⟨fits.depth.trans le, fun frame member => (fits.frames frame member).mono le⟩

/-- The innermost group holds something else. -/
theorem Progress.Fits.withTop (fits : progress.Fits bound) (own : next.top.Fits (bound + 2))
    (opening : next.top.opening = progress.top.opening) (below : next.below = progress.below) :
    next.Fits (bound + 2) := by
  refine ⟨?_, List.forall_mem_cons.mpr ⟨own, ?_⟩⟩
  · rw [Progress.depth_congr opening below]
    exact Nat.le_add_right_of_le fits.depth
  · rw [below]
    exact fun frame member =>
      (fits.frames frame (List.mem_cons_of_mem _ member)).mono (Nat.le_add_right bound 2)

theorem Progress.Fits.push (fits : progress.Fits bound) {node : Node} (depth : node.depth = 0) :
    (progress.push node).Fits (bound + 2) := by
  have own := (fits.frames _ List.mem_cons_self).mono (Nat.le_add_right bound 2)
  refine fits.withTop (own.push (List.forall_mem_singleton.mpr ?_)) rfl rfl
  rw [depth]
  exact Nat.zero_le _

/-- A group has been opened. -/
theorem Progress.Fits.opened (fits : progress.Fits bound) {opening : Opening} {modes : Modes}
    (top : next.top = .start opening modes) (below : next.below = progress.top :: progress.below) :
    next.Fits (bound + 2) := by
  have deeper : next.depth = opening.depth + progress.depth := by
    rw [Progress.depth, top, below]
    rfl
  refine ⟨?_, ?_⟩
  · have := opening.depth_le
    have := fits.depth
    omega
  · rw [top, below]
    refine List.forall_mem_cons.mpr ⟨Frame.fits_start opening modes _, fun frame member => ?_⟩
    exact (fits.frames frame member).mono (Nat.le_add_right bound 2)

/-- A group has been closed and stands in the group around it. -/
theorem Progress.Fits.closed (fits : progress.Fits bound) {outer : Frame} {others : List Frame}
    (below : progress.below = outer :: others) {item : Item} (top : next.top = outer.push item)
    (rest : next.below = others) (own : ∀ node ∈ item.nodes, node.depth ≤ bound + 2) :
    next.Fits (bound + 2) := by
  have around := fits.frames
  rw [below] at around
  have wider : ∀ frame ∈ outer :: others, frame.Fits (bound + 2) := fun frame member =>
    (around frame (List.mem_cons_of_mem _ member)).mono (Nat.le_add_right bound 2)
  obtain ⟨outside, further⟩ := List.forall_mem_cons.mp wider
  have shallower : progress.depth = progress.top.opening.depth + next.depth := by
    rw [Progress.depth, Progress.depth, below, top, rest]
    rfl
  refine ⟨?_, ?_⟩
  · have := fits.depth
    omega
  · rw [top, rest]
    exact List.forall_mem_cons.mpr ⟨outside.push own, further⟩

theorem Progress.Fits.close [Host] (fits : progress.Fits bound)
    (closes : progress.close = .ok next) : next.Fits (bound + 2) := by
  have inside := fits.frames progress.top List.mem_cons_self
  have body : progress.top.node.depth ≤ bound + 1 := inside.node
  cases below : progress.below with
  | nil =>
      rw [Progress.close, below] at closes
      cases closes
  | cons outer others =>
      rw [Progress.close, below] at closes
      cases opening : progress.top.opening with
      | whole => simp only [opening] at closes; cases closes
      | plain =>
          simp only [opening] at closes
          obtain rfl := Except.ok.inj closes
          exact fits.closed below rfl rfl fun node member =>
            Nat.le_succ_of_le (inside.nodes node member)
      | enclosed | capture | ahead | behind | atomic =>
          simp only [opening] at closes
          obtain rfl := Except.ok.inj closes
          exact fits.closed below rfl rfl (List.forall_mem_singleton.mpr (Nat.succ_le_succ body))
      | conditional group =>
          simp only [opening] at closes
          obtain ⟨last, finished⟩ := List.forall_mem_cons.mp inside
          have depth : (Node.sequenceOf progress.top.branch).depth ≤ bound :=
            depth_sequenceOf_le last
          split at closes
          · obtain rfl := Except.ok.inj closes
            refine fits.closed below rfl rfl (List.forall_mem_singleton.mpr ?_)
            exact Nat.succ_le_succ (max_le (Nat.le_succ_of_le depth) (Nat.zero_le _))
          · next present before whole =>
              obtain rfl := Except.ok.inj closes
              have other : (Node.sequenceOf present).depth ≤ bound :=
                depth_sequenceOf_le (finished present (whole ▸ List.mem_cons_self))
              refine fits.closed below rfl rfl (List.forall_mem_singleton.mpr ?_)
              exact Nat.succ_le_succ (Nat.le_succ_of_le (max_le other depth))

theorem Progress.Fits.repeatLast (fits : progress.Fits bound) {greed : Greed} {least : Nat}
    {most : Option Nat} (repeats : progress.repeatLast greed least most = .ok next) :
    next.Fits (bound + 2) := by
  obtain ⟨base, item, whole, -, rfl⟩ := Progress.repeatLast_eq_ok.mp repeats
  have inside := fits.frames progress.top List.mem_cons_self
  rw [whole] at inside
  obtain ⟨before, own⟩ := inside.of_push
  refine fits.withTop ((before.mono (Nat.le_add_right bound 2)).push ?_) (whole ▸ rfl) rfl
  refine List.forall_mem_singleton.mpr ?_
  exact Nat.succ_le_succ (Nat.le_succ_of_le (depth_sequenceOf_le own))

/-- No move adds more than two levels. -/
theorem Move.fits_of_apply [Host] {move : Move} (applied : move.apply progress = .ok next)
    (fits : progress.Fits bound) : next.Fits (bound + 2) := by
  have own := (fits.frames _ List.mem_cons_self).mono (Nat.le_add_right bound 2)
  cases move with
  | stay =>
      obtain rfl := Except.ok.inj applied
      exact fits.mono (Nat.le_add_right bound 2)
  | leaf | anchor | refer =>
      obtain rfl := Except.ok.inj applied
      exact fits.push rfl
  | repetition greed least most => exact fits.repeatLast applied
  | alternate =>
      obtain rfl := Progress.eq_of_alternate applied
      exact fits.withTop own.alternate rfl rfl
  | close => exact fits.close applied
  | wrap | ahead | atomic | modes | capture | behind | condition =>
      obtain rfl := Except.ok.inj applied
      exact fits.opened rfl rfl
  | named name =>
      obtain rfl := Progress.eq_of_openNamed applied
      exact fits.opened rfl rfl
  | settle setting =>
      obtain rfl := Except.ok.inj applied
      exact fits.withTop own rfl rfl

end Moves

theorem length_le_of_symbols? {text : Text} {symbols : List Symbol}
    (spelled : symbols? text = some symbols) : symbols.length ≤ text.length := by
  obtain ⟨rfl, -⟩ := spelling_of_symbols? spelled
  rw [spelling, List.length_flatMap]
  have lengths := List.length_le_sum_of_one_le (symbols.map fun symbol => symbol.text.length)
  rw [List.length_map] at lengths
  apply lengths
  rw [List.forall_mem_map]
  intro symbol _
  cases symbol <;> simp [Symbol.text]

theorem fits_start : Progress.start.Fits 0 :=
  ⟨Nat.le_refl 0, List.forall_mem_singleton.mpr (Frame.fits_start .whole .none 0)⟩

section Runs

variable {limit more room bound : Nat} {progress next last : Progress} {symbol : Symbol}
  {symbols rest after : List Symbol}

/-- A step adds two levels at most and takes at least its own symbol. -/
theorem Progress.Fits.step [Host] (fits : progress.Fits bound)
    (reads : readSymbol progress symbol rest = .ok (next, after)) :
    next.Fits (bound + 2) ∧ after.length ≤ rest.length := by
  obtain ⟨move, applied⟩ := exists_move reads
  exact ⟨move.fits_of_apply applied fits, (passes_of_readSymbol reads).leaves.length_le⟩

theorem Progress.Fits.readSymbols [Host] (fits : progress.Fits bound)
    (reads : readSymbols limit room progress symbols = .ok last) :
    last.Fits (bound + 2 * symbols.length) := by
  induction room generalizing bound progress symbols with
  | zero =>
      cases symbols with
      | nil =>
          obtain rfl := Except.ok.inj reads
          exact fits
      | cons symbol rest => cases reads
  | succ room ih =>
      cases symbols with
      | nil =>
          obtain rfl := Except.ok.inj reads
          exact fits
      | cons symbol rest =>
          rw [Pattern.readSymbols] at reads
          obtain ⟨⟨next, after⟩, here, onward⟩ := exists_of_bind_ok reads
          dsimp only at onward
          split at onward
          · cases onward
          obtain ⟨fitsNext, shorter⟩ := fits.step here
          rw [List.length_cons]
          exact (ih fitsNext onward).mono (by omega)

/-- Limits of at least twice the number of symbols make no difference. -/
theorem Progress.Fits.readSymbols_eq [Host] (fits : progress.Fits bound)
    (deep : bound + 2 * symbols.length ≤ limit) (deeper : limit ≤ more) :
    Pattern.readSymbols more room progress symbols =
      Pattern.readSymbols limit room progress symbols := by
  induction room generalizing bound progress symbols with
  | zero => cases symbols <;> rfl
  | succ room ih =>
      cases symbols with
      | nil => rfl
      | cons symbol rest =>
          cases here : readSymbol progress symbol rest with
          | error fault =>
              rw [Pattern.readSymbols, Pattern.readSymbols, here]
              rfl
          | ok found =>
              obtain ⟨next, after⟩ := found
              obtain ⟨fitsNext, shorter⟩ := fits.step here
              rw [List.length_cons] at deep
              have shallow : next.depth ≤ limit := fitsNext.depth.trans (by omega)
              rw [Progress.readSymbols_step here shallow,
                Progress.readSymbols_step here (shallow.trans deeper)]
              exact ih fitsNext (by omega)

theorem Progress.finish_eq (shallow : progress.top.node.depth ≤ limit) (deeper : limit ≤ more) :
    progress.finish more = progress.finish limit := by
  unfold Progress.finish
  dsimp only
  rw [decide_eq_true shallow, decide_eq_true (shallow.trans deeper)]

/-- A pattern that is short for the limit is read the same within any greater limit. -/
theorem parseWithin_eq [Host] {text : Text} (short : 2 * text.length + 1 ≤ limit)
    (deeper : limit ≤ more) : parseWithin more text = parseWithin limit text := by
  rw [parseWithin, parseWithin, readProgress, readProgress]
  cases spelled : symbols? text with
  | none => rfl
  | some symbols =>
      have fewer : symbols.length ≤ text.length := length_le_of_symbols? spelled
      dsimp only
      rw [fits_start.readSymbols_eq (by omega) deeper]
      cases read : Pattern.readSymbols limit symbols.length .start symbols with
      | error fault => rfl
      | ok last =>
          have depth := ((fits_start.readSymbols read).frames _ List.mem_cons_self).node
          exact Progress.finish_eq (by omega) deeper

/-- Symbols that are read step by step are read within any limit of twice their number. -/
theorem Reads.readSymbols_eq [Host] (reads : Reads progress symbols last)
    (fits : progress.Fits bound) (enough : symbols.length ≤ room)
    (deep : bound + 2 * symbols.length ≤ limit) :
    readSymbols limit room progress symbols = .ok last := by
  induction reads generalizing room bound with
  | done progress => cases room <;> rfl
  | @step progress next last symbol rest after here later ih =>
      cases room with
      | zero => cases enough
      | succ room =>
          obtain ⟨fitsNext, shorter⟩ := fits.step here
          rw [List.length_cons] at enough deep
          have shallow : next.depth ≤ limit := fitsNext.depth.trans (by omega)
          rw [Progress.readSymbols_step here shallow]
          exact ih fitsNext (shorter.trans (Nat.le_of_succ_le_succ enough)) (by omega)

/-- A pattern that is read step by step becomes a tree within every limit that is great enough. -/
theorem Reads.exists_limit [Host] (reads : Reads .start symbols last) {text : Text} {tree : Node}
    (spelled : symbols? text = some symbols)
    (finishes : ∀ limit, last.top.node.depth ≤ limit → last.finish limit = .ok tree) :
    ∃ enough, ∀ limit, enough ≤ limit → parseWithin limit text = .ok tree := by
  refine ⟨2 * symbols.length + 1, fun limit enough => ?_⟩
  have read : Pattern.readSymbols limit symbols.length .start symbols = .ok last :=
    reads.readSymbols_eq fits_start (Nat.le_refl _) (by omega)
  have depth := ((fits_start.readSymbols read).frames _ List.mem_cons_self).node
  rw [parseWithin, readProgress, spelled]
  dsimp only
  rw [read]
  exact finishes limit (by omega)

/-- What is read within a limit is read within a greater one. -/
theorem readSymbols_mono [Host] (deeper : limit ≤ more)
    (reads : readSymbols limit room progress symbols = .ok last) :
    readSymbols more room progress symbols = .ok last := by
  induction room generalizing progress symbols with
  | zero =>
      cases symbols with
      | nil => exact reads
      | cons symbol rest => cases reads
  | succ room ih =>
      cases symbols with
      | nil => exact reads
      | cons symbol rest =>
          rw [readSymbols] at reads
          obtain ⟨⟨next, after⟩, here, onward⟩ := exists_of_bind_ok reads
          dsimp only at onward
          split at onward
          · cases onward
          · next shallow =>
              rw [Progress.readSymbols_step here ((Nat.le_of_not_lt shallow).trans deeper)]
              exact ih onward

theorem parseWithin_mono [Host] (deeper : limit ≤ more) {text : Text} {tree : Node}
    (parsed : parseWithin limit text = .ok tree) : parseWithin more text = .ok tree := by
  obtain ⟨last, read, finishes⟩ := exists_of_bind_ok parsed
  have again : readProgress more text = .ok last := by
    unfold readProgress at read ⊢
    split at read
    · cases read
    · exact readSymbols_mono deeper read
  rw [parseWithin, again]
  show last.finish more = .ok tree
  unfold Progress.finish at finishes ⊢
  dsimp only at finishes ⊢
  split at finishes
  · next complete =>
      rw [if_pos]
      · exact finishes
      · simp only [Bool.and_eq_true, decide_eq_true_eq] at complete ⊢
        obtain ⟨⟨closed, shallow⟩, single⟩ := complete
        exact ⟨⟨closed, shallow.trans deeper⟩, single⟩
  · cases finishes

end Runs

end ItemFilter.Pattern
