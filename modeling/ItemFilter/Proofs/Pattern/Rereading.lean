/-
This file reads the joined symbols of a pattern. While a run of blanks lasts, the reader of the
joined symbols waits; after that both readers make the same moves.
-/

import ItemFilter.Proofs.Pattern.Depth
import ItemFilter.Proofs.Pattern.Simulation

namespace ItemFilter.Pattern

section Reading

variable {progress last : Progress} {rest : List Symbol}

/-- The tree of `\s`. -/
def Node.blankClass (modes : Modes) : Node :=
  .atom modes (.oneOf [.category .blank false] false)

/-- A repetition after `\s` makes it a run. -/
theorem readRepetition_blankClass (progress : Progress) {greed : Greed} {symbols : List Symbol}
    (marks : readGreed symbols = (greed, rest)) :
    readRepetition (progress.push (.blankClass progress.modes)) 1 none symbols =
      .ok (progress.push (.gap progress.modes greed), rest) := by
  rw [readRepetition, marks]
  rfl

/-- The symbols of a run are read. -/
theorem Reads.gap [Host] {greed : Greed} {symbols : List Symbol}
    (later : Reads (progress.push (.gap progress.modes greed)) rest last)
    (marks : readGreed symbols = (greed, rest)) : Reads progress (gap ++ symbols) last := by
  have plus : readSymbol (progress.push (.blankClass progress.modes)) (.plain '+') symbols =
      .ok (progress.push (.gap progress.modes greed), rest) := by
    rw [readSymbol, readPlain_plus]
    exact readRepetition_blankClass progress marks
  have blanks : readSymbol progress (.escaped 's') (.plain '+' :: symbols) =
      .ok (progress.push (.blankClass progress.modes), .plain '+' :: symbols) := rfl
  exact .step blanks (.step plus later)

end Reading

/-- The symbols that are still to be read when the reader of the joined symbols has waited for the
run. -/
def pending (run : List Node) (symbols : List Symbol) : List Symbol :=
  if run = [] then joined false symbols else gap ++ joined true symbols

/-- The last item cannot be repeated. -/
def Progress.Fixed (progress : Progress) : Prop :=
  ∀ (base : Frame) (item : Item), progress.top = base.push item → ¬item.Repeatable

/-- The reader of the joined symbols waits for the end of the run. -/
structure Waits [Host] (run : List Node) (isAfterBlank : Bool) (old new : Progress) : Prop where
  base : ∃ base : Progress, base.Twin new ∧ old = run.foldl Progress.push base
  inRun : ∀ node ∈ run, node.InRun new.modes
  last : isAfterBlank = false → (run = [] → old.LastTwin new) ∧ (run ≠ [] → old.Fixed)

section Waiting

variable {old new next last : Progress} {run : List Node} {isAfterBlank : Bool}
  {symbol : Symbol} {symbols rest used after : List Symbol}

theorem Progress.Fixed.lastTwin [Host] (fixed : old.Fixed) (other : Progress) :
    old.LastTwin other :=
  fun base item same repeatable => absurd repeatable (fixed base item same)

theorem Progress.fixed_push {node : Node} (fixed : ¬(Item.single node).Repeatable)
    (progress : Progress) : (progress.push node).Fixed := by
  intro base item same
  obtain ⟨-, rfl⟩ := Frame.push_inj same
  exact fixed

/-- Pushing changes the items of the innermost group and nothing else. -/
theorem Progress.foldl_push (run : List Node) (progress : Progress) :
    ∃ top : Frame, run.foldl Progress.push progress = { progress with top := top } ∧
      top.opening = progress.top.opening ∧ top.modes = progress.top.modes ∧
      top.branch = progress.top.branch ++ run ∧ top.branches = progress.top.branches := by
  induction run generalizing progress with
  | nil => exact ⟨progress.top, rfl, rfl, rfl, (List.append_nil _).symm, rfl⟩
  | cons node others ih =>
      obtain ⟨top, same, opening, modes, branch, branches⟩ := ih (progress.push node)
      refine ⟨top, same, opening, modes, ?_, branches⟩
      rw [branch]
      show (progress.top.push (.single node)).branch ++ others = _
      rw [Frame.branch_push, List.append_assoc]
      rfl

/-- Items that are pushed one by one correspond to one item. -/
theorem Progress.Twin.foldl_push [Host] {base : Progress} (twin : base.Twin new) {node : Node}
    (alike : Alike base.modes run [node]) :
    (run.foldl Progress.push base).Twin (new.push node) := by
  obtain ⟨top, same, opening, modes, branch, branches⟩ := Progress.foldl_push run base
  rw [same]
  have own := twin.top
  obtain ⟨here, later⟩ := List.forall₂_cons.mp own.branches
  refine twin.withTop ⟨opening ▸ own.opening, own.modes.trans modes.symm, ?_, ?_⟩ opening modes
  · rw [branches]
    exact own.steady
  rw [branch, branches, modes]
  refine List.forall₂_cons.mpr ⟨?_, later⟩
  rw [Frame.branch_push]
  exact here.append alike

theorem Node.InRun.uniform {modes : Modes} (inRun : ∀ node ∈ run, node.InRun modes) :
    Uniform modes run := by
  intro own leaf member
  rcases inRun _ member with same | same | same
  · exact (Node.atom.inj same).1
  · exact (Node.atom.inj same).1
  · cases same

namespace Waits

theorem modes [Host] (waits : Waits run isAfterBlank old new) : old.modes = new.modes := by
  obtain ⟨base, twin, rfl⟩ := waits.base
  obtain ⟨top, same, -, modes, -⟩ := Progress.foldl_push run base
  rw [same]
  exact modes.trans twin.modes.symm

/-- The readers are at the same place. -/
theorem ofTwin [Host] (twin : old.Twin new) (last : isAfterBlank = false → old.LastTwin new) :
    Waits [] isAfterBlank old new :=
  ⟨⟨old, twin, rfl⟩, nofun, fun no => ⟨fun _ => last no, fun some => absurd rfl some⟩⟩

theorem twin [Host] (waits : Waits [] isAfterBlank old new) : old.Twin new := by
  obtain ⟨base, twin, rfl⟩ := waits.base
  exact twin

/-- The run goes on. -/
theorem push [Host] (waits : Waits run isAfterBlank old new) {node : Node}
    (inRun : node.InRun new.modes) {isNowAfterBlank : Bool}
    (last : isNowAfterBlank = false → (old.push node).Fixed) :
    Waits (run ++ [node]) isNowAfterBlank (old.push node) new := by
  obtain ⟨base, twin, rfl⟩ := waits.base
  refine ⟨⟨base, twin, by rw [List.foldl_append]; rfl⟩, ?_, ?_⟩
  · exact List.forall_mem_append.mpr ⟨waits.inRun, List.forall_mem_singleton.mpr inRun⟩
  · intro no
    exact ⟨fun none => absurd none (by simp), fun _ => last no⟩

/-- The run has ended. -/
theorem catchUp [Host] (waits : Waits run isAfterBlank old new) (nonempty : run ≠ []) :
    Waits [] isAfterBlank old (new.push (.gap new.modes .greedy)) := by
  obtain ⟨base, twin, same⟩ := waits.base
  have fixed := fun no => (waits.last no).2 nonempty
  have alike : Alike new.modes run [.gap new.modes .greedy] :=
    .one (twins_of_inRun nonempty waits.inRun) (Node.InRun.uniform waits.inRun) nofun trivial
  refine .ofTwin ?_ fun no => (fixed no).lastTwin _
  rw [same]
  rw [twin.modes] at alike ⊢
  exact twin.foldl_push alike

/-- The run ends with a `\s+` that has a mark of its own. -/
theorem finish [Host] (waits : Waits run isAfterBlank old new) (greed : Greed)
    (isNowAfterBlank : Bool) :
    Waits [] isNowAfterBlank (old.push (.gap new.modes greed))
      (new.push (.gap new.modes greed)) := by
  obtain ⟨base, twin, same⟩ := waits.base
  have uniform : Uniform new.modes (run ++ [.gap new.modes greed]) :=
    (Node.InRun.uniform waits.inRun).append (uniform_singleton nofun)
  have alike : Alike new.modes (run ++ [.gap new.modes greed]) [.gap new.modes greed] :=
    .one (twins_run waits.inRun greed) uniform nofun trivial
  refine .ofTwin ?_ fun _ => (Progress.fixed_push id _).lastTwin _
  have whole : old.push (.gap new.modes greed) =
      (run ++ [Node.gap new.modes greed]).foldl Progress.push base := by
    rw [List.foldl_append, ← same]
    rfl
  rw [whole]
  rw [twin.modes] at alike ⊢
  exact twin.foldl_push alike

end Waits

theorem ReadsHarmless.of_cons [Host]
    (reads : ReadsHarmless isAfterBlank old (symbol :: rest) last) :
    ∃ used after next, rest = used ++ after ∧ readSymbol old symbol rest = .ok (next, after) ∧
      Step.Harmless ⟨old, symbol :: used, after, isAfterBlank⟩ ∧
      ReadsHarmless (symbol.isBlank || (isAfterBlank && decide (next = old))) next after last := by
  cases reads with
  | step reads harmless later => exact ⟨_, _, _, rfl, reads, harmless, later⟩

/-- A mark cannot follow what is fixed, nor the opening of a group. -/
theorem head?_ne_of_fixed [Host] {mark : Char} (marks : mark = '?' ∨ mark = '+')
    (reads : ReadsHarmless isAfterBlank old symbols last)
    (fixed : isAfterBlank = false → old.Fixed) : symbols.head? ≠ some (.plain mark) := by
  intro begins
  obtain ⟨rest, rfl⟩ := List.head?_eq_some_iff.mp begins
  obtain ⟨used, after, next, -, reads, harmless, -⟩ := reads.of_cons
  have marked : IsMark (.plain mark :: used) := by
    rcases marks with rfl | rfl
    · exact ⟨by simp, '?', by decide, rfl⟩
    · exact ⟨by simp, '+', by decide, rfl⟩
  have repeats : ∃ greed least most repeated, old.repeatLast greed least most = .ok repeated := by
    rcases marks with rfl | rfl
    · rw [readSymbol, readPlain_question, readRepetition] at reads
      obtain ⟨repeated, repeats, -⟩ := exists_of_bind_ok reads
      exact ⟨_, _, _, repeated, repeats⟩
    · rw [readSymbol, readPlain_plus, readRepetition] at reads
      obtain ⟨repeated, repeats, -⟩ := exists_of_bind_ok reads
      exact ⟨_, _, _, repeated, repeats⟩
  obtain ⟨greed, least, most, repeated, repeats⟩ := repeats
  obtain ⟨base, item, whole, repeatable, -⟩ := Progress.repeatLast_eq_ok.mp repeats
  exact fixed (harmless.single marked) base item whole repeatable

/-- What the reader of the joined symbols has still to do. -/
def Rereads [Host] (new : Progress) (symbols : List Symbol) (moved : Progress)
    (rest : List Symbol) : Prop :=
  ∀ last, Reads moved (rest ++ lineClosing) last → Reads new (symbols ++ lineClosing) last

/-- A wrapper is read as a group. -/
theorem Waits.wrap [Host] (waits : Waits [] isAfterBlank old new) {isNowAfterBlank : Bool}
    (later : ReadsHarmless isNowAfterBlank (old.openFrame .plain old.modes) after last) :
    Waits [] isNowAfterBlank (old.openFrame .plain old.modes) new.openCapture ∧
      Rereads new (joined false (wrapper ++ after)) new.openCapture (joined false after) := by
  obtain ⟨twin, lastTwin⟩ := waits.twin.wrap
  refine ⟨.ofTwin twin fun _ => lastTwin, ?_⟩
  have fixed : (old.openFrame .plain old.modes).Fixed := by
    intro base item same
    cases congrArg Frame.items same
  have unmarked : (joined false after ++ lineClosing).head? ≠ some (.plain '?') := by
    intro begins
    have first := startsAlike_joined after '?' (by decide) begins
    exact head?_ne_of_fixed (.inl rfl) later (fun _ => fixed) first
  intro finished reads
  have opens : readSymbol new (.plain '(') (joined false after ++ lineClosing) =
      .ok (new.openCapture, joined false after ++ lineClosing) := by
    rw [readSymbol, readPlain_opening, readGroup_of_ne unmarked]
  exact .step opens reads

theorem readSymbol_bracket [Host] {atom : Atom} (found : readBracket symbols = .ok (atom, rest))
    (progress : Progress) :
    readSymbol progress (.plain '[') symbols =
      .ok (progress.push (.atom progress.modes atom), rest) := by
  rw [readSymbol, readPlain_bracket, found]
  rfl

/-- A class that becomes wider is read as a class. -/
theorem Waits.widen [Host] (waits : Waits [] isAfterBlank old new)
    (reads : readSymbol old symbol (used ++ after) = .ok (next, after))
    (widens : Step.Widens ⟨old, symbol :: used, after, isAfterBlank⟩)
    (intact : Intact (symbol :: (used ++ after))) (isNowAfterBlank : Bool) :
    ∃ moved, Waits [] isNowAfterBlank next moved ∧
      Rereads new (joined false (symbol :: (used ++ after))) moved (joined false after) := by
  obtain ⟨wider, apart⟩ := widens
  dsimp only at wider apart
  unfold widensClass at wider
  split at wider
  · next body taken =>
      obtain ⟨rfl, rfl⟩ := List.cons.inj taken
      split at wider
      · next leaf other found foundOther =>
          rw [Bool.and_eq_true, decide_eq_true_eq] at wider
          obtain ⟨wider, steady, steadyNew⟩ := wider
          obtain ⟨_, all, again⟩ := readBracket_again found
          rw [List.append_nil] at all
          subst all
          obtain ⟨_, all, againOther⟩ := readBracket_again foundOther
          rw [List.append_nil] at all
          rw [← all] at againOther
          have here := readSymbol_bracket (again after) old
          obtain ⟨rfl, -⟩ := Prod.mk.inj (Except.ok.inj (here.symm.trans reads))
          obtain ⟨twin, lastTwin⟩ :=
            waits.twin.leaf (.widened wider steady steadyNew) fun _ => steadyNew
          refine ⟨_, .ofTwin twin fun _ => lastTwin, ?_⟩
          have whole : Intact ((.plain '[' :: used) ++ after) := intact
          have becomes : joined false (.plain '[' :: (used ++ after)) =
              .plain '[' :: (joined false used ++ joined false after) := by
            have parts := whole.joined_apart apart
            rw [joined_plain rfl (by decide)] at parts
            exact parts
          intro finished onward
          rw [becomes, List.cons_append, List.append_assoc]
          exact .step (readSymbol_bracket (againOther (joined false after ++ lineClosing)) new)
            onward
      · cases wider
  · cases wider

/-- What is passed over is passed over again. -/
theorem Waits.pass [Host] (waits : Waits [] isAfterBlank old new)
    (reads : readSymbol old symbol (used ++ after) = .ok (next, after))
    (passed : Step.Passed ⟨old, symbol :: used, after, isAfterBlank⟩)
    (intact : Intact (symbol :: (used ++ after))) :
    Waits [] (symbol.isBlank || (isAfterBlank && decide (next = old))) next new ∧
      Rereads new (joined false (symbol :: (used ++ after))) new (joined false after) := by
  obtain ⟨before, afterwards, apart⟩ := passed
  dsimp only at before afterwards apart
  have stays := readSymbol_of_passes before after
  obtain ⟨rfl, -⟩ := Prod.mk.inj (Except.ok.inj (stays.symm.trans reads))
  refine ⟨.ofTwin waits.twin ?_, ?_⟩
  · rw [decide_eq_true rfl, Bool.and_true]
    exact fun no => (waits.last (Bool.or_eq_false_iff.mp no).2).1 rfl
  have whole : Intact ((symbol :: used) ++ after) := intact
  have becomes := whole.joined_apart apart
  intro finished onward
  rw [← List.cons_append, becomes, List.append_assoc]
  rw [waits.modes] at afterwards
  generalize joined false (symbol :: used) = taken at afterwards
  cases taken with
  | nil => cases afterwards
  | cons first others => exact .step (readSymbol_of_passes afterwards _) onward

/-- The moves of a relaxed pattern are free, unless modes are set. -/
theorem Move.isFree_of_relaxed [Host] {move : Move} {taken : List Symbol}
    (applied : move.apply old = .ok next) (relaxed : next.Relaxed) (spelled : move.Spelled taken)
    (unset : setsModes taken = false) : move.IsFree := by
  cases move with
  | refer group =>
      obtain rfl := Except.ok.inj applied
      exact (relaxed.last rfl).1
  | condition group conditions =>
      obtain rfl := Except.ok.inj applied
      exact absurd rfl ((old.relaxed_of_below relaxed rfl rfl rfl).2 group)
  | settle setting => exact Bool.false_ne_true (unset.symm.trans spelled)
  | _ => trivial

/-- Symbols that count and that normalizing keeps lead to the same move. -/
theorem Waits.keep [Host] (waits : Waits [] isAfterBlank old new)
    (reads : readSymbol old symbol (used ++ after) = .ok (next, after))
    (harmless : Step.Harmless ⟨old, symbol :: used, after, isAfterBlank⟩)
    (shown : old.modes.hides symbol = false)
    (kept : joined false (symbol :: (used ++ after)) = symbol :: (used ++ joined false after))
    (unwrapped : symbol :: used ≠ wrapper) (relaxed : next.Relaxed) :
    ∃ moved, Waits [] (symbol.isBlank || (isAfterBlank && decide (next = old))) next moved ∧
      Rereads new (joined false (symbol :: (used ++ after))) moved (joined false after) := by
  obtain ⟨move, taken, same, applied, spelled, again⟩ := readSymbol_makes shown reads
  obtain rfl := List.append_cancel_right same
  have free := move.isFree_of_relaxed applied relaxed spelled harmless.unset
  have marked : ∀ greed least most, move = .repetition greed least most → old.LastTwin new := by
    rintro greed least most rfl
    exact (waits.last (harmless.single spelled)).1 rfl
  have other : move ≠ .wrap := by
    rintro rfl
    exact unwrapped spelled
  have steady : move = .alternate ∨ move = .close ∧ old.top.branches ≠ [] →
      EndsSteady old.top.branch := by
    rintro (rfl | ⟨rfl, several⟩)
    · exact harmless.steady (.inl spelled)
    · exact harmless.steady (.inr ⟨spelled, several⟩)
  obtain ⟨moved, moves, twin, lastTwin⟩ :=
    move.twin waits.twin applied relaxed free other steady marked
  refine ⟨moved, .ofTwin twin ?_, ?_⟩
  · intro no
    apply lastTwin
    obtain ⟨-, stays⟩ := Bool.or_eq_false_iff.mp no
    rcases Bool.and_eq_false_iff.mp stays with blank | changed
    · exact .inr ((waits.last blank).1 rfl)
    · exact .inl (of_decide_eq_false changed)
  · intro finished onward
    have verbose : new.modes.verbose = old.modes.verbose := by rw [waits.modes]
    rw [kept, List.cons_append, List.append_assoc]
    exact .step (again free new moved _ verbose moves (continues_joined after)) onward

/-- A step that is not within a run. -/
theorem Waits.step [Host] (waits : Waits [] isAfterBlank old new)
    (reads : readSymbol old symbol (used ++ after) = .ok (next, after))
    (harmless : Step.Harmless ⟨old, symbol :: used, after, isAfterBlank⟩)
    (later : ReadsHarmless (symbol.isBlank || (isAfterBlank && decide (next = old))) next after
      last)
    (relaxed : next.Relaxed) (intact : Intact (symbol :: (used ++ after)))
    (apart : startsRun (symbol :: (used ++ after)) = false) :
    ∃ moved, Waits [] (symbol.isBlank || (isAfterBlank && decide (next = old))) next moved ∧
      Rereads new (joined false (symbol :: (used ++ after))) moved (joined false after) := by
  have whole : Intact ((symbol :: used) ++ after) := intact
  by_cases wraps : symbol :: used = wrapper
  · obtain ⟨rfl, rfl⟩ := List.cons.inj wraps
    have opens : readSymbol old (.plain '(') ([.plain '?', .plain ':'] ++ after) =
        .ok (old.openFrame .plain old.modes, after) :=
      readPlain_opening old _
    obtain ⟨rfl, -⟩ := Prod.mk.inj (Except.ok.inj (opens.symm.trans reads))
    exact ⟨_, waits.wrap later⟩
  rcases (harmless.kept.resolve_left wraps).resolve_left (ne_true_of_eq_false apart) with
    widens | passed | kept
  · exact waits.widen reads widens intact _
  · exact ⟨new, waits.pass reads passed intact⟩
  · cases shown : old.modes.hides symbol with
    | true => exact ⟨new, waits.pass reads (harmless.visible shown) intact⟩
    | false =>
        have kept := whole.joined_append whole.plain_left kept
        exact waits.keep reads harmless shown kept wraps relaxed

theorem Rereads.trans [Host] {middle moved : Progress} (first : Rereads new symbols middle rest)
    (second : Rereads middle rest moved after) : Rereads new symbols moved after :=
  fun last onward => first last (second last onward)

/-- Where no run begins, the reader of the joined symbols has caught up. -/
theorem Waits.settle [Host] (waits : Waits run isAfterBlank old new)
    (reads : ReadsHarmless isAfterBlank old symbols last) (apart : startsRun symbols = false) :
    ∃ moved, Waits [] isAfterBlank old moved ∧
      Rereads new (pending run symbols) moved (joined false symbols) := by
  by_cases none : run = []
  · subst none
    exact ⟨new, waits, fun _ onward => onward⟩
  · refine ⟨_, waits.catchUp none, ?_⟩
    have unmarked : ∀ mark, mark = '?' ∨ mark = '+' →
        (joined false symbols ++ lineClosing).head? ≠ some (.plain mark) := by
      intro mark marks begins
      have other : mark ≠ ')' := by rcases marks with rfl | rfl <;> decide
      exact head?_ne_of_fixed marks reads (fun no => (waits.last no).2 none)
        (startsAlike_joined symbols mark other begins)
    have greedy : readGreed (joined false symbols ++ lineClosing) =
        (.greedy, joined false symbols ++ lineClosing) := by
      generalize joined false symbols ++ lineClosing = stream at unmarked
      unfold readGreed
      split
      · exact absurd rfl (unmarked '?' (.inl rfl))
      · exact absurd rfl (unmarked '+' (.inr rfl))
      · rfl
    intro finished onward
    rw [pending, if_neg none, joined_of_not_startsRun apart, List.append_assoc]
    exact onward.gap greedy

/-- After one step or two the readers correspond again. -/
def Advances [Host] (run : List Node) (symbols : List Symbol) (new last : Progress) : Prop :=
  ∃ (isAfterBlank : Bool) (next moved : Progress) (others : List Node) (taken rest : List Symbol),
    symbols = taken ++ rest ∧ taken ≠ [] ∧ ReadsHarmless isAfterBlank next rest last ∧
      Waits others isAfterBlank next moved ∧
      Rereads new (pending run symbols) moved (pending others rest)

/-- The symbols begin with a part of a run. -/
def JoinsRun (symbols rest : List Symbol) : Prop :=
  ∀ inRun, joined inRun symbols = if inRun then joined true rest else gap ++ joined true rest

theorem JoinsRun.pending_eq (joins : JoinsRun symbols rest) (run : List Node) :
    pending run symbols = gap ++ joined true rest := by
  rw [pending, joins, joins]
  split <;> rfl

/-- The run goes on, and the reader of the joined symbols waits. -/
theorem Waits.goesOn [Host] (waits : Waits run isAfterBlank old new) {node : Node}
    (inRun : node.InRun new.modes) {isNowAfterBlank : Bool}
    (later : ReadsHarmless isNowAfterBlank (old.push node) rest last)
    (fixed : isNowAfterBlank = false → (old.push node).Fixed) {taken : List Symbol}
    (some : taken ≠ []) (joins : JoinsRun (taken ++ rest) rest) :
    Advances run (taken ++ rest) new last := by
  refine ⟨isNowAfterBlank, old.push node, new, run ++ [node], taken, rest, rfl, some, later,
    waits.push inRun fixed, ?_⟩
  have still : pending (run ++ [node]) rest = gap ++ joined true rest := if_neg (by simp)
  rw [joins.pending_eq, still]
  exact fun _ onward => onward

/-- A blank that is written out belongs to the run. -/
theorem Waits.advances_blank [Host] (waits : Waits run isAfterBlank old new)
    (blank : symbol.isBlank = true)
    (reads : ReadsHarmless isAfterBlank old (symbol :: rest) last) :
    Advances run (symbol :: rest) new last := by
  obtain ⟨used, after, next, whole, here, harmless, later⟩ := reads.of_cons
  obtain ⟨character, rfl, inRun, plain⟩ : ∃ character, symbol = .plain character ∧
      (Node.blank new.modes character.toNat).InRun new.modes ∧ isSign character = false := by
    rcases Symbol.eq_of_isBlank blank with rfl | rfl
    · exact ⟨' ', rfl, .inl rfl, by decide⟩
    · exact ⟨'\t', rfl, .inr (.inl rfl), by decide⟩
  have joins : ∀ inRun rest, joined inRun (.plain character :: rest) =
      if inRun then joined true rest else gap ++ joined true rest := by
    intro inRun rest
    rcases Symbol.eq_of_isBlank blank with same | same <;> rw [same] <;> rfl
  -- A blank that does not count would count afterwards.
  have shown : old.modes.hides (.plain character) = false := by
    by_contra hidden
    have afterwards := (harmless.visible (Bool.not_eq_false _ ▸ hidden)).afterwards
    rw [joins false used] at afterwards
    cases afterwards
  have pushes : readSymbol old (.plain character) rest =
      .ok (old.push (.blank old.modes character.toNat), rest) :=
    readPlain_of_not_isSign plain shown rest
  obtain ⟨rfl, rfl⟩ := Prod.mk.inj (Except.ok.inj (pushes.symm.trans here))
  rw [waits.modes, blank] at later
  exact waits.goesOn inRun later nofun (List.cons_ne_nil _ []) fun inRun => joins inRun rest

/-- A mark after `\s+` ends the run. -/
theorem Waits.ends [Host] (waits : Waits run isAfterBlank old new) {greed : Greed} {mark : Char}
    (marks : ∀ symbols, readGreed (.plain mark :: symbols) = (greed, symbols))
    (visible : (Symbol.plain mark).isBlank = false) (other : mark ≠ '(') {isNowAfterBlank : Bool}
    (later : ReadsHarmless isNowAfterBlank (old.push (.gap new.modes greed)) rest last) :
    Advances run (.escaped 's' :: .plain '+' :: .plain mark :: rest) new last := by
  refine ⟨isNowAfterBlank, _, new.push (.gap new.modes greed), [],
    [.escaped 's', .plain '+', .plain mark], rest, rfl, List.cons_ne_nil _ _, later,
    waits.finish greed _, ?_⟩
  intro finished onward
  have joins : JoinsRun (.escaped 's' :: .plain '+' :: .plain mark :: rest) (.plain mark :: rest) :=
    fun _ => rfl
  rw [joins.pending_eq, joined_plain visible other, List.append_assoc]
  exact onward.gap (marks _)

/-- So does a `\s+`, which may end it with a mark of its own. -/
theorem Waits.advances_gap [Host] (waits : Waits run isAfterBlank old new)
    (reads : ReadsHarmless isAfterBlank old (.escaped 's' :: .plain '+' :: rest) last) :
    Advances run (.escaped 's' :: .plain '+' :: rest) new last := by
  obtain ⟨_, _, next, -, here, -, later⟩ := reads.of_cons
  obtain ⟨rfl, rfl⟩ := Prod.mk.inj (Except.ok.inj here)
  obtain ⟨_, after, repeated, -, here, -, onward⟩ := later.of_cons
  have modes := waits.modes
  have repeats : ∀ {greed tail}, readGreed rest = (greed, tail) →
      repeated = old.push (.gap new.modes greed) ∧ after = tail := by
    intro greed tail marks
    have reads : readSymbol (old.push (.blankClass old.modes)) (.plain '+') rest =
        .ok (old.push (.gap old.modes greed), tail) := by
      rw [readSymbol, readPlain_plus]
      exact readRepetition_blankClass old marks
    obtain ⟨rfl, rfl⟩ := Prod.mk.inj (Except.ok.inj (reads.symm.trans here))
    rw [modes]
    exact ⟨rfl, rfl⟩
  by_cases question : rest.head? = some (.plain '?')
  · obtain ⟨tail, rfl⟩ := List.head?_eq_some_iff.mp question
    obtain ⟨rfl, rfl⟩ := repeats rfl
    exact waits.ends (fun _ => rfl) rfl (by decide) onward
  by_cases plus : rest.head? = some (.plain '+')
  · obtain ⟨tail, rfl⟩ := List.head?_eq_some_iff.mp plus
    obtain ⟨rfl, rfl⟩ := repeats rfl
    exact waits.ends (fun _ => rfl) rfl (by decide) onward
  · have greedy : readGreed rest = (.greedy, rest) := by
      unfold readGreed
      split
      · exact absurd rfl question
      · exact absurd rfl plus
      · rfl
    have joins : JoinsRun (gap ++ rest) rest := fun _ => rfl
    have some : gap ≠ [] := List.cons_ne_nil _ _
    obtain ⟨rfl, rfl⟩ := repeats greedy
    exact waits.goesOn (.inr (.inr rfl)) onward (fun _ => Progress.fixed_push id old) some joins

theorem Waits.advances [Host] (waits : Waits run isAfterBlank old new)
    (reads : ReadsHarmless isAfterBlank old (symbol :: rest) last) (relaxed : last.Relaxed)
    (intact : Intact (symbol :: rest)) :
    Advances run (symbol :: rest) new last := by
  cases starts : startsRun (symbol :: rest) with
  | true =>
      unfold startsRun at starts
      split at starts
      · next same =>
          obtain ⟨rfl, rfl⟩ := List.cons.inj same
          exact waits.advances_gap reads
      · next same =>
          obtain ⟨rfl, rfl⟩ := List.cons.inj same
          exact waits.advances_blank starts reads
      · next same => cases same
  | false =>
      obtain ⟨used, after, next, rfl, here, harmless, later⟩ := reads.of_cons
      obtain ⟨settled, settles, catches⟩ := waits.settle reads starts
      obtain ⟨moved, again, rereads⟩ :=
        settles.step here harmless later (later.relaxed relaxed) intact starts
      exact ⟨_, next, moved, [], symbol :: used, after, rfl, List.cons_ne_nil _ _, later, again,
        catches.trans rereads⟩

/-- The joined symbols are read, and the progress corresponds at the end. -/
theorem ReadsHarmless.reread [Host] {length : Nat} (short : symbols.length ≤ length)
    (reads : ReadsHarmless isAfterBlank old symbols last) (relaxed : last.Relaxed)
    (intact : Intact symbols) (waits : Waits run isAfterBlank old new) :
    ∃ newLast, last.Twin newLast ∧ Rereads new (pending run symbols) newLast [] := by
  induction length generalizing isAfterBlank old symbols run new with
  | zero =>
      obtain rfl := List.eq_nil_of_length_eq_zero (Nat.le_zero.mp short)
      cases reads with
      | done =>
          obtain ⟨moved, settles, catches⟩ := waits.settle (.done _ _) rfl
          exact ⟨moved, settles.twin, catches⟩
  | succ length ih =>
      cases symbols with
      | nil => exact ih (Nat.zero_le _) reads intact waits
      | cons symbol rest =>
          obtain ⟨_, next, moved, others, taken, after, whole, some, later, again, rereads⟩ :=
            waits.advances reads relaxed intact
          rw [whole] at short intact
          have shorter : after.length ≤ length := by
            have := List.length_pos_of_ne_nil some
            rw [List.length_append] at short
            omega
          obtain ⟨newLast, twin, rereadsLater⟩ := ih shorter later intact.of_append again
          exact ⟨newLast, twin, rereads.trans rereadsLater⟩

end Waiting

end ItemFilter.Pattern
