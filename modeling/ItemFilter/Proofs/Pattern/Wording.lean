/-
This file reads wordings: patterns of characters that stand for themselves, bars and groups. A
wording that is not nested too deep becomes a plain tree whose language is that of the wording, and
a wording that is nested too deep is refused.
-/

import Mathlib.Algebra.BigOperators.Group.List.Basic
import ItemFilter.Pattern.Reader
import ItemFilter.Proofs.Pattern.Language

namespace ItemFilter.Pattern

/-- The characters with a meaning of their own in patterns. -/
def metacharacters : Text :=
  "\\|)[.^$(?*+\x7b".toList

/-- A pattern of characters, bars and groups. -/
inductive Wording where
  | done
  | letter (character : Char) (rest : Wording)
  | bar (rest : Wording)
  | group (inner rest : Wording)

namespace Wording

def text : Wording → Text
  | .done => []
  | .letter character rest => character :: rest.text
  | .bar rest => '|' :: rest.text
  | .group inner rest => '(' :: (inner.text ++ ')' :: rest.text)

/-- Every character stands for itself. -/
def Literal : Wording → Prop
  | .done => True
  | .letter character rest => character ∉ metacharacters ∧ rest.Literal
  | .bar rest => rest.Literal
  | .group inner rest => inner.Literal ∧ rest.Literal

/-- The number of groups around each other. -/
def depth : Wording → Nat
  | .done => 0
  | .letter _ rest => rest.depth
  | .bar rest => rest.depth
  | .group inner rest => max (inner.depth + 1) rest.depth

/-- The texts of the wording, when its first branch has already begun. -/
def languageFrom (begun : Language Char) : Wording → Language Char
  | .done => begun
  | .letter character rest => rest.languageFrom (begun * {[character]})
  | .bar rest => begun + rest.languageFrom 1
  | .group inner rest => rest.languageFrom (begun * inner.languageFrom 1)

def language (wording : Wording) : Language Char :=
  wording.languageFrom 1

def symbols (wording : Wording) : List Symbol :=
  wording.text.map .plain

end Wording

/-- All parts of the frame are plain and not nested deeper than the bound. -/
def Frame.Within (bound : Nat) (frame : Frame) : Prop :=
  ∀ branch ∈ frame.branch :: frame.branches, ∀ node ∈ branch, node.Within bound

/-- The texts of the branches that are finished. -/
def Frame.finished (frame : Frame) : Language Char :=
  branchesLanguage frame.branches

/-- The texts of the branch that has begun. -/
def Frame.begun (frame : Frame) : Language Char :=
  sequenceLanguage frame.branch

theorem Frame.branch_push (frame : Frame) (node : Node) :
    (frame.push (.single node)).branch = frame.branch ++ [node] := by
  simp [Frame.branch, Frame.push, Item.nodes]

theorem Frame.begun_push (frame : Frame) (node : Node) :
    (frame.push (.single node)).begun = frame.begun * node.language := by
  rw [begun, branch_push, sequenceLanguage_append, sequenceLanguage_singleton, begun]

theorem Frame.Within.push {bound : Nat} {frame : Frame} (within : frame.Within bound) {node : Node}
    (fits : node.Within bound) : (frame.push (.single node)).Within bound := by
  obtain ⟨current, finished⟩ := List.forall_mem_cons.mp within
  refine List.forall_mem_cons.mpr ⟨?_, finished⟩
  rw [branch_push]
  exact List.forall_mem_append.mpr ⟨current, List.forall_mem_singleton.mpr fits⟩

theorem Frame.Within.nodes {bound : Nat} {frame : Frame} (within : frame.Within bound)
    (modes : frame.modes = .none) :
    (∀ node ∈ frame.nodes, node.Within (bound + 1)) ∧
      sequenceLanguage frame.nodes = frame.finished + frame.begun := by
  have inOrder : ∀ branch ∈ (frame.branch :: frame.branches).reverse, ∀ node ∈ branch,
      node.Within bound := by
    intro branch member
    exact within branch (List.mem_reverse.mp member)
  have several : (frame.branch :: frame.branches).reverse ≠ [] := by simp
  rw [Frame.nodes, modes]
  refine ⟨Alternation.within_items inOrder, ?_⟩
  rw [Alternation.language_items several fun branch member node inside =>
    (inOrder branch member node inside).plain]
  rw [branchesLanguage, List.map_reverse, List.sum_reverse, List.map_cons, List.sum_cons, add_comm]
  rfl

/-- Nothing but wordings has been read since the innermost group was opened. -/
structure Progress.Calm (bound : Nat) (progress : Progress) : Prop where
  modes : progress.top.modes = .none
  opening : progress.top.opening = .plain ∨ ∃ group, progress.top.opening = .capture group
  within : progress.top.Within bound
  conditions : progress.conditions = []
  isLoose : progress.isLoose = false
  isFar : progress.isFar = false

/-- The progress after a wording that was read in one group. -/
structure Progress.Follows (bound : Nat) (wording : Wording) (progress next : Progress) : Prop where
  calm : next.Calm bound
  opening : next.top.opening = progress.top.opening
  below : next.below = progress.below
  language : next.top.finished + next.top.begun =
    progress.top.finished + wording.languageFrom progress.top.begun

namespace Progress

variable {bound limit room : Nat} {progress next : Progress} {symbol : Symbol}
  {rest after : List Symbol}

theorem depth_congr (opening : next.top.opening = progress.top.opening)
    (below : next.below = progress.below) : next.depth = progress.depth := by
  rw [depth, depth, List.foldr_cons, List.foldr_cons, opening, below]

theorem readSymbols_step [Host] (reads : readSymbol progress symbol rest = .ok (next, after))
    (shallow : next.depth ≤ limit) :
    readSymbols limit (room + 1) progress (symbol :: rest) = readSymbols limit room next after := by
  rw [readSymbols, reads]
  exact if_neg (Nat.not_lt.mpr shallow)

theorem Calm.push (calm : progress.Calm bound) {node : Node} (fits : node.Within bound) :
    (progress.push node).Calm bound :=
  ⟨calm.modes, calm.opening, calm.within.push fits, calm.conditions, calm.isLoose, calm.isFar⟩

theorem Calm.alternate (calm : progress.Calm bound) :
    ∃ next, progress.alternate = .ok next ∧ next.Calm bound ∧
      next.top.opening = progress.top.opening ∧ next.below = progress.below ∧
      next.top.finished = progress.top.begun + progress.top.finished ∧ next.top.begun = 1 := by
  have opening := calm.opening
  refine ⟨{ progress with
    top := { progress.top with
      branches := progress.top.branch :: progress.top.branches, items := [] } }, ?_, ?_, rfl, rfl,
    rfl, rfl⟩
  · rw [Progress.alternate]
    rcases opening with plain | ⟨group, capture⟩
    · rw [plain]
    · rw [capture]
  · refine ⟨calm.modes, opening, ?_, calm.conditions, calm.isLoose, calm.isFar⟩
    exact List.forall_mem_cons.mpr ⟨nofun, calm.within⟩

theorem Calm.openCapture (calm : progress.Calm bound) (inner : Nat) :
    progress.openCapture.Calm inner ∧ progress.openCapture.top.finished = 0 ∧
      progress.openCapture.top.begun = 1 ∧ progress.openCapture.depth = progress.depth + 2 := by
  refine ⟨⟨calm.modes, .inr ⟨_, rfl⟩, ?_, calm.conditions, calm.isLoose, calm.isFar⟩, rfl, rfl, ?_⟩
  · exact List.forall_mem_cons.mpr ⟨nofun, nofun⟩
  · exact Nat.add_comm 2 progress.depth

/-- The group becomes one item of the group around it. -/
theorem Calm.close [Host] {inside : Progress} {inner group : Nat} (calm : progress.Calm bound)
    (calmInside : inside.Calm inner) (fits : inner + 2 ≤ bound)
    (opening : inside.top.opening = .capture group)
    (below : inside.below = progress.top :: progress.below) :
    ∃ next, inside.close = .ok next ∧ next.Calm bound ∧
      next.top.opening = progress.top.opening ∧ next.below = progress.below ∧
      next.top.finished = progress.top.finished ∧
      next.top.begun =
        progress.top.begun * (inside.top.finished + inside.top.begun) := by
  obtain ⟨within, language⟩ := calmInside.within.nodes calmInside.modes
  have body := within_sequenceOf within
  have item : (Node.capture group inside.top.node).Within bound :=
    ⟨body.plain, (Nat.succ_le_succ body.depth).trans fits⟩
  let outside : Progress := { inside with top := progress.top, below := progress.below }
  refine ⟨{ outside.push (.capture group inside.top.node) with
    closed := (group, inside.top.node.width inside.closed) :: inside.closed },
    ?_, ?_, rfl, rfl, rfl, ?_⟩
  · rw [Progress.close, below, opening]
  · exact ⟨calm.modes, calm.opening, calm.within.push item, calmInside.conditions,
      calmInside.isLoose, calmInside.isFar⟩
  · rw [← language, ← language_sequenceOf]
    exact progress.top.begun_push (.capture group inside.top.node)

end Progress

section Steps

variable {bound limit room : Nat} {progress : Progress} {rest : List Symbol}

end Steps

section Lines

/-- The pattern for a whole line with the wording. -/
def Wording.line (wording : Wording) : Text :=
  "^(?:".toList ++ wording.text ++ ")$".toList

/-- The progress when the wording of a line begins. -/
def Progress.inLine : Progress :=
  (Progress.start.push (.anchor .none .lineStart)).openFrame .plain .none

/-- The tree of a line with these items. -/
def lineTree (nodes : List Node) : Node :=
  .sequenceOf (.anchor .none .lineStart :: (nodes ++ [.anchor .none .lineEnd]))

/-- The progress when a line has been read whose group holds what the top frame holds now. -/
def Progress.endLine (progress : Progress) : Progress :=
  let start := (Progress.start.push (.anchor .none .lineStart)).top
  { progress with top := start.push (.plain progress.top.nodes), below := [] }.push
    (.anchor .none .lineEnd)

theorem Progress.node_endLine (progress : Progress) :
    progress.endLine.top.node = lineTree progress.top.nodes := by
  simp [endLine, Frame.node, Frame.nodes, Frame.branch, Frame.push, Progress.push, Progress.start,
    Frame.start, Item.nodes, Alternation.items, lineTree]

/-- The group of the line is closed. -/
theorem readSymbol_lineGroup [Host] {progress : Progress}
    (opening : progress.top.opening = Progress.inLine.top.opening)
    (below : progress.below = Progress.inLine.below) (rest : List Symbol) :
    readSymbol progress (.plain ')') rest =
      .ok ({ progress with
        top := (Progress.start.push (.anchor .none .lineStart)).top.push
          (.plain progress.top.nodes),
        below := [] }, rest) := by
  rw [readSymbol, readPlain, Progress.close, below, opening]
  rfl

theorem finish_endLine {limit : Nat} {progress : Progress} (conditions : progress.conditions = [])
    (isLoose : progress.isLoose = false) (isFar : progress.isFar = false)
    (depth : (lineTree progress.top.nodes).depth ≤ limit) :
    progress.endLine.finish limit = .ok (lineTree progress.top.nodes) := by
  have conditions : progress.endLine.conditions = [] := conditions
  have isLoose : progress.endLine.isLoose = false := isLoose
  have isFar : progress.endLine.isFar = false := isFar
  have below : progress.endLine.below = [] := rfl
  have modes : progress.endLine.modes.template = false := rfl
  simp only [Progress.finish, progress.node_endLine, conditions, isLoose, isFar, below, depth,
    modes, List.isEmpty_nil, List.all_nil, Bool.not_false, Bool.and_self, Bool.false_and,
    decide_true, if_true, Bool.false_eq_true, if_false]

end Lines

end ItemFilter.Pattern
