/-
This file compares a capture's pattern with the matcher that its text is compiled to. The text is
normalized without being read, which can change what it means; where each step of the reader
survives normalizing, the matcher accepts every value that the pattern matches in full.
-/

import ItemFilter.Proofs.Pattern.Rereading

namespace ItemFilter

namespace Pattern

section Matching

/-- The pattern matches from the start of the text to its end. -/
def Node.matchesWhole (tree : Node) (text : Text) : Bool :=
  let rest : Rest := fun place =>
    if place.ahead.isEmpty then .found place else .failed place.marks
  (tree.part rest (.start text)).isFound

/-- The search for the end of the text. -/
def Search.atEnd : Search := fun place =>
  if place.ahead.isEmpty then some place else none

theorem Outcome.Shows.isFound_eq {outcome : Outcome} {shown : Option Place}
    (shows : outcome.Shows shown) : outcome.isFound = shown.isSome := by
  cases shows <;> rfl

theorem Node.Unreferenced.matchesWhole_eq {tree : Node} (unreferenced : tree.Unreferenced)
    (text : Text) : tree.matchesWhole text = (tree.search .atEnd (.start text)).isSome := by
  have rests : Rest.Follows (fun place =>
      if place.ahead.isEmpty then .found place else .failed place.marks) Search.atEnd := by
    intro place counted
    have same : Search.atEnd place.bare =
        if place.ahead.isEmpty then some place.bare else none := rfl
    rw [same]
    dsimp only
    split
    · exact .found counted
    · exact .failed place.marks
  exact (unreferenced.follows rests (.start text) rfl).isFound_eq

theorem Node.Unreferenced.accepts_eq {tree : Node} (unreferenced : tree.Unreferenced)
    (text : Text) : tree.accepts text = (tree.search some (.start text)).isSome :=
  (unreferenced.follows Rest.follows_found (.start text) rfl).isFound_eq

/-- A line matches what its items match in full. -/
theorem isSome_search_lineTree {nodes : List Node} {text : Text}
    (found : (searchAll nodes .atEnd (.start text)).isSome = true) :
    ((lineTree nodes).search some (.start text)).isSome = true := by
  -- The end of the text is the end of a line.
  have ends : Search.Le .atEnd ((Node.anchor .none .lineEnd).search some) := by
    intro place counted found
    rw [Search.atEnd] at found
    split at found
    · next nothing =>
        have holds : Anchor.holds .none place .lineEnd = true := by
          rw [Anchor.holds, nothing]
          rfl
        rw [Node.search]
        dsimp only
        rw [if_pos holds]
        rfl
    · cases found
  have whole : (lineTree nodes).search some (.start text) =
      searchAll nodes ((Node.anchor .none .lineEnd).search some) (.start text) := by
    rw [lineTree, search_sequenceOf]
    exact congrFun (searchAll_append nodes [.anchor .none .lineEnd] some) (.start text)
  rw [whole]
  exact searchAll_le nodes ends (.start text) rfl found

end Matching

section Lines

variable {symbols : List Symbol}

/-- The pattern for a whole argument is read as a group between two anchors. -/
theorem exists_reads_anchored [Host] {last : Progress} (plain : .plain '\\' ∉ symbols)
    (reads : Reads .inLine (symbols ++ lineClosing) last) :
    ∃ whole, symbols? (Matcher.anchored (spelling symbols)) = some whole ∧
      Reads .start whole last := by
  let opening : List Symbol := [.plain '^', .plain '(', .plain '?', .plain ':']
  have text : Matcher.anchored (spelling symbols) =
      spelling (opening ++ (symbols ++ lineClosing)) := by
    rw [spelling_append, spelling_append, Matcher.anchored, List.append_assoc]
    rfl
  have unescaped : .plain '\\' ∉ opening ++ (symbols ++ lineClosing) := by
    simp [opening, lineClosing, plain]
  have begins : ∀ rest, readSymbol .start (.plain '^') rest =
      .ok (Progress.start.push (.anchor .none .lineStart), rest) := fun _ => rfl
  have opens : ∀ rest, readSymbol (Progress.start.push (.anchor .none .lineStart)) (.plain '(')
      (.plain '?' :: .plain ':' :: rest) = .ok (.inLine, rest) := fun _ => rfl
  exact ⟨_, text ▸ symbols?_spelling unescaped, .step (begins _) (.step (opens _) reads)⟩

/-- Before anything is read, the readers correspond. -/
theorem waits_start [Host] : Waits [] false .start .inLine := by
  refine .ofTwin ⟨?_, rfl, rfl, rfl, rfl⟩ fun _ => Frame.lastTwin_of_nil rfl _
  exact .whole (.start .whole .none) rfl rfl

/-- When all groups are closed, the rest of the line can be read. -/
theorem Progress.Twin.reads_endLine [Host] {old new : Progress} (twin : old.Twin new)
    (closed : old.below = []) : Reads new lineClosing new.endLine := by
  obtain ⟨-, opening, below⟩ := twin.outermost closed
  exact .step (readSymbol_lineGroup opening below [.plain '$']) (.step rfl (.done _))

/-- The line becomes a tree that matches no less. -/
theorem Progress.Twin.accepts_lineTree [Host] {old new : Progress} (twin : old.Twin new)
    (closed : old.below = []) (unreferenced : old.top.node.Unreferenced) {value : Text}
    (found : old.top.node.matchesWhole value = true) :
    (lineTree new.top.nodes).accepts value = true := by
  obtain ⟨modes, -, -⟩ := twin.outermost closed
  have own := (List.forall₂_cons.mp twin.top.branches).1.uniform
  have cased : old.top.modes.ignoreCase = false := congrArg Modes.ignoreCase modes
  obtain ⟨twins, -, each⟩ := twin.top.nodes fun _ => own.endsSteady cased
  have newUnreferenced : (lineTree new.top.nodes).Unreferenced := by
    apply holds_sequenceOf trivial fun _ _ left right => ⟨left, right⟩
    refine List.forall_mem_cons.mpr ⟨trivial, List.forall_mem_append.mpr ⟨each, ?_⟩⟩
    exact List.forall_mem_singleton.mpr trivial
  rw [unreferenced.matchesWhole_eq, Frame.node, search_sequenceOf] at found
  rw [newUnreferenced.accepts_eq]
  apply isSome_search_lineTree
  exact twins.loose (Search.Le.refl .atEnd) (.start value) rfl found

end Lines

/-- Normalizing leaves the pattern in order: it breaks no escape, each step of the reader survives
it, blanks stand only where more may match, and more room for nested groups would not change how the
normalized pattern is read, as it cannot if the pattern is short. -/
structure Harmless [Host] (text : Text) (tree : Node) : Prop where
  escapes : ∀ escape ∈ brokenEscapes, Text.includes escape text = false
  steps : ∀ step ∈ steps text, step.Harmless
  relaxed : tree.Relaxed
  shallow : ∀ limit, Host.patternDepth ≤ limit →
    parseWithin limit (Matcher.anchored (Matcher.normalize text)) =
      parse (Matcher.anchored (Matcher.normalize text))

/-- The pattern for a whole argument can be read, and accepts what the text matches in full. -/
theorem exists_parse_anchored [Host] {text : Text} {tree : Node} (parsed : parse text = .ok tree)
    (doubled : Text.includes "\\\\".toList text = false)
    (boundary : Text.includes "\\b".toList text = false) (unreferenced : tree.Unreferenced)
    (harmless : Harmless text tree) :
    ∃ newTree, parse (Matcher.anchored (Matcher.normalize text)) = .ok newTree ∧
      ∀ value, tree.matchesWhole value = true → newTree.accepts value = true := by
  obtain ⟨last, read, finishes⟩ := exists_of_bind_ok parsed
  obtain ⟨relaxed, closed, rfl⟩ :=
    Progress.relaxed_of_finish finishes unreferenced harmless.relaxed
  have each := harmless.steps
  cases found : symbols? text with
  | none =>
      rw [readProgress, found] at read
      cases read
  | some symbols =>
      rw [readProgress, found] at read
      rw [steps, found] at each
      obtain ⟨rfl, plain⟩ := spelling_of_symbols? found
      have intact : Intact symbols :=
        ⟨plain, List.forall_mem_cons.mpr ⟨doubled, List.forall_mem_cons.mpr
          ⟨boundary, harmless.escapes⟩⟩⟩
      have reads := readsHarmless_of_readSymbols read each
      obtain ⟨newLast, twin, rereads⟩ := reads.reread (Nat.le_refl _) relaxed intact waits_start
      obtain ⟨whole, spelled, line⟩ := exists_reads_anchored (intact.plain_joined false)
        (rereads _ (twin.reads_endLine closed))
      obtain ⟨enough, within⟩ := line.exists_limit spelled fun limit depth =>
        finish_endLine twin.conditions twin.isLoose twin.isFar (newLast.node_endLine ▸ depth)
      refine ⟨lineTree newLast.top.nodes, ?_, fun value found =>
        twin.accepts_lineTree closed unreferenced found⟩
      rw [← harmless.shallow _ (Nat.le_max_left Host.patternDepth enough),
        intact.normalize_spelling]
      exact within _ (Nat.le_max_right Host.patternDepth enough)

end Pattern

namespace Matcher

/-- A capture accepts what its text matches in full, if normalizing leaves the pattern in order. -/
theorem compile_accepts_of_matchesWhole [Host] {text : Text} {tree : Pattern.Node}
    (parsed : Pattern.parse text = .ok tree) (unquoted : '"' ∉ text)
    (doubled : Text.includes "\\\\".toList text = false)
    (boundary : Text.includes "\\b".toList text = false)
    (unequal : text.strip ≠ "==|=".toList ∧ text.strip ≠ "=|==".toList)
    (unreferenced : tree.Unreferenced) (harmless : Pattern.Harmless text tree) {value : Text}
    (found : tree.matchesWhole value = true) :
    ∃ matcher, compile text = .ok matcher ∧ matcher.accepts value = true := by
  obtain ⟨newTree, newParsed, accepts⟩ :=
    Pattern.exists_parse_anchored parsed doubled boundary unreferenced harmless
  refine ⟨.pattern (anchored (normalize text)) newTree, ?_, accepts value found⟩
  have unmentioned : ¬text.contains '"' = true := by
    rwa [List.contains_iff_mem]
  rw [compile, if_neg unmentioned, if_neg (not_or.mpr unequal)]
  dsimp only
  rw [newParsed]

theorem compile_accepts_of_matchesWhole_blanks :
    ∃ tree matcher, Pattern.parse "(?:a \\s+|[b c])*d".toList = .ok tree ∧ tree.Unreferenced ∧
      Pattern.Harmless "(?:a \\s+|[b c])*d".toList tree ∧
      tree.matchesWhole "a  b cd".toList = true ∧
      compile "(?:a \\s+|[b c])*d".toList = .ok matcher ∧
      matcher.accepts "a  b cd".toList = true := by
  let letter (code : Nat) : Pattern.Node := .atom .none (.literal code false)
  let letters : Pattern.Node := .atom .none (.oneOf [.single 98, .single 32, .single 99] false)
  let tree : Pattern.Node := .sequence (.repeated .greedy 0 none (.choice (.sequence (letter 97)
    (.sequence (letter 32) (.gap .none .greedy))) letters)) (letter 100)
  have parsed : Pattern.parse "(?:a \\s+|[b c])*d".toList = .ok tree := by decide
  have unreferenced : tree.Unreferenced := by
    simp [tree, letters, letter, Pattern.Node.Unreferenced, Pattern.Node.gap]
  have relaxed : tree.Relaxed := by
    simp [tree, letters, letter, Pattern.Node.Relaxed, Pattern.Node.gap]
  have shallow : ∀ limit, Host.patternDepth ≤ limit →
      Pattern.parseWithin limit (anchored (normalize "(?:a \\s+|[b c])*d".toList)) =
        Pattern.parse (anchored (normalize "(?:a \\s+|[b c])*d".toList)) := by
    exact fun limit deeper => Pattern.parseWithin_eq (by decide +kernel) deeper
  have harmless : Pattern.Harmless "(?:a \\s+|[b c])*d".toList tree :=
    ⟨by decide, by decide +kernel, relaxed, shallow⟩
  have found : tree.matchesWhole "a  b cd".toList = true := by decide
  obtain ⟨matcher, compiles, accepts⟩ := compile_accepts_of_matchesWhole parsed (by decide)
    (by decide) (by decide) (by decide) unreferenced harmless found
  exact ⟨tree, matcher, parsed, unreferenced, harmless, found, compiles, accepts⟩

/-- An escaped blank becomes a backslash before the letter s. -/
theorem compile_rejects_escaped_blank :
    ∃ tree matcher, Pattern.parse "\\ ".toList = .ok tree ∧ '"' ∉ "\\ ".toList ∧
      Text.includes "\\\\".toList "\\ ".toList = false ∧
      Text.includes "\\b".toList "\\ ".toList = false ∧
      Text.strip "\\ ".toList ≠ "==|=".toList ∧ Text.strip "\\ ".toList ≠ "=|==".toList ∧
      tree.Unreferenced ∧ tree.matchesWhole " ".toList = true ∧
      compile "\\ ".toList = .ok matcher ∧ matcher.accepts " ".toList = false := by
  let letter (code : Nat) : Pattern.Node := .atom .none (.literal code false)
  -- A backslash, and then the letter one or more times.
  let line : Pattern.Node := Pattern.lineTree [letter 92, .repeated .greedy 1 none (letter 115)]
  have parsed : Pattern.parse "\\ ".toList = .ok (letter 32) := by decide
  have compiles : compile "\\ ".toList = .ok (.pattern "^(?:\\\\s+)$".toList line) := by decide
  exact ⟨letter 32, _, parsed, by decide, by decide, by decide, by decide, by decide, trivial,
    by decide, compiles, by decide⟩

end Matcher

end ItemFilter
