/-
This file says that the scan of a match expression finds the captures of its tree. A part without
groups changes nothing, and a group that is opened, read and closed adds its captures.
-/

import ItemFilter.Proofs.Expression

namespace ItemFilter

namespace CaptureGroup

theorem isDispensable_eq (after : Text) : isDispensable after = decide (MayBeLeftOut after) := by
  have zero : "\x7b0".toList = ['{', '0'] := rfl
  rw [Bool.eq_iff_iff, decide_eq_true_iff, isDispensable, zero]
  cases after with
  | nil => simp [MayBeLeftOut]
  | cons character rest =>
      simp only [MayBeLeftOut, List.head?_cons, Bool.or_eq_true, beq_iff_eq, Option.some.injEq,
        List.cons_prefix_cons, List.nil_prefix, and_true, or_assoc, List.isPrefixOf_iff_prefix,
        eq_comm (b := character)]

section Steps

variable (whole : Text) (position : Nat) (scan : Scan) (rest : Text)

theorem scanFrom_ordinary {character : Char} (ordinary : IsOrdinary character) :
    scanFrom whole position false scan (character :: rest) =
      scanFrom whole (position + 1) false scan rest := by
  obtain ⟨backslash, bracket, opening, closing⟩ := ordinary
  rw [scanFrom] <;> simp [backslash, bracket, opening, closing]

theorem scanFrom_inClass {character : Char} (backslash : character ≠ '\\') :
    scanFrom whole position true scan (character :: rest) =
      scanFrom whole (position + 1) (character != ']') scan rest := by
  rw [scanFrom] <;> simp [backslash]

theorem scanFrom_escaped (inClass : Bool) (character : Char) :
    scanFrom whole position inClass scan ('\\' :: character :: rest) =
      scanFrom whole (position + 2) inClass scan rest := by
  rw [scanFrom]

theorem scanFrom_bracket :
    scanFrom whole position false scan ('[' :: rest) =
      scanFrom whole (position + 1) true scan rest := by
  rw [scanFrom] <;> simp

theorem scanFrom_opening :
    scanFrom whole position false scan ('(' :: rest) =
      scanFrom whole (position + 1) false (scan.openGroup position rest) rest := by
  rw [scanFrom] <;> simp

theorem scanFrom_closing {closed : Scan}
    (closes : scan.closeGroup whole position rest = some closed) :
    scanFrom whole position false scan (')' :: rest) =
      scanFrom whole (position + 1) false closed rest := by
  rw [scanFrom] <;> simp [closes]

theorem scanFrom_unopened (fails : scan.closeGroup whole position rest = none) :
    scanFrom whole position false scan (')' :: rest) = none := by
  rw [scanFrom] <;> simp [fails]

end Steps

/-- Nothing in the text opens or closes a group. -/
def Skipped (text : Text) : Prop :=
  ∀ whole position scan rest,
    scanFrom whole position false scan (text ++ rest) =
      scanFrom whole (position + text.length) false scan rest

theorem skipped_ordinary {text : Text}
    (ordinary : ∀ character ∈ text, IsOrdinary character) : Skipped text := by
  intro whole position scan rest
  induction text generalizing position with
  | nil => rfl
  | cons character others ih =>
      obtain ⟨first, later⟩ := List.forall_mem_cons.mp ordinary
      rw [List.cons_append, scanFrom_ordinary whole position scan _ first, ih later,
        List.length_cons, Nat.add_assoc, Nat.add_comm 1]

theorem skipped_escaped (character : Char) : Skipped ['\\', character] :=
  fun whole position scan rest => scanFrom_escaped whole position scan rest false character

/-- Within a class only the closing bracket counts. -/
theorem scanFrom_parts (whole : Text) (position : Nat) (scan : Scan) (rest : Text)
    (parts : List ClassPart) :
    scanFrom whole position true scan (parts.flatMap ClassPart.text ++ ']' :: rest) =
      scanFrom whole (position + (parts.flatMap ClassPart.text).length + 1) false scan rest := by
  induction parts generalizing position with
  | nil => exact scanFrom_inClass whole position scan rest (by decide)
  | cons part others ih =>
      rw [List.flatMap_cons, List.append_assoc]
      cases part with
      | single character inside =>
          have stays : (character != ']') = true := by simpa using inside.2
          rw [ClassPart.text, List.singleton_append, scanFrom_inClass _ _ _ _ inside.1, stays, ih,
            List.length_append, List.length_singleton]
          congr 1
          omega
      | escaped character =>
          rw [ClassPart.text, List.cons_append, List.singleton_append, scanFrom_escaped, ih,
            List.length_append, List.length_cons, List.length_singleton]
          congr 1
          omega

theorem skipped_bracket (parts : List ClassPart) :
    Skipped ('[' :: parts.flatMap ClassPart.text ++ [']']) := by
  intro whole position scan rest
  rw [List.append_assoc, List.cons_append, scanFrom_bracket, List.singleton_append, scanFrom_parts,
    List.length_append, List.length_cons, List.length_singleton]
  congr 1
  omega

end CaptureGroup

/-- A mark is recognized by the text behind the opening parenthesis. -/
theorem Mark.role_eq {mark : Mark} {inner : Text} (fits : mark.Fits inner) (rest : Text) :
    CaptureGroup.isCapturing (mark.text ++ (inner ++ ')' :: rest)) =
        decide (mark.role = .capture) ∧
      CaptureGroup.isWrapper (mark.text ++ (inner ++ ')' :: rest)) =
        decide (mark.role = .wrapper) := by
  simp only [CaptureGroup.isCapturing, CaptureGroup.isWrapper]
  cases mark with
  | bare =>
      cases inner with
      | nil => simp [text, role, List.isPrefixOf]
      | cons character others =>
          have : '?' ≠ character := by simpa [Fits, eq_comm] using fits
          simp [text, role, List.isPrefixOf, this]
  | named name =>
      simp [text, role, List.isPrefixOf]
  | shortNamed name noLook =>
      obtain ⟨equals, exclamation⟩ := noLook
      rcases name with ⟨_ | ⟨first, others⟩, _⟩
      · simp [text, role, List.isPrefixOf]
      · have ahead : '=' ≠ first := by simpa [eq_comm] using equals
        have behind : '!' ≠ first := by simpa [eq_comm] using exclamation
        simp [text, role, List.isPrefixOf, ahead, behind]
  | wrapper => simp [text, role, List.isPrefixOf]
  | other =>
      obtain ⟨colon, name, shortName⟩ := fits
      rcases inner with _ | ⟨first, _ | ⟨second, others⟩⟩
      · simp [text, role, List.isPrefixOf]
      · simp [text, role, List.isPrefixOf] at colon shortName ⊢
        exact ⟨shortName, colon⟩
      · simp [text, role, List.isPrefixOf] at colon name shortName ⊢
        refine ⟨⟨name, fun angle notAhead => ?_⟩, colon⟩
        rcases shortName angle with ⟨_, ahead⟩ | behind
        · exact absurd ahead (notAhead.resolve_left fun other => other angle)
        · exact behind

namespace CaptureGroup.Scan

/-- The captures are added behind the groups already found. -/
def extend (scan : Scan) (captures : List Expression.Capture) : Scan :=
  ⟨scan.opened, scan.count + captures.length,
    scan.groups ++ Expression.numbered scan.count captures⟩

/-- Captures are numbered only if all open groups are wrappers. -/
def visible (scan : Scan) (captures : List Expression.Capture) : List Expression.Capture :=
  if scan.opened.all Opened.isWrapper then captures else []

theorem visible_of_wrapped {scan : Scan} (wrapped : scan.opened.all Opened.isWrapper = true)
    (captures : List Expression.Capture) : scan.visible captures = captures :=
  if_pos wrapped

theorem visible_of_covered {scan : Scan} (covered : ¬ scan.opened.all Opened.isWrapper = true)
    (captures : List Expression.Capture) : scan.visible captures = [] :=
  if_neg covered

theorem extend_nil (scan : Scan) : scan.extend [] = scan := by
  simp [extend, Expression.numbered]

theorem mem_groups_extend_visible {scan : Scan} {captures : List Expression.Capture}
    {group : CaptureGroup} (member : group ∈ (scan.extend (scan.visible captures)).groups) :
    group ∈ scan.groups ∨ ∃ capture ∈ captures, group.start = capture.start := by
  rcases List.mem_append.mp member with old | new
  · exact .inl old
  · obtain ⟨capture, listed, same⟩ := Expression.exists_of_mem_numbered new
    unfold visible at listed
    split at listed
    · exact .inr ⟨capture, listed, same⟩
    · cases listed

theorem extend_visible_append (scan : Scan) (first second : List Expression.Capture) :
    (scan.extend (scan.visible first)).extend
        ((scan.extend (scan.visible first)).visible second) =
      scan.extend (scan.visible (first ++ second)) := by
  by_cases wrapped : scan.opened.all Opened.isWrapper = true
  · simp only [extend, visible, wrapped, if_true, List.append_assoc, Nat.add_assoc,
      List.length_append, Expression.numbered_append]
  · simp only [extend, visible, wrapped]
    simp [Expression.numbered]

theorem relax_append (first second : List CaptureGroup) (position : Nat) (dispensable : Bool) :
    relax (first ++ second) position dispensable =
      relax first position dispensable ++ relax second position dispensable :=
  List.map_append

/-- Groups that start earlier are left alone. -/
theorem relax_of_earlier {groups : List CaptureGroup} {position : Nat}
    (earlier : ∀ group ∈ groups, group.start < position) (dispensable : Bool) :
    relax groups position dispensable = groups := by
  unfold relax
  rw [List.map_congr_left (g := id), List.map_id]
  intro group member
  have before : ¬ position < group.start := by
    have := earlier group member
    omega
  simp [before]

/-- Groups within the parentheses may be left out with them. -/
theorem relax_numbered {captures : List Expression.Capture} {position : Nat}
    (inside : ∀ capture ∈ captures, position < capture.start) (count : Nat)
    (dispensable : Bool) :
    relax (Expression.numbered count captures) position dispensable =
      Expression.numbered count (captures.map fun capture =>
        { capture with optional := capture.optional || dispensable }) := by
  induction captures generalizing count with
  | nil => rfl
  | cons capture rest ih =>
      obtain ⟨first, later⟩ := List.forall_mem_cons.mp inside
      have others := ih later (count + 1)
      unfold relax at others ⊢
      rw [List.map_cons, Expression.numbered, Expression.numbered, List.map_cons, others]
      simp [Expression.Capture.group, first]

/-- The slice between the parentheses is the mark with the text behind it. -/
theorem slice_group (before mark inner after : Text) :
    ((before ++ '(' :: (mark ++ (inner ++ ')' :: after))).drop (before.length + 1)).take
        (before.length + mark.length + inner.length + 1 - (before.length + 1)) =
      mark ++ inner := by
  have whole : before ++ '(' :: (mark ++ (inner ++ ')' :: after)) =
      (before ++ ['(']) ++ ((mark ++ inner) ++ ')' :: after) := by
    simp
  have front : before.length + 1 = (before ++ ['(']).length := by
    rw [List.length_append, List.length_singleton]
  have count : before.length + mark.length + inner.length + 1 - (before.length + 1) =
      (mark ++ inner).length := by
    rw [List.length_append]
    omega
  rw [count, whole, front, List.drop_left, List.take_left]

/-- A group that is opened, read and closed adds its captures. -/
theorem closeGroup_openGroup {mark : Mark} {inner : Text} (fits : mark.Fits inner)
    (before after : Text) {scan : Scan}
    (earlier : ∀ group ∈ scan.groups, group.start < before.length)
    (inside : List Expression.Capture)
    (within : ∀ capture ∈ inside, before.length < capture.start) :
    let opened := scan.openGroup before.length (mark.text ++ (inner ++ ')' :: after))
    (opened.extend (opened.visible inside)).closeGroup
        (before ++ '(' :: (mark.text ++ (inner ++ ')' :: after)))
        (before.length + mark.text.length + inner.length + 1) after =
      some (scan.extend (scan.visible (Expression.groupCaptures mark before.length inner
        (decide (MayBeLeftOut after)) inside))) := by
  intro opened
  obtain ⟨capturing, wrapper⟩ := mark.role_eq fits after
  by_cases wrapped : scan.opened.all Opened.isWrapper = true
  · rw [visible_of_wrapped wrapped, Expression.groupCaptures]
    cases role : mark.role with
    | capture =>
        have opens : opened =
            ⟨⟨before.length, some (scan.count + 1), false⟩ :: scan.opened, scan.count + 1,
              scan.groups⟩ := by
          simp [opened, openGroup, capturing, wrapper, wrapped, role]
        have hidden : opened.visible inside = [] := by
          simp [opens, visible]
        rw [hidden, extend_nil, opens]
        simp only [closeGroup, slice_group, isDispensable_eq]
        rfl
    | wrapper =>
        have opens : opened =
            ⟨⟨before.length, none, true⟩ :: scan.opened, scan.count, scan.groups⟩ := by
          simp [opened, openGroup, capturing, wrapper, role]
        have shown : opened.visible inside = inside := by
          simp [opens, visible, wrapped]
        rw [shown, opens]
        simp only [closeGroup, extend, relax_append, relax_of_earlier earlier,
          relax_numbered within, isDispensable_eq, List.length_map]
    | other =>
        have opens : opened =
            ⟨⟨before.length, none, false⟩ :: scan.opened, scan.count, scan.groups⟩ := by
          simp [opened, openGroup, capturing, wrapper, role]
        have hidden : opened.visible inside = [] := by
          simp [opens, visible]
        rw [hidden, extend_nil, extend_nil, opens]
        simp only [closeGroup, relax_of_earlier earlier]
  · -- In a group that is no wrapper nothing is numbered, whatever the role.
    have opens : opened =
        ⟨⟨before.length, none, decide (mark.role = .wrapper)⟩ :: scan.opened, scan.count,
          scan.groups⟩ := by
      simp [opened, openGroup, wrapper, wrapped]
    have hidden : opened.visible inside = [] := by
      simp [opens, visible, wrapped]
    rw [hidden, visible_of_covered wrapped, extend_nil, extend_nil, opens]
    simp only [closeGroup, relax_of_earlier earlier]

end CaptureGroup.Scan

namespace CaptureGroup

/-- What is read of an expression that starts at the column and is followed by the text. -/
def ReadsFrom (before after : Text) (expression : Expression) : Prop :=
  ∀ scan : Scan, (∀ group ∈ scan.groups, group.start < before.length) →
    scanFrom (before ++ (expression.text ++ after)) before.length false scan
        (expression.text ++ after) =
      scanFrom (before ++ (expression.text ++ after)) (before.length + expression.text.length)
        false (scan.extend (scan.visible (expression.capturesFrom before.length after))) after

/-- What opens and closes nothing may stand before an expression. -/
theorem ReadsFrom.skip {before item after : Text} {rest expression : Expression}
    (skipped : Skipped item) (reads : ReadsFrom (before ++ item) after rest)
    (text : expression.text = item ++ rest.text)
    (captures : expression.capturesFrom before.length after =
      rest.capturesFrom (before ++ item).length after) :
    ReadsFrom before after expression := by
  intro scan earlier
  have further := reads scan fun group member => by
    have := earlier group member
    rw [List.length_append]
    omega
  rw [text, captures, List.append_assoc, skipped]
  rw [List.length_append, List.append_assoc] at further
  rw [further, List.length_append, List.length_append, Nat.add_assoc]

/-- A group is read with all that stands in it. -/
theorem ReadsFrom.group {before after : Text} {mark : Mark} {inner rest : Expression}
    (fits : mark.Fits inner.text)
    (inside : ReadsFrom (before ++ '(' :: mark.text) (')' :: (rest.text ++ after)) inner)
    (behind : ReadsFrom (before ++ '(' :: (mark.text ++ (inner.text ++ [')']))) after rest) :
    ReadsFrom before after (.group mark inner rest) := by
  intro scan earlier
  let follows := rest.text ++ after
  let first := before.length + mark.text.length + 1
  let last := before.length + mark.text.length + inner.text.length + 1
  let whole := before ++ '(' :: (mark.text ++ (inner.text ++ ')' :: follows))
  let opened := scan.openGroup before.length (mark.text ++ (inner.text ++ ')' :: follows))
  let captures := inner.capturesFrom first (')' :: follows)
  let here := Expression.groupCaptures mark before.length inner.text
    (decide (MayBeLeftOut follows)) captures
  -- The scan goes through the opening parenthesis with its mark, the text inside, the closing
  -- parenthesis and the text behind it.
  have text : (Expression.group mark inner rest).text ++ after =
      '(' :: (mark.text ++ (inner.text ++ ')' :: follows)) := by
    simp [Expression.text, follows]
  have opens : scanFrom whole before.length false scan
        ('(' :: (mark.text ++ (inner.text ++ ')' :: follows))) =
      scanFrom whole first false opened (inner.text ++ ')' :: follows) := by
    rw [scanFrom_opening, skipped_ordinary mark.ordinary, Nat.add_right_comm]
  have reads : scanFrom whole first false opened (inner.text ++ ')' :: follows) =
      scanFrom whole last false (opened.extend (opened.visible captures)) (')' :: follows) := by
    have kept : opened.groups = scan.groups := by
      simp only [opened, Scan.openGroup]
      split <;> rfl
    have start : (before ++ '(' :: mark.text).length = first := by
      rw [List.length_append, List.length_cons]
      rfl
    have stop : first + inner.text.length = last := by
      omega
    have split : (before ++ '(' :: mark.text) ++ (inner.text ++ ')' :: follows) = whole := by
      simp [whole]
    have read := inside opened fun group member => by
      rw [kept] at member
      have := earlier group member
      omega
    rwa [start, stop, split] at read
  have closes := Scan.closeGroup_openGroup fits before follows earlier captures
    fun capture member => by
      have := Expression.start_of_mem_capturesFrom member
      omega
  have continues : scanFrom whole (last + 1) false (scan.extend (scan.visible here)) follows =
      scanFrom whole (last + 1 + rest.text.length) false
        (scan.extend (scan.visible (here ++ rest.capturesFrom (last + 1) after))) after := by
    have start : (before ++ '(' :: (mark.text ++ (inner.text ++ [')']))).length = last + 1 := by
      simp only [List.length_append, List.length_cons, List.length_nil]
      omega
    have split : (before ++ '(' :: (mark.text ++ (inner.text ++ [')']))) ++ (rest.text ++ after) =
        whole := by
      simp [whole, follows]
    have read := behind (scan.extend (scan.visible here)) fun group member => by
      rcases Scan.mem_groups_extend_visible member with old | ⟨capture, listed, same⟩
      · have := earlier group old
        omega
      · have := Expression.start_of_mem_groupCaptures
          (fun found inside => Expression.start_of_mem_capturesFrom inside) listed
        omega
    rwa [start, split, Scan.extend_visible_append] at read
  rw [text, opens, reads, scanFrom_closing whole last _ follows closes, continues]
  congr 1
  simp only [Expression.text, List.length_append, List.length_cons]
  omega

theorem readsFrom {expression : Expression} (wellFormed : expression.WellFormed)
    (before after : Text) : ReadsFrom before after expression := by
  induction expression generalizing before after with
  | empty =>
      intro scan _
      have none : scan.visible (Expression.empty.capturesFrom before.length after) = [] :=
        ite_self []
      rw [none, Scan.extend_nil]
      rfl
  | single character ordinary rest ih =>
      apply (ih wellFormed (before ++ [character]) after).skip
      · exact skipped_ordinary (List.forall_mem_singleton.mpr ordinary)
      · rfl
      · rw [List.length_append]; rfl
  | escaped character rest ih =>
      apply (ih wellFormed (before ++ ['\\', character]) after).skip (skipped_escaped character)
      · rfl
      · rw [List.length_append]; rfl
  | bracket parts rest ih =>
      apply (ih wellFormed (before ++ _) after).skip (skipped_bracket parts)
      · simp [Expression.text]
      · rw [Expression.capturesFrom]
        simp [Nat.add_assoc]
  | group mark inner rest ihInner ihRest =>
      obtain ⟨fits, inside, behind⟩ := wellFormed
      exact .group fits (ihInner inside _ _) (ihRest behind _ _)

/-- The groups that are found are the captures of the tree. -/
theorem all?_text {expression : Expression} (wellFormed : expression.WellFormed) :
    all? expression.text = some (Expression.numbered 0 expression.captures) := by
  have read := readsFrom wellFormed [] [] .start (by simp [Scan.start])
  rw [List.nil_append, List.append_nil] at read
  rw [all?]
  refine read.trans ?_
  rw [Scan.visible_of_wrapped rfl]
  rfl

theorem find?_numbered (count : Nat) (captures : List Expression.Capture) (offset : Nat) :
    (Expression.numbered count captures).find?
        (fun group => (group.index : Int) == (count + offset + 1 : Nat)) =
      captures[offset]?.map fun capture => capture.group (count + offset + 1) := by
  induction captures generalizing count offset with
  | nil => rfl
  | cons capture rest ih =>
      rw [Expression.numbered]
      cases offset with
      | zero => simp [Expression.Capture.group]
      | succ offset =>
          have next := ih (count + 1) offset
          have number : count + 1 + offset + 1 = count + (offset + 1) + 1 := by omega
          rw [number] at next
          rw [List.find?_cons_of_neg, next, List.getElem?_cons_succ]
          simp only [Expression.Capture.group, beq_iff_eq]
          omega

/-- Whatever the tree, its captures are found under their numbers, and no others are. The columns
are those of the parentheses, and a capture is optional if it or a wrapper around it may be left
out. The text is all that stands between the parentheses, so it is the text behind the mark exactly
if there is no mark. -/
theorem find?_text {expression : Expression} (wellFormed : expression.WellFormed) {index : Nat}
    (positive : 1 ≤ index) :
    (∀ capture, expression.captures[index - 1]? = some capture →
        ∃ group, find? expression.text index = some group ∧ group.index = index ∧
          group.start = capture.start ∧ group.stop = capture.stop ∧
          group.optional = capture.optional ∧
          group.text = capture.mark.text ++ capture.inner ∧
          (group.text = capture.inner ↔ capture.mark = .bare)) ∧
      (expression.captures.length < index → find? expression.text index = none) := by
  obtain ⟨offset, rfl⟩ : ∃ offset, index = 0 + offset + 1 := ⟨index - 1, by omega⟩
  have found : find? expression.text (0 + offset + 1 : Nat) =
      expression.captures[offset]?.map fun capture => capture.group (0 + offset + 1) := by
    rw [find?, all?_text wellFormed]
    exact find?_numbered 0 expression.captures offset
  have place : 0 + offset + 1 - 1 = offset := by omega
  rw [place, found]
  constructor
  · intro capture here
    rw [here]
    refine ⟨_, rfl, rfl, rfl, rfl, rfl, rfl, ?_⟩
    have unmarked : capture.mark.text ++ capture.inner = capture.inner ↔
        capture.mark.text = [] := by
      simp
    refine unmarked.trans ?_
    cases capture.mark <;> simp [Mark.text]
  · intro few
    rw [List.getElem?_eq_none (by omega)]
    rfl

/-- Groups in classes, behind a backslash, in other groups and in a look are not counted, and what
may be left out with a wrapper is optional. -/
theorem find?_text_nested :
    let text := "(?P<n>[(\\]]a)\\((?:(b(c))x(?=(d)))*(e)".toList
    (∃ group, find? text 1 = some group ∧ group.text = "?P<n>[(\\]]a".toList ∧
      group.start = 0 ∧ group.stop = 13 ∧ group.optional = false) ∧
    (∃ group, find? text 2 = some group ∧ group.text = "b(c)".toList ∧
      group.start = 18 ∧ group.stop = 24 ∧ group.optional = true) ∧
    find? text 4 = none := by
  intro text
  let letter (character : Char) (ordinary : IsOrdinary character) : Expression :=
    .single character ordinary .empty
  let look : Expression := .group .other
    (.single '=' (by decide) (.group .bare (letter 'd' (by decide)) .empty)) .empty
  let wrapped : Expression := .group .bare
    (.single 'b' (by decide) (.group .bare (letter 'c' (by decide)) .empty))
    (.single 'x' (by decide) look)
  let expression : Expression := .group (.named ⟨['n'], List.all_iff_forall_prop.mp (by decide)⟩)
    (.bracket [.single '(' (by decide), .escaped ']'] (letter 'a' (by decide)))
    (.escaped '(' (.group .wrapper wrapped
      (.single '*' (by decide) (.group .bare (letter 'e' (by decide)) .empty))))
  have same : expression.text = text := rfl
  have wellFormed : expression.WellFormed := by
    simp [expression, wrapped, look, letter, Expression.WellFormed, Mark.Fits, Expression.text]
  rw [← same]
  obtain ⟨named, first, _, start, stop, optional, between, _⟩ :=
    (find?_text wellFormed (by decide : 1 ≤ 1)).1 _ rfl
  obtain ⟨nested, second, _, start', stop', optional', between', _⟩ :=
    (find?_text wellFormed (by decide : 1 ≤ 2)).1 _ rfl
  exact ⟨⟨named, first, between, start, stop, optional⟩,
    ⟨nested, second, between', start', stop', optional'⟩,
    (find?_text wellFormed (by decide : 1 ≤ 4)).2 (by decide)⟩

/-- The text of a named group holds its name. -/
theorem find?_of_named :
    ∃ expression : Expression, expression.WellFormed ∧ expression.text = "(?P<n>a)".toList ∧
      expression.captures.map (fun capture => (capture.inner, capture.start, capture.stop)) =
        [("a".toList, 0, 8)] ∧
      find? expression.text 1 = some ⟨1, "?P<n>a".toList, 0, 8, false⟩ := by
  refine ⟨.group (.named ⟨['n'], List.all_iff_forall_prop.mp (by decide)⟩) (.single 'a' (by decide) .empty) .empty, ?_, rfl,
    rfl, by decide⟩
  exact ⟨trivial, trivial, trivial⟩

end CaptureGroup

end ItemFilter
