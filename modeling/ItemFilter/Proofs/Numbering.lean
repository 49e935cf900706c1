/-
This file says which groups are found in a text, whether its parentheses are balanced or not. At
each step at most one of the open parentheses is numbered, and the groups found so far lie before
it, one after the other.
-/

import ItemFilter.Proofs.CaptureGroup
import ItemFilter.Proofs.Depth

namespace ItemFilter.CaptureGroup

/-- A group is numbered if it captures and all groups around it are wrappers. -/
def Numbered (text : Text) (index : Nat) : Prop :=
  (exposed text)[index]? = some '(' ∧ isCapturing (text.drop (index + 1)) = true ∧
    ∀ start < index, Encloses (exposed text) start index →
      isWrapper (text.drop (start + 1)) = true

instance (text : Text) (index : Nat) : Decidable (Numbered text index) :=
  inferInstanceAs (Decidable (_ ∧ _ ∧ ∀ start < index, _))

/-- Where the numbered groups are opened, in order. -/
def openings (text : Text) : List Nat :=
  (List.range text.length).filter fun index => decide (Numbered text index)

/-- A group is numbered exactly where the scan would number it. -/
theorem Stacked.numbered_iff {whole seen : Text} {character : Char} {opened : List Opened}
    (stacked : Stacked seen opened)
    (wrappers : ∀ parenthesis ∈ opened,
      parenthesis.isWrapper = isWrapper (whole.drop (parenthesis.start + 1)))
    (shows : seen ++ [character] <+: exposed whole) :
    Numbered whole seen.length ↔
      character = '(' ∧ isCapturing (whole.drop (seen.length + 1)) = true ∧
        opened.all Opened.isWrapper = true := by
  obtain ⟨more, equal⟩ := shows
  rw [Numbered, ← equal, List.append_assoc, List.getElem?_append_right (Nat.le_refl _),
    Nat.sub_self, List.singleton_append, List.getElem?_cons_zero, Option.some.injEq,
    List.all_eq_true]
  refine and_congr_right fun _ => and_congr_right fun _ => ⟨?_, ?_⟩
  · intro around parenthesis member
    have encloses := stacked.encloses parenthesis member
    rw [wrappers parenthesis member]
    exact around parenthesis.start encloses.1 ((encloses_append (Nat.le_refl _) _).mpr encloses)
  · intro wrapped start _ encloses
    rw [encloses_append (Nat.le_refl _)] at encloses
    obtain ⟨parenthesis, member, rfl⟩ := stacked.mem_of_encloses encloses
    rw [← wrappers parenthesis member]
    exact wrapped parenthesis member

/-- The group as one that may not be left out. -/
def asRequired (group : CaptureGroup) : CaptureGroup :=
  { group with optional := false }

namespace Scan

/-- The scan without knowledge of what may be left out. -/
def bare (scan : Scan) : Scan :=
  { scan with groups := scan.groups.map asRequired }

/-- What one character does to a scan, up to what may be left out. -/
inductive Step (whole : Text) (position : Nat) : Char → Scan → Scan → Prop where
  | skip {character : Char} {scan : Scan} (noOpening : character ≠ '(')
      (noClosing : character ≠ ')') : Step whole position character scan scan
  | number {opened : List Opened} {count : Nat} {groups : List CaptureGroup}
      (capturing : isCapturing (whole.drop (position + 1)) = true)
      (wrapped : opened.all Opened.isWrapper = true) :
      Step whole position '(' ⟨opened, count, groups⟩
        ⟨⟨position, some (count + 1), false⟩ :: opened, count + 1, groups⟩
  | nest {opened : List Opened} {count : Nat} {groups : List CaptureGroup}
      (plain : ¬ (isCapturing (whole.drop (position + 1)) = true ∧
        opened.all Opened.isWrapper = true)) :
      Step whole position '(' ⟨opened, count, groups⟩
        ⟨⟨position, none, isWrapper (whole.drop (position + 1))⟩ :: opened, count, groups⟩
  | finish {start index count : Nat} {isWrapper : Bool} {opened : List Opened}
      {groups : List CaptureGroup} :
      Step whole position ')' ⟨⟨start, some index, isWrapper⟩ :: opened, count, groups⟩
        ⟨opened, count, groups ++
          [⟨index, (whole.take position).drop (start + 1), start, position + 1, false⟩]⟩
  | leave {start count : Nat} {isWrapper : Bool} {opened : List Opened}
      {groups : List CaptureGroup} :
      Step whole position ')' ⟨⟨start, none, isWrapper⟩ :: opened, count, groups⟩
        ⟨opened, count, groups⟩

/-- A group that captures is no wrapper. -/
theorem not_isWrapper_of_isCapturing {rest : Text} (capturing : isCapturing rest = true) :
    isWrapper rest = false := by
  rw [Bool.eq_false_iff]
  intro wrapper
  obtain ⟨more, rfl⟩ := List.isPrefixOf_iff_prefix.mp wrapper
  simp [isCapturing, List.isPrefixOf] at capturing

section Steps

variable {whole : Text} {position : Nat} {scan next : Scan}

theorem step_openGroup (scan : Scan) :
    Step whole position '(' scan.bare
      (scan.openGroup position (whole.drop (position + 1))).bare := by
  unfold openGroup
  split
  · next numbered =>
      obtain ⟨capturing, wrapped⟩ := (Bool.and_eq_true _ _).mp numbered
      rw [not_isWrapper_of_isCapturing capturing]
      exact .number capturing wrapped
  · next plain =>
      rw [Bool.and_eq_true] at plain
      exact .nest plain

theorem map_asRequired_relax (groups : List CaptureGroup) (position : Nat) (dispensable : Bool) :
    (relax groups position dispensable).map asRequired = groups.map asRequired := by
  rw [relax, List.map_map]
  rfl

theorem step_closeGroup
    (closes : scan.closeGroup whole position (whole.drop (position + 1)) = some next) :
    Step whole position ')' scan.bare next.bare := by
  obtain ⟨opened, count, groups⟩ := scan
  unfold closeGroup at closes
  cases opened with
  | nil => cases closes
  | cons innermost opened =>
      obtain ⟨start, index, isWrapper⟩ := innermost
      cases index with
      | none =>
          obtain rfl := Option.some.inj closes
          unfold bare
          rw [map_asRequired_relax]
          exact .leave
      | some index =>
          obtain rfl := Option.some.inj closes
          unfold bare
          rw [List.map_append, ← List.drop_take]
          exact .finish

theorem closeGroup_eq_none_iff (rest : Text) :
    scan.closeGroup whole position rest = none ↔ scan.opened = [] := by
  unfold closeGroup
  split
  · next nothing => exact iff_of_true rfl nothing
  · next innermost opened some =>
      refine iff_of_false ?_ (some ▸ List.cons_ne_nil _ _)
      dsimp only
      split <;> exact Option.some_ne_none _

end Steps

/-- The scan is reached over the first characters of the exposed text. -/
inductive Reaches (whole : Text) : Text → Scan → Prop where
  | start : Reaches whole [] .start
  | step {seen : Text} {character : Char} {scan next : Scan} (reaches : Reaches whole seen scan)
      (shows : seen ++ [character] <+: exposed whole)
      (step : Step whole seen.length character scan next) :
      Reaches whole (seen ++ [character]) next

/-- The list has the start of the numbered parenthesis that is open, if there is one. It is the last
that was numbered, and all groups found lie before it. -/
inductive Pending (scan : Scan) : List Nat → Prop where
  | outside (plain : ∀ parenthesis ∈ scan.opened, parenthesis.index = none)
      (complete : scan.groups.length = scan.count) : Pending scan []
  | inside {above below : List Opened} {start : Nat}
      (parts : scan.opened = above ++ ⟨start, some scan.count, false⟩ :: below)
      (plainAbove : ∀ parenthesis ∈ above, parenthesis.index = none)
      (plainBelow : ∀ parenthesis ∈ below, parenthesis.index = none)
      (complete : scan.groups.length + 1 = scan.count)
      (later : ∀ group ∈ scan.groups, group.stop ≤ start) : Pending scan [start]

/-- The group lies in what was seen, between parentheses that belong together. -/
structure Placed (whole seen : Text) (group : CaptureGroup) : Prop where
  within : group.stop ≤ seen.length
  pairs : Pairs seen group.start group.stop
  slice : group.text = (whole.take (group.stop - 1)).drop (group.start + 1)

theorem Placed.append {whole seen : Text} {group : CaptureGroup} (placed : Placed whole seen group)
    (more : Text) : Placed whole (seen ++ more) group :=
  ⟨by rw [List.length_append]; exact Nat.le_add_right_of_le placed.within,
    placed.pairs.append placed.within more, placed.slice⟩

/-- The numbered groups among what was seen are those found and the one that is open. -/
structure Consistent (whole seen : Text) (scan : Scan) : Prop where
  stacked : Stacked seen scan.opened
  wrappers : ∀ parenthesis ∈ scan.opened,
    parenthesis.isWrapper = isWrapper (whole.drop (parenthesis.start + 1))
  indexes : scan.groups.map CaptureGroup.index = List.range' 1 scan.groups.length
  placed : ∀ group ∈ scan.groups, Placed whole seen group
  apart : scan.groups.Pairwise fun first second => first.stop ≤ second.start
  openings : ∃ pending, scan.Pending pending ∧
    scan.groups.map CaptureGroup.start ++ pending =
      (List.range seen.length).filter fun index => decide (Numbered whole index)

section Pendings

variable {opened : List Opened} {count start position : Nat} {groups : List CaptureGroup}
  {isWrapper : Bool} {pending : List Nat}

/-- Within a numbered group, no other group is numbered. -/
theorem Pending.number (before : Pending ⟨opened, count, groups⟩ pending)
    (wrapped : opened.all Opened.isWrapper = true)
    (later : ∀ group ∈ groups, group.stop ≤ position) :
    pending = [] ∧
      Pending ⟨⟨position, some (count + 1), false⟩ :: opened, count + 1, groups⟩ [position] := by
  cases before with
  | outside plain complete =>
      exact ⟨rfl, .inside (List.nil_append _).symm (List.forall_mem_nil _) plain
        (congrArg Nat.succ complete) later⟩
  | inside parts =>
      -- The numbered parenthesis is no wrapper.
      dsimp only at parts
      rw [parts] at wrapped
      simp at wrapped

theorem Pending.nest (before : Pending ⟨opened, count, groups⟩ pending) :
    Pending ⟨⟨position, none, isWrapper⟩ :: opened, count, groups⟩ pending := by
  cases before with
  | outside plain complete => exact .outside (List.forall_mem_cons.mpr ⟨rfl, plain⟩) complete
  | inside parts plainAbove plainBelow complete later =>
      exact .inside (congrArg (List.cons _) parts) (List.forall_mem_cons.mpr ⟨rfl, plainAbove⟩)
        plainBelow complete later

theorem Pending.finish {index : Nat}
    (before : Pending ⟨⟨start, some index, isWrapper⟩ :: opened, count, groups⟩ pending)
    (group : CaptureGroup) :
    pending = [start] ∧ index = groups.length + 1 ∧ (∀ group ∈ groups, group.stop ≤ start) ∧
      Pending ⟨opened, count, groups ++ [group]⟩ [] := by
  cases before with
  | outside plain => cases plain _ List.mem_cons_self
  | @inside above below _ parts plainAbove plainBelow complete later =>
      cases above with
      | nil =>
          obtain ⟨same, rfl⟩ := List.cons.inj parts
          obtain ⟨rfl, sameIndex, -⟩ := Opened.mk.inj same
          obtain rfl : index = count := Option.some.inj sameIndex
          exact ⟨rfl, complete.symm, later, .outside plainBelow (by simpa using complete)⟩
      | cons outer above =>
          obtain ⟨rfl, -⟩ := List.cons.inj parts
          cases plainAbove _ List.mem_cons_self

theorem Pending.leave
    (before : Pending ⟨⟨start, none, isWrapper⟩ :: opened, count, groups⟩ pending) :
    Pending ⟨opened, count, groups⟩ pending := by
  cases before with
  | outside plain complete => exact .outside (List.forall_mem_cons.mp plain).2 complete
  | @inside above below _ parts plainAbove plainBelow complete later =>
      cases above with
      | nil => cases (Opened.mk.inj (List.cons.inj parts).1).2.1
      | cons outer above =>
          exact .inside (List.cons.inj parts).2 (List.forall_mem_cons.mp plainAbove).2 plainBelow
            complete later

end Pendings

section Consistency

variable {whole seen : Text} {character : Char} {scan next : Scan}

theorem consistent_start (whole : Text) : Consistent whole [] .start := by
  refine ⟨⟨?_, rfl, ?_, ?_, rfl⟩, ?_, rfl, ?_, .nil, [], .outside ?_ rfl, rfl⟩
  · intro index upper
    obtain rfl := Nat.le_zero.mp upper
    exact Int.le_refl 0
  all_goals exact List.forall_mem_nil _

/-- One more character adds at most one numbered group. -/
theorem Consistent.filter_concat (consistent : Consistent whole seen scan)
    (shows : seen ++ [character] <+: exposed whole) :
    (List.range (seen ++ [character]).length).filter (fun index => decide (Numbered whole index)) =
      (List.range seen.length).filter (fun index => decide (Numbered whole index)) ++
        if character = '(' ∧ isCapturing (whole.drop (seen.length + 1)) = true ∧
          scan.opened.all Opened.isWrapper = true then [seen.length] else [] := by
  rw [List.length_append, List.length_singleton, List.range_succ, List.filter_append,
    List.filter_singleton]
  simp only [consistent.stacked.numbered_iff consistent.wrappers shows, Bool.cond_decide]

theorem Consistent.step (consistent : Consistent whole seen scan)
    (shows : seen ++ [character] <+: exposed whole)
    (step : Step whole seen.length character scan next) :
    Consistent whole (seen ++ [character]) next := by
  have places := consistent.filter_concat shows
  obtain ⟨stacked, wrappers, indexes, placed, apart, pending, phase, openings⟩ := consistent
  have kept : ∀ group ∈ scan.groups, Placed whole (seen ++ [character]) group :=
    fun group member => (placed group member).append _
  rw [← openings] at places
  -- What was found stays. Only the end of a numbered group adds to it.
  cases step with
  | skip noOpening noClosing =>
      rw [if_neg fun numbered => noOpening numbered.1, List.append_nil] at places
      exact ⟨stacked.skip noOpening noClosing, wrappers, indexes, kept, apart, pending, phase,
        places.symm⟩
  | number capturing wrapped =>
      obtain ⟨rfl, inside⟩ := phase.number wrapped fun group member =>
        (placed group member).within
      rw [if_pos ⟨rfl, capturing, wrapped⟩, List.append_nil] at places
      have noWrapper := (not_isWrapper_of_isCapturing capturing).symm
      exact ⟨stacked.push _ _, List.forall_mem_cons.mpr ⟨noWrapper, wrappers⟩, indexes, kept,
        apart, _, inside, places.symm⟩
  | nest plain =>
      rw [if_neg fun numbered => plain numbered.2, List.append_nil] at places
      exact ⟨stacked.push _ _, List.forall_mem_cons.mpr ⟨rfl, wrappers⟩, indexes, kept, apart,
        pending, phase.nest, places.symm⟩
  | @finish start index count isWrapper opened groups =>
      obtain ⟨rfl, rfl, later, outside⟩ := phase.finish
        ⟨index, (whole.take seen.length).drop (start + 1), start, seen.length + 1, false⟩
      rw [if_neg (by simp), List.append_nil] at places
      refine ⟨stacked.pop, (List.forall_mem_cons.mp wrappers).2, ?_, ?_, ?_, [], outside, ?_⟩
      · rw [List.map_append, indexes, List.length_append, List.length_singleton,
          List.range'_1_concat, Nat.add_comm 1]
        rfl
      · refine List.forall_mem_append.mpr ⟨kept, List.forall_mem_singleton.mpr ?_⟩
        exact ⟨by simp, stacked.pairs, rfl⟩
      · refine List.pairwise_append.mpr ⟨apart, List.pairwise_singleton _ _, ?_⟩
        intro group member
        exact List.forall_mem_singleton.mpr (later group member)
      · rw [places, List.append_nil, List.map_append]
        rfl
  | leave =>
      rw [if_neg (by simp), List.append_nil] at places
      exact ⟨stacked.pop, (List.forall_mem_cons.mp wrappers).2, indexes, kept, apart, pending,
        phase.leave, places.symm⟩

/-- Every scan that is reached is consistent. -/
theorem Reaches.consistent (reaches : Reaches whole seen scan) : Consistent whole seen scan := by
  induction reaches with
  | start => exact consistent_start whole
  | step _ shows step ih => exact ih.step shows step

end Consistency

section Runs

variable {whole seen : Text} {scan : Scan}

/-- At the end no parenthesis is open exactly if the text is balanced. -/
theorem Reaches.balanced_iff (reaches : Reaches whole (exposed whole) scan) :
    Balanced (exposed whole) ↔ scan.opened = [] := by
  have stacked := reaches.consistent.stacked
  have height := stacked.height
  constructor
  · intro balanced
    rw [balanced.closed] at height
    exact List.length_eq_zero_iff.mp (by omega)
  · intro nothing
    rw [nothing] at height
    exact ⟨stacked.nonnegative, height⟩

/-- A scan that ends gives the groups of a balanced text, and one that breaks off shows that the
text is not balanced. -/
def Decided (whole : Text) (result : Option (List CaptureGroup)) : Prop :=
  (∃ scan : Scan, result = some scan.groups ∧ scan.opened = [] ∧
      Reaches whole (exposed whole) scan.bare) ∨
    (result = none ∧ ¬ Balanced (exposed whole))

/-- The scan stands between what was seen and the rest, of which the last text shows. -/
structure Standing (whole seen : Text) (position : Nat) (scan : Scan) (rest shown : Text) :
    Prop where
  reaches : Reaches whole seen scan.bare
  place : position = seen.length
  ahead : whole.drop position = rest
  shows : exposed whole = seen ++ shown

theorem Standing.drop_succ {position : Nat} {character : Char} {rest shown : Text}
    (standing : Standing whole seen position scan (character :: rest) shown) :
    whole.drop (position + 1) = rest := by
  rw [← List.drop_drop, standing.ahead, List.drop_one, List.tail_cons]

theorem Standing.step {position : Nat} {next : Scan} {character sign : Char} {rest shown : Text}
    (standing : Standing whole seen position scan (character :: rest) (sign :: shown))
    (step : Step whole position sign scan.bare next.bare) :
    Standing whole (seen ++ [sign]) (position + 1) next rest shown := by
  have ahead := standing.drop_succ
  obtain ⟨reaches, rfl, -, shows⟩ := standing
  rw [List.append_cons] at shows
  refine ⟨reaches.step ⟨shown, shows.symm⟩ step, ?_, ahead, shows⟩
  rw [List.length_append, List.length_singleton]

theorem Standing.skip {position : Nat} {character : Char} {rest shown : Text}
    (standing : Standing whole seen position scan (character :: rest) (' ' :: shown)) :
    Standing whole (seen ++ [' ']) (position + 1) scan rest shown :=
  standing.step (.skip (by decide) (by decide))

/-- At the end, an open parenthesis leaves the text unbalanced. -/
theorem Standing.decided_nil {position : Nat}
    (standing : Standing whole seen position scan [] []) (inClass : Bool) :
    Decided whole (scanFrom whole position inClass scan []) := by
  obtain ⟨reaches, -, -, shows⟩ := standing
  rw [List.append_nil] at shows
  subst shows
  rw [scanFrom]
  cases nothing : scan.opened with
  | nil => exact .inl ⟨scan, rfl, nothing, reaches⟩
  | cons innermost opened =>
      refine .inr ⟨rfl, fun balanced => ?_⟩
      have closed : scan.opened = [] := reaches.balanced_iff.mp balanced
      rw [nothing] at closed
      cases closed

/-- A parenthesis that closes nothing leaves the text unbalanced. -/
theorem Standing.not_balanced {position : Nat} {rest shown : Text}
    (standing : Standing whole seen position scan rest (')' :: shown))
    (nothing : scan.opened = []) : ¬ Balanced (exposed whole) := by
  intro balanced
  obtain ⟨reaches, -, -, shows⟩ := standing
  have height : depth seen seen.length = scan.opened.length := reaches.consistent.stacked.height
  have lower := balanced.nonnegative (seen.length + 1) (by simp [shows])
  rw [shows, List.append_cons, depth_append (by simp), depth_concat, height, nothing] at lower
  simp at lower

/-- The scan follows what shows of the text to its end. -/
theorem Standing.decided {position : Nat} {inClass : Bool} {rest : Text}
    (standing : Standing whole seen position scan rest (cover inClass rest)) :
    Decided whole (scanFrom whole position inClass scan rest) := by
  -- The covering and the scan read the text alike, and what is covered changes no scan.
  fun_induction cover inClass rest generalizing seen position scan with
  | case1 inClass => exact standing.decided_nil inClass
  | case2 inClass => exact standing.skip.decided_nil inClass
  | case3 inClass hidden rest ih =>
      rw [scanFrom_escaped]
      exact ih standing.skip.skip
  | case4 character rest backslash ih =>
      rw [scanFrom_inClass _ _ _ _ backslash]
      exact ih standing.skip
  | case5 inClass character rest backslash outside bracket ih =>
      obtain rfl := eq_false_of_ne_true outside
      obtain rfl := eq_of_beq bracket
      rw [scanFrom_bracket]
      exact ih standing.skip
  | case6 inClass character rest backslash outside bracket ih =>
      obtain rfl := eq_false_of_ne_true outside
      by_cases opening : character = '('
      · subst opening
        rw [scanFrom_opening]
        refine ih (standing.step ?_)
        rw [← standing.drop_succ]
        exact step_openGroup scan
      by_cases closing : character = ')'
      · subst closing
        cases closes : scan.closeGroup whole position rest with
        | none =>
            rw [scanFrom_unopened _ _ _ _ closes]
            rw [closeGroup_eq_none_iff] at closes
            exact .inr ⟨rfl, standing.not_balanced closes⟩
        | some next =>
            rw [scanFrom_closing _ _ _ _ closes]
            rw [← standing.drop_succ] at closes
            exact ih (standing.step (step_closeGroup closes))
      · rw [scanFrom_ordinary _ _ _ _ ⟨backslash, by simpa using bracket, opening, closing⟩]
        exact ih (standing.step (.skip opening closing))

end Runs

end Scan

/-- The groups are the numbered groups of a balanced text, one after the other. -/
structure Series (text : Text) (groups : List CaptureGroup) : Prop where
  balanced : Balanced (exposed text)
  indexes : groups.map index = List.range' 1 groups.length
  starts : groups.map start = openings text
  placed : ∀ group ∈ groups, Scan.Placed text (exposed text) group
  apart : groups.Pairwise fun first second => first.stop ≤ second.start

theorem Scan.Reaches.series {text : Text} {scan : Scan} (nothing : scan.opened = [])
    (reaches : Reaches text (exposed text) scan.bare) : Series text scan.groups := by
  obtain ⟨-, -, indexes, placed, apart, pending, phase, starts⟩ := reaches.consistent
  rw [bare, List.map_map, List.length_map] at indexes
  refine ⟨reaches.balanced_iff.mpr nothing, indexes, ?_, ?_, List.pairwise_map.mp apart⟩
  · cases phase with
    | outside =>
        rw [List.append_nil, bare, List.map_map, exposed, length_cover] at starts
        exact starts
    | inside parts => exact absurd (nothing.symm.trans parts).symm (by simp)
  · intro group member
    obtain ⟨within, pairs, slice⟩ := placed _ (List.mem_map_of_mem member)
    exact ⟨within, pairs, slice⟩

/-- Groups are found exactly if the text is balanced. -/
theorem series_all? (text : Text) :
    (∃ groups, all? text = some groups ∧ Series text groups) ∨
      (all? text = none ∧ ¬ Balanced (exposed text)) := by
  have standing : Scan.Standing text [] 0 .start text (cover false text) :=
    ⟨.start, rfl, rfl, rfl⟩
  rcases standing.decided with ⟨scan, found, nothing, reaches⟩ | unbalanced
  · exact .inl ⟨scan.groups, found, reaches.series nothing⟩
  · exact .inr unbalanced

section Lookup

variable {text : Text} {groups : List CaptureGroup} {group : CaptureGroup} {place : Nat}

theorem Series.index_eq (series : Series text groups) (there : groups[place]? = some group) :
    group.index = place + 1 := by
  obtain ⟨within, rfl⟩ := List.getElem?_eq_some_iff.mp there
  have listed := congrArg (fun list => list[place]?) series.indexes
  simpa [within, Nat.add_comm 1] using listed

theorem Series.exists_place (series : Series text groups) {number : Int}
    (found : groups.find? (fun group => (group.index : Int) == number) = some group) :
    ∃ place : Nat, number = place + 1 ∧ groups[place]? = some group := by
  obtain ⟨place, there⟩ := List.mem_iff_getElem?.mp (List.mem_of_find?_eq_some found)
  have same := List.find?_some found
  rw [beq_iff_eq, series.index_eq there] at same
  exact ⟨place, same.symm, there⟩

/-- A group is found by its place among all. -/
theorem Series.find?_eq_some_iff (series : Series text groups) (all : all? text = some groups)
    {number : Int} :
    find? text number = some group ↔
      ∃ place : Nat, number = place + 1 ∧ groups[place]? = some group := by
  rw [find?, all, Option.bind_some]
  refine ⟨series.exists_place, ?_⟩
  rintro ⟨place, rfl, there⟩
  cases found : groups.find? fun group => (group.index : Int) == place + 1 with
  | none =>
      have missed := List.find?_eq_none.mp found group (List.mem_of_getElem? there)
      rw [series.index_eq there] at missed
      exact absurd (beq_self_eq_true _) missed
  | some other =>
      -- The first group with the number stands at the same place, so it is the same group.
      obtain ⟨elsewhere, same, also⟩ := series.exists_place found
      obtain rfl : elsewhere = place := by omega
      rw [← also, there]

theorem Series.find?_isSome_iff (series : Series text groups) (all : all? text = some groups)
    (number : Int) :
    (find? text number).isSome = true ↔ 1 ≤ number ∧ number ≤ groups.length := by
  rw [Option.isSome_iff_exists]
  constructor
  · rintro ⟨group, found⟩
    obtain ⟨place, rfl, there⟩ := (series.find?_eq_some_iff all).mp found
    have within := (List.getElem?_eq_some_iff.mp there).1
    omega
  · rintro ⟨lower, upper⟩
    have within : number.toNat - 1 < groups.length := by omega
    exact ⟨groups[number.toNat - 1], (series.find?_eq_some_iff all).mpr
      ⟨number.toNat - 1, by omega, List.getElem?_eq_getElem within⟩⟩

end Lookup

/-- The groups of any text are consistent: they are numbered from one up to some count, each is the
text between two parentheses that belong together, and a group ends before the next one starts. The
count is that of the numbered groups if the text is balanced, and zero otherwise. -/
theorem find?_consistent (text : Text) :
    ∃ count : Nat,
      (∀ number, (find? text number).isSome = true ↔ 1 ≤ number ∧ number ≤ count) ∧
      (¬ Balanced (exposed text) → count = 0) ∧
      (Balanced (exposed text) → count = (openings text).length) ∧
      (∀ number group, find? text number = some group →
        group.index = number ∧ text[group.start]? = some '(' ∧ text[group.stop - 1]? = some ')' ∧
          group.text = (text.take (group.stop - 1)).drop (group.start + 1) ∧
          Pairs (exposed text) group.start group.stop ∧
          (openings text)[group.index - 1]? = some group.start) ∧
      ∀ number later first second, number < later → find? text number = some first →
        find? text later = some second → first.stop ≤ second.start := by
  rcases series_all? text with ⟨groups, all, series⟩ | ⟨nothing, unbalanced⟩
  · refine ⟨groups.length, series.find?_isSome_iff all, ?_, ?_, ?_, ?_⟩
    · exact fun unbalanced => absurd series.balanced unbalanced
    · rw [← series.starts, List.length_map]
      exact fun _ => rfl
    · intro number group found
      obtain ⟨place, rfl, there⟩ := (series.find?_eq_some_iff all).mp found
      obtain ⟨-, pairs, slice⟩ := series.placed group (List.mem_of_getElem? there)
      refine ⟨by rw [series.index_eq there]; rfl, getElem?_of_exposed pairs.opens (by decide),
        getElem?_of_exposed pairs.closes (by decide), slice, pairs, ?_⟩
      rw [series.index_eq there, Nat.add_sub_cancel, ← series.starts, List.getElem?_map, there]
      rfl
    · intro number later first second before foundFirst foundSecond
      obtain ⟨place, rfl, there⟩ := (series.find?_eq_some_iff all).mp foundFirst
      obtain ⟨next, rfl, also⟩ := (series.find?_eq_some_iff all).mp foundSecond
      obtain ⟨within, rfl⟩ := List.getElem?_eq_some_iff.mp there
      obtain ⟨nextWithin, rfl⟩ := List.getElem?_eq_some_iff.mp also
      exact List.pairwise_iff_getElem.mp series.apart place next within nextWithin (by omega)
  · have missing : ∀ number, find? text number = none := by
      intro number
      rw [find?, nothing, Option.bind_none]
    refine ⟨0, ?_, fun _ => rfl, fun balanced => absurd balanced unbalanced, ?_, ?_⟩
    · intro number
      rw [missing, Option.isSome_none]
      exact iff_of_false Bool.false_ne_true (by omega)
    · intro number group found
      rw [missing] at found
      cases found
    · intro number later first second _ found
      rw [missing] at found
      cases found

/-- In the first text a parenthesis stands in a class, another is escaped, and the second numbered
group has a group in it. The second text closes as many parentheses as it opens, but too early. -/
theorem find?_consistent_wrapped :
    Balanced (exposed "(?:(a[)])\\()?(b(c))".toList) ∧
      openings "(?:(a[)])\\()?(b(c))".toList = [3, 13] ∧
      (∀ number, (find? "(?:(a[)])\\()?(b(c))".toList number).isSome = true ↔
        1 ≤ number ∧ number ≤ 2) ∧
      ¬ Balanced (exposed "(a))((b)".toList) ∧
      ∀ number, find? "(a))((b)".toList number = none := by
  have balanced : Balanced (exposed "(?:(a[)])\\()?(b(c))".toList) := by decide
  have opened : openings "(?:(a[)])\\()?(b(c))".toList = [3, 13] := by decide
  have unbalanced : ¬ Balanced (exposed "(a))((b)".toList) := by decide
  obtain ⟨count, found, -, counted, -⟩ := find?_consistent "(?:(a[)])\\()?(b(c))".toList
  obtain ⟨nothing, missing, uncounted, -⟩ := find?_consistent "(a))((b)".toList
  refine ⟨balanced, opened, fun number => ?_, unbalanced, fun number => ?_⟩
  · rw [found, counted balanced, opened]
    rfl
  · rw [← Option.not_isSome_iff_eq_none, missing, uncounted unbalanced]
    omega

end ItemFilter.CaptureGroup
