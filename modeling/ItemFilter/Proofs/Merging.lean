/-
This file says that the rules of a grammar merge without loss and in order. The sections of the
catalog lie one behind the other, and a rule that is read a second time adds nothing.
-/

import ItemFilter.Console.Dump
import ItemFilter.Proofs.Declaration

namespace ItemFilter

namespace Catalog

theorem inSection_append (first second : Catalog) (category : Section) :
    inSection (first ++ second) category = first.inSection category ++ second.inSection category :=
  List.filter_append first second

theorem inSection_eq_self {catalog : Catalog} {category : Section}
    (all : ∀ command ∈ catalog, command.category = category) :
    catalog.inSection category = catalog :=
  List.filter_eq_self.mpr fun command member => beq_iff_eq.mpr (all command member)

theorem inSection_eq_nil {catalog : Catalog} {category : Section}
    (none : ∀ command ∈ catalog, command.category ≠ category) :
    catalog.inSection category = [] :=
  List.filter_eq_nil_iff.mpr fun command member same => none command member (beq_iff_eq.mp same)

/-- A catalog whose commands stand section by section is the row of its sections. -/
theorem flatMap_inSection {sections : List Section} (distinct : sections.Nodup)
    {parts : Section → List Section} (own : ∀ category, ∀ other ∈ parts category, other = category)
    {catalog : Catalog}
    (ordered : (catalog.map Command.category).Sublist (sections.flatMap parts)) :
    sections.flatMap catalog.inSection = catalog := by
  induction sections generalizing catalog with
  | nil => exact (List.map_eq_nil_iff.mp (List.sublist_nil.mp ordered)).symm
  | cons category rest ih =>
      obtain ⟨absent, distinct⟩ := List.nodup_cons.mp distinct
      rw [List.flatMap_cons, List.sublist_append_iff] at ordered
      obtain ⟨_, _, parted, inside, behind⟩ := ordered
      obtain ⟨first, later, rfl, rfl, rfl⟩ := List.map_eq_append_iff.mp parted
      have firstIn : ∀ command ∈ first, command.category = category := fun command member =>
        own category _ (inside.subset (List.mem_map_of_mem member))
      have laterIn : ∀ command ∈ later, command.category ∈ rest := by
        intro command member
        obtain ⟨other, listed, there⟩ :=
          List.mem_flatMap.mp (behind.subset (List.mem_map_of_mem member))
        rw [own other _ there]
        exact listed
      have here : inSection (first ++ later) category = first := by
        have none : ∀ command ∈ later, command.category ≠ category := fun command member same =>
          absent (same ▸ laterIn command member)
        rw [inSection_append, inSection_eq_self firstIn, inSection_eq_nil none, List.append_nil]
      have elsewhere : ∀ other ∈ rest,
          inSection (first ++ later) other = inSection later other := by
        intro other listed
        have none : ∀ command ∈ first, command.category ≠ other := fun command member same =>
          absent ((firstIn command member).symm.trans same ▸ listed)
        rw [inSection_append, inSection_eq_nil none, List.nil_append]
      rw [List.flatMap_cons, here, List.flatMap_congr elsewhere, ih distinct behind]

theorem foldl_register_of_covers {catalog : Catalog} {signatures : List Signature}
    {names : List Text} (covers : ∀ name ∈ names, catalog.Covers signatures name)
    (category : Section) : names.foldl (register category signatures) catalog = catalog := by
  induction names with
  | nil => rfl
  | cons name rest ih =>
      obtain ⟨first, later⟩ := List.forall_mem_cons.mp covers
      rw [List.foldl_cons, register_of_covers first, ih later]

theorem Covers.foldl_register {catalog : Catalog} {signatures : List Signature} {name : Text}
    (covers : catalog.Covers signatures name) (category : Section) (more : List Signature)
    (names : List Text) :
    (names.foldl (Catalog.register category more) catalog).Covers signatures name := by
  induction names generalizing catalog with
  | nil => exact covers
  | cons other rest ih => exact ih (covers.register category more other)

theorem covers_foldl_register (category : Section) (signatures : List Signature)
    (catalog : Catalog) {names : List Text} {name : Text} (member : name ∈ names) :
    (names.foldl (register category signatures) catalog).Covers signatures name := by
  induction names generalizing catalog with
  | nil => cases member
  | cons first rest ih =>
      rcases List.mem_cons.mp member with rfl | later
      · exact (covers_register category signatures catalog name).foldl_register _ _ rest
      · exact ih _ later

/-- The catalog holds all that the rule declares, if it declares anything. -/
def Knows [Host] (catalog : Catalog) (rule : Json) : Prop :=
  match Rule.read rule with
  | .ok (names, signatures) => ∀ name ∈ names, catalog.Covers signatures name
  | .error fault => fault.isPassedOver = true

end Catalog

namespace Grammar

/-- A rule that is known changes nothing in any section. -/
theorem addRule_of_knows [Host] {catalog : Catalog} {rule : Json} (knows : catalog.Knows rule)
    (category : Section) : addRule category catalog rule = .ok catalog := by
  unfold Catalog.Knows at knows
  unfold addRule
  cases read : Rule.read rule with
  | ok declared =>
      rw [read] at knows
      exact congrArg _ (Catalog.foldl_register_of_covers knows category)
  | error fault =>
      rw [read] at knows
      exact if_pos knows

theorem knows_of_addRule [Host] {category : Section} {catalog next : Catalog} {rule : Json}
    (added : addRule category catalog rule = .ok next) : next.Knows rule := by
  unfold Catalog.Knows
  rcases addRule_ok_cases added with ⟨names, signatures, read, rfl⟩ | ⟨fault, read, passed, rfl⟩
  · rw [read]
    exact fun name member => Catalog.covers_foldl_register category signatures catalog member
  · rw [read]
    exact passed

end Grammar

namespace Catalog

theorem Knows.addRule [Host] {category : Section} {catalog next : Catalog} {rule other : Json}
    (knows : catalog.Knows rule) (added : Grammar.addRule category catalog other = .ok next) :
    next.Knows rule := by
  rcases Grammar.addRule_ok_cases added with ⟨names, signatures, _, rfl⟩ | ⟨fault, _, _, rfl⟩
  · unfold Catalog.Knows at knows ⊢
    split at knows
    · exact fun name member => (knows name member).foldl_register category signatures names
    · exact knows
  · exact knows

theorem Knows.addRules [Host] {rules : List (Section × Json)} {catalog next : Catalog} {rule : Json}
    (knows : catalog.Knows rule) (added : Grammar.addRules rules catalog = .ok next) :
    next.Knows rule := by
  induction rules generalizing catalog with
  | nil => exact Except.ok.inj added ▸ knows
  | cons other rest ih =>
      rw [Grammar.addRules_cons] at added
      obtain ⟨middle, first, later⟩ := exists_of_bind_ok added
      exact ih (knows.addRule first) later

end Catalog

namespace Grammar

/-- All the rules that have been read are known. -/
theorem knows_of_addRules [Host] {rules : List (Section × Json)} {catalog next : Catalog}
    (added : addRules rules catalog = .ok next) {rule : Section × Json} (member : rule ∈ rules) :
    next.Knows rule.2 := by
  induction rules generalizing catalog with
  | nil => cases member
  | cons other rest ih =>
      rw [addRules_cons] at added
      obtain ⟨middle, first, later⟩ := exists_of_bind_ok added
      rcases List.mem_cons.mp member with rfl | behind
      · exact (knows_of_addRule first).addRules later
      · exact ih later behind

/-- The extended grammar has one rule more, at the end of a section. -/
def Adds (category : Section) (rule : Json) (grammar extended : Json) : Prop :=
  ∃ fields more, repository grammar = .ok fields ∧ repository extended = .ok more ∧
    ∀ other, sectionRules more other =
      sectionRules fields other ++ if other = category then [rule] else []

/-- The new rule is read behind those of its section and of the sections before it. -/
theorem rules_of_adds {category : Section} {rule : Json} {grammar extended : Json}
    (adds : Adds category rule grammar extended) {before after : List Section}
    (split : Section.all = before ++ category :: after) :
    ∃ earlier later, rules grammar = earlier ++ later ∧
      rules extended = earlier ++ (category, rule) :: later ∧
      ∀ known ∈ rules grammar, known.1 ∈ before ++ [category] → known ∈ earlier := by
  obtain ⟨fields, more, found, extendedFound, sections⟩ := adds
  have distinct : (before ++ category :: after).Nodup := split ▸ by decide
  let listed := fun category => (sectionRules fields category).map (category, ·)
  have elsewhere {others : List Section} (absent : category ∉ others) :
      others.flatMap (fun other => (sectionRules more other).map (other, ·)) =
        others.flatMap listed := by
    refine List.flatMap_congr fun other member => ?_
    have different : other ≠ category := fun same => absent (same ▸ member)
    rw [sections, if_neg different, List.append_nil]
  have absentBefore : category ∉ before := fun member =>
    (List.nodup_append.mp distinct).2.2 category member category List.mem_cons_self rfl
  have absentAfter : category ∉ after :=
    (List.nodup_cons.mp (List.nodup_append.mp distinct).2.1).1
  refine ⟨(before ++ [category]).flatMap listed, after.flatMap listed, ?_, ?_, ?_⟩
  · simp only [rules, found, split, listed]
    simp
  · simp only [rules, extendedFound]
    rw [split, List.flatMap_append, List.flatMap_cons, elsewhere absentBefore,
      elsewhere absentAfter, sections, if_pos rfl]
    simp [listed]
  · intro known member inside
    simp only [rules, found] at member
    obtain ⟨other, _, there⟩ := List.mem_flatMap.mp member
    refine List.mem_flatMap.mpr ⟨other, ?_, there⟩
    obtain ⟨_, _, rfl⟩ := List.mem_map.mp there
    exact inside

/-- A rule that has been read in the same section or in one before it adds nothing. -/
theorem build_of_adds [Host] {grammar extended : Json} {catalog : Catalog} {notices : List Notice}
    (built : build grammar = .ok (catalog, notices)) {category : Section} {rule : Json}
    (adds : Adds category rule grammar extended) {before after : List Section}
    (split : Section.all = before ++ category :: after) {earlier : Section}
    (inside : earlier ∈ before ++ [category]) (member : (earlier, rule) ∈ rules grammar) :
    build extended = .ok (catalog, notices) := by
  obtain ⟨front, back, parts, extendedParts, kept⟩ := rules_of_adds adds split
  obtain ⟨fields, more, found, extendedFound, _⟩ := adds
  have same : addRules (rules extended) [] = addRules (rules grammar) [] := by
    rw [parts, extendedParts, addRules_append, addRules_append]
    cases reading : addRules front [] with
    | error fault => rfl
    | ok middle =>
        have knows := knows_of_addRules reading (kept _ member inside)
        have skipped : addRules ((category, rule) :: back) middle = addRules back middle := by
          rw [addRules_cons, addRule_of_knows knows category]
          rfl
        exact skipped
  rw [build_of_repository extendedFound, same, ← build_of_repository found, built]

/-- The mentions of a grammar stand section by section. -/
theorem exists_parts [Host] (grammar : Json) :
    ∃ parts : Section → List Section,
      (∀ category, ∀ other ∈ parts category, other = category) ∧
        ((declarations grammar).flatMap Declaration.mentions).map (·.1.category) =
          Section.all.flatMap parts := by
  cases found : repository grammar with
  | error fault => exact ⟨fun _ => [], by simp, by simp [declarations, rules, found]⟩
  | ok fields =>
      refine ⟨fun category => ((((sectionRules fields category).map (category, ·)).filterMap
        Declaration.ofRule?).flatMap Declaration.mentions).map (·.1.category), ?_, ?_⟩
      · intro category other member
        obtain ⟨mention, listed, rfl⟩ := List.mem_map.mp member
        obtain ⟨declaration, declared, there⟩ := List.mem_flatMap.mp listed
        rw [((declaration.mem_mentions_iff mention).mp there).1]
        obtain ⟨rule, inside, read⟩ := List.mem_filterMap.mp declared
        obtain ⟨_, _, rfl⟩ := List.mem_map.mp inside
        exact Declaration.category_of_ofRule? read
      · simp only [declarations, rules, found, List.filterMap_flatMap, List.flatMap_assoc,
          List.map_flatMap]

end Grammar

/-- Under its heading, a section shows its commands. -/
theorem Console.Dump.tail_sectionLines (catalog : Catalog) (category : Section) :
    (sectionLines catalog category).tail = (catalog.inSection category).flatMap commandLines := by
  unfold sectionLines
  split
  · next empty => rw [empty]; rfl
  · rfl

namespace Grammar

/-- The first of the mentions of a name belongs to the first declaration of that name. -/
theorem find?_mentions {declarations : List Declaration} {name : Text}
    {mention : Declaration × Text}
    (found : (declarations.flatMap Declaration.mentions).find? (·.2 == name) = some mention) :
    declarations.find? (·.names.contains name) = some mention.1 := by
  induction declarations with
  | nil => cases found
  | cons declaration rest ih =>
      rw [List.flatMap_cons, List.find?_append] at found
      cases first : declaration.mentions.find? (·.2 == name) with
      | none =>
          have absent : declaration.names.contains name = false := by
            rw [← Bool.not_eq_true, List.contains_iff_mem]
            intro member
            have listed := (declaration.mem_mentions_iff (declaration, name)).mpr ⟨rfl, member⟩
            exact List.find?_eq_none.mp first _ listed (beq_self_eq_true name)
          rw [first, Option.none_or] at found
          rw [List.find?_cons, absent]
          exact ih found
      | some earliest =>
          rw [first, Option.some_or] at found
          obtain rfl := Option.some.inj found
          obtain ⟨own, named⟩ := (declaration.mem_mentions_iff earliest).mp
            (List.mem_of_find?_eq_some first)
          have same : earliest.2 = name := by simpa using List.find?_some first
          have present : declaration.names.contains name = true :=
            List.contains_iff_mem.mpr (same ▸ named)
          rw [List.find?_cons, present, own]

/-- The catalog of a grammar names what its rules declare, in the order in which the names first
occur. A command belongs to the section of the first rule that names it, whose signatures lead, and
has the signatures of all the rules that name it. Section behind section, the catalog is complete
and is shown complete. A rule that is read again, later in its section or in a later one, changes
nothing. -/
theorem build_merges [Host] {grammar : Json} {catalog : Catalog} {notices : List Notice}
    (built : build grammar = .ok (catalog, notices)) :
    catalog.names = ((declarations grammar).flatMap Declaration.names).eraseDups ∧
    catalog.names.Nodup ∧
    (∀ command ∈ catalog, ∃ first,
      (declarations grammar).find? (·.names.contains command.name) = some first ∧
      command.category = first.category ∧ first.signatures <+: command.signatures ∧
      ∀ signature, signature ∈ command.signatures ↔
        ∃ declaration ∈ declarations grammar,
          command.name ∈ declaration.names ∧ signature ∈ declaration.signatures) ∧
    Section.all.flatMap catalog.inSection = catalog ∧
    Section.all.flatMap (fun category => (Console.Dump.sectionLines catalog category).tail) =
      catalog.flatMap Console.Dump.commandLines ∧
    ∀ before category after, Section.all = before ++ category :: after →
      ∀ earlier ∈ before ++ [category], ∀ rule, (earlier, rule) ∈ rules grammar →
        ∀ extended, Adds category rule grammar extended →
          build extended = .ok (catalog, notices) := by
  have gathers := gathers_of_build built
  have complete : Section.all.flatMap catalog.inSection = catalog := by
    obtain ⟨parts, own, categories⟩ := exists_parts grammar
    exact Catalog.flatMap_inSection (by decide) own (categories ▸ gathers.categories)
  refine ⟨?_, gathers.distinct, fun command member => ?_, complete, ?_, ?_⟩
  · rw [gathers.names, List.map_flatMap]
    simp only [Declaration.map_mentions]
  · have found := Catalog.find?_of_mem gathers.distinct member
    obtain ⟨mention, earliest, category, leads⟩ := gathers.first found
    refine ⟨mention.1, find?_mentions earliest, category, leads, fun signature => ?_⟩
    rw [gathers.signatures found]
    constructor
    · rintro ⟨other, listed, named, signed⟩
      obtain ⟨declaration, declared, there⟩ := List.mem_flatMap.mp listed
      obtain ⟨own, inside⟩ := (declaration.mem_mentions_iff other).mp there
      exact ⟨declaration, declared, named ▸ inside, own ▸ signed⟩
    · rintro ⟨declaration, declared, named, signed⟩
      have listed := (declaration.mem_mentions_iff (declaration, command.name)).mpr ⟨rfl, named⟩
      exact ⟨_, List.mem_flatMap.mpr ⟨declaration, declared, listed⟩, rfl, signed⟩
  · simp only [Console.Dump.tail_sectionLines]
    rw [← List.flatMap_assoc, complete]
  · intro before category after split earlier inside rule member extended adds
    exact build_of_adds built adds split inside member

/-- The second rule names a known command and gives it a second signature. The first rule may be
read once more, as an action. -/
theorem build_merges_aliases :
    let aliases : Json := .object [("match".toList, .string "^(Show|Hide)$".toList)]
    let capture : Json := .object [("name".toList, .string "constant.numeric".toList)]
    let pattern : Json := .object [("match".toList, .string "(\\d+)".toList),
      ("captures".toList, .object [("1".toList, capture)])]
    let counted : Json := .object [("begin".toList, .string "(Hide|Minimal|Hide)".toList),
      ("patterns".toList, .array [pattern])]
    let grammar (actions : List Json) : Json := .object [("repository".toList,
      .object [("actions".toList, .array actions),
        ("blocks".toList, .object [("patterns".toList, .array [aliases])])])]
    ∃ catalog,
      build (grammar [counted]) = .ok (catalog, []) ∧
      build (grammar [counted, aliases]) = .ok (catalog, []) ∧
      catalog.names = ["Show".toList, "Hide".toList, "Minimal".toList] ∧
      catalog.map Command.category = [.blocks, .blocks, .actions] ∧
      catalog.map (·.signatures.length) = [1, 2, 1] ∧
      Section.all.flatMap catalog.inSection = catalog := by
  intro aliases capture pattern counted grammar
  have built : ∃ catalog, build (grammar [counted]) = .ok (catalog, []) ∧
      catalog.map Command.category = [.blocks, .blocks, .actions] ∧
      catalog.map (·.signatures.length) = [1, 2, 1] := by
    refine ⟨_, by with_unfolding_all rfl, by with_unfolding_all rfl, by with_unfolding_all rfl⟩
  obtain ⟨catalog, built, categories, lengths⟩ := built
  obtain ⟨names, _, _, complete, _, again⟩ := build_merges built
  have adds : Adds .actions aliases (grammar [counted]) (grammar [counted, aliases]) := by
    refine ⟨_, _, rfl, rfl, fun other => ?_⟩
    cases other <;> rfl
  refine ⟨catalog, built, ?_, ?_, categories, lengths, complete⟩
  · exact again [.blocks, .controlFlow, .conditions] .actions [] rfl .blocks (by decide) aliases
      List.mem_cons_self _ adds
  · rw [names]
    with_unfolding_all rfl

end Grammar

end ItemFilter
