/-
This file says when a command of a grammar has the same signature twice. Only the rule that names
the command first can bring that about: what later rules add is compared with all that is there.
-/

import ItemFilter.Proofs.Merging

namespace ItemFilter

namespace Signature

/-- Something other than the matchers tells the signatures apart. -/
def Differ (left right : Signature) : Prop :=
  left.same right = false

theorem same_comm (left right : Signature) : left.same right = right.same left := by
  induction left generalizing right with
  | nil => cases right <;> rfl
  | cons parameter rest ih =>
      cases right with
      | nil => rfl
      | cons other others =>
          have turned : parameter.same other = other.same parameter := by
            simp only [Parameter.same, Bool.beq_comm]
          rw [same, same, turned, ih]

end Signature

namespace Command

/-- A command keeps its signatures. Those that it gains differ from these and from each other. -/
theorem exists_gained (command : Command) (signatures : List Signature) :
    ∃ gained, (command.merge signatures).signatures = command.signatures ++ gained ∧
      gained.Pairwise Signature.Differ ∧
      ∀ own ∈ command.signatures, ∀ new ∈ gained, own.Differ new := by
  induction signatures generalizing command with
  | nil => exact ⟨[], (List.append_nil _).symm, .nil, fun _ _ => List.forall_mem_nil _⟩
  | cons signature rest ih =>
      rw [merge_cons]
      split
      · exact ih command
      · next new =>
          obtain ⟨gained, parts, apart, across⟩ :=
            ih { command with signatures := command.signatures ++ [signature] }
          obtain ⟨fromOwn, fromNew⟩ := List.forall_mem_append.mp across
          refine ⟨signature :: gained, by rw [parts, List.append_assoc]; rfl, ?_, ?_⟩
          · exact List.pairwise_cons.mpr ⟨fromNew signature List.mem_cons_self, apart⟩
          · intro own member
            refine List.forall_mem_cons.mpr ⟨?_, fromOwn own member⟩
            rw [Bool.not_eq_true, hasSignature, List.any_eq_false] at new
            rw [Signature.Differ, Signature.same_comm]
            exact eq_false_of_ne_true (new own member)

theorem merge_append (command : Command) (first second : List Signature) :
    command.merge (first ++ second) = (command.merge first).merge second := by
  unfold merge
  rw [List.foldl_append]

end Command

namespace Catalog

/-- The signatures that the mentions of a name declare. -/
def signaturesFor (name : Text) (mentions : List (Declaration × Text)) : List Signature :=
  (mentions.filter (·.2 == name)).flatMap (·.1.signatures)

theorem signaturesFor_cons (name : Text) (mention : Declaration × Text)
    (rest : List (Declaration × Text)) :
    signaturesFor name (mention :: rest) =
      (if mention.2 = name then mention.1.signatures else []) ++ signaturesFor name rest := by
  by_cases same : mention.2 = name <;> simp [signaturesFor, same]

/-- A known command merges all that is mentioned under its name. -/
theorem find?_foldl_of_known {catalog : Catalog} {name : Text} {known : Command}
    (found : catalog.find? name = some known) (mentions : List (Declaration × Text)) :
    (mentions.foldl Catalog.mention catalog).find? name =
      some (known.merge (signaturesFor name mentions)) := by
  induction mentions generalizing catalog known with
  | nil => exact found
  | cons mention rest ih =>
      have step : (catalog.mention mention).find? name =
          some (known.merge (if mention.2 = name then mention.1.signatures else [])) := by
        rw [Catalog.mention, find?_register]
        split
        · next same => rw [declared, same, found]
        · exact found
      rw [List.foldl_cons, ih step, signaturesFor_cons, Command.merge_append]

/-- A name that is not mentioned stays unknown. -/
theorem find?_foldl_of_unmentioned {mentions : List (Declaration × Text)} {name : Text}
    (unmentioned : ∀ mention ∈ mentions, mention.2 ≠ name) (catalog : Catalog) :
    (mentions.foldl Catalog.mention catalog).find? name = catalog.find? name := by
  induction mentions generalizing catalog with
  | nil => rfl
  | cons mention rest ih =>
      obtain ⟨first, later⟩ := List.forall_mem_cons.mp unmentioned
      rw [List.foldl_cons, ih later, Catalog.mention, find?_register, if_neg first]

/-- The command of a name starts with its first mention and merges the later ones. -/
theorem find?_foldl_mention {before after : List (Declaration × Text)}
    {mention : Declaration × Text} (first : ∀ earlier ∈ before, earlier.2 ≠ mention.2) :
    ((before ++ mention :: after).foldl Catalog.mention []).find? mention.2 =
      some (Command.merge ⟨mention.2, mention.1.category, mention.1.signatures⟩
        (signaturesFor mention.2 after)) := by
  have unknown : (before.foldl Catalog.mention []).find? mention.2 = none :=
    find?_foldl_of_unmentioned first []
  rw [List.foldl_append, List.foldl_cons]
  apply find?_foldl_of_known
  rw [Catalog.mention, find?_register, if_pos rfl, declared, unknown]

end Catalog

namespace Rule

/-- A rule reads no two of its patterns as the same signature. -/
def ReadsApart [Host] (rule : Json) : Prop :=
  (patternsOf rule).Pairwise fun left right =>
    ∀ first second, readSignature left = .ok first → readSignature right = .ok second →
      first.Differ second

/-- A rule declares signatures that differ exactly if it reads its patterns apart. -/
theorem pairwise_signaturesOf_iff [Host] (rule : Json) :
    (signaturesOf rule).Pairwise Signature.Differ ↔ ReadsApart rule := by
  have readable : ((patternsOf rule).filterMap fun pattern =>
      (readSignature pattern).toOption).Pairwise Signature.Differ ↔ ReadsApart rule := by
    rw [ReadsApart, List.pairwise_filterMap]
    simp only [toOption_eq_some_iff]
    constructor <;> refine List.Pairwise.imp fun apart => ?_
    · exact fun first second readFirst readSecond => apart first readFirst second readSecond
    · exact fun first readFirst second readSecond => apart first second readFirst readSecond
  rw [← readable, signaturesOf]
  split
  · next none =>
      rw [List.isEmpty_iff.mp none]
      exact iff_of_true (List.pairwise_singleton _ _) .nil
  · rfl

end Rule

namespace Grammar

/-- The rule can be read and names the command. -/
def declares [Host] (name : Text) (rule : Section × Json) : Bool :=
  (Declaration.ofRule? rule).any (·.names.contains name)

/-- The first declaration of a name comes out of the first rule that names it. -/
theorem exists_rule_of_find? [Host] {grammar : Json} {name : Text} {first : Declaration}
    (found : (declarations grammar).find? (·.names.contains name) = some first) :
    ∃ rule, (rules grammar).find? (declares name) = some rule ∧
      Declaration.ofRule? rule = some first := by
  rw [declarations, List.find?_filterMap] at found
  exact Option.bind_eq_some_iff.mp found

/-- A command starts as its first declaration has it and merges what is declared for it later. -/
theorem exists_merge_of_mem [Host] {grammar : Json} {catalog : Catalog} {notices : List Notice}
    (built : build grammar = .ok (catalog, notices)) {command : Command}
    (member : command ∈ catalog) :
    ∃ first later, (declarations grammar).find? (·.names.contains command.name) = some first ∧
      command = Command.merge ⟨command.name, first.category, first.signatures⟩ later := by
  have gathers := gathers_of_build built
  have found := Catalog.find?_of_mem gathers.distinct member
  obtain ⟨mention, earliest, -⟩ := gathers.first found
  obtain ⟨named, before, after, split, unnamed⟩ := List.find?_eq_some_iff_append.mp earliest
  have name : mention.2 = command.name := beq_iff_eq.mp named
  have first : ∀ earlier ∈ before, earlier.2 ≠ mention.2 := by
    intro earlier listed same
    have other := unnamed earlier listed
    rw [same, named] at other
    cases other
  refine ⟨mention.1, Catalog.signaturesFor mention.2 after, find?_mentions earliest, ?_⟩
  rw [mentions_of_addRules (addRules_of_build built), ← declarations, split, ← name,
    Catalog.find?_foldl_mention first] at found
  rw [← name]
  exact (Option.some.inj found).symm

/-- A command of a grammar has the signatures of the rule that names it first and those that it
gains from later rules. The latter differ from the former and from each other, so no signature comes
twice exactly if the first rule reads no two of its patterns as the same signature. -/
theorem build_differ_iff [Host] {grammar : Json} {catalog : Catalog} {notices : List Notice}
    (built : build grammar = .ok (catalog, notices)) :
    ∀ command ∈ catalog, ∃ rule first gained,
      (rules grammar).find? (declares command.name) = some rule ∧
      Declaration.ofRule? rule = some first ∧
      command.signatures = first.signatures ++ gained ∧
      gained.Pairwise Signature.Differ ∧
      (∀ own ∈ first.signatures, ∀ new ∈ gained, own.Differ new) ∧
      (command.signatures.Pairwise Signature.Differ ↔ Rule.ReadsApart rule.2) := by
  intro command member
  obtain ⟨first, later, found, merged⟩ := exists_merge_of_mem built member
  obtain ⟨rule, earliest, read⟩ := exists_rule_of_find? found
  obtain ⟨gained, parts, apart, across⟩ :=
    Command.exists_gained ⟨command.name, first.category, first.signatures⟩ later
  rw [← merged] at parts
  refine ⟨rule, first, gained, earliest, read, parts, apart, across, ?_⟩
  rw [parts, List.pairwise_append, ← Rule.pairwise_signaturesOf_iff,
    ← Rule.signatures_of_read (Declaration.read_of_ofRule? read)]
  exact and_iff_left ⟨apart, across⟩

/-- The second rule repeats the pattern of the first one and has another one twice. -/
theorem build_differ_iff_twoRules :
    let pattern (expression : String) : Json := .object [("match".toList, .string expression.toList),
      ("captures".toList, .object [("1".toList, .null)])]
    let rule (patterns : List Json) : Json := .object [("begin".toList, .string "(Drop)".toList),
      ("patterns".toList, .array patterns)]
    let first := rule [pattern "(a)"]
    let second := rule [pattern "(b)", pattern "(a)", pattern "(b)"]
    let grammar : Json := .object [("repository".toList,
      .object [("actions".toList, .array [first, second])])]
    ∃ catalog command, build grammar = .ok (catalog, []) ∧ command ∈ catalog ∧
      command.signatures.map (·.map Parameter.pattern) =
        [[some "a".toList], [some "b".toList]] ∧
      command.signatures.Pairwise Signature.Differ := by
  intro pattern rule first second grammar
  have built : ∃ signatures, build grammar = .ok ([⟨"Drop".toList, .actions, signatures⟩], []) ∧
      signatures.map (·.map Parameter.pattern) = [[some "a".toList], [some "b".toList]] :=
    ⟨_, by with_unfolding_all rfl, by with_unfolding_all rfl⟩
  obtain ⟨signatures, built, patterns⟩ := built
  obtain ⟨leader, -, -, found, -, -, -, -, apart⟩ := build_differ_iff built _ List.mem_cons_self
  have leads : (rules grammar).find? (declares "Drop".toList) = some (.actions, first) := by
    with_unfolding_all rfl
  obtain rfl := Option.some.inj (found.symm.trans leads)
  refine ⟨_, _, built, List.mem_cons_self, patterns, apart.mpr ?_⟩
  have alone : (Rule.patternsOf first).length = 1 := by
    with_unfolding_all rfl
  obtain ⟨own, single⟩ := List.length_eq_one_iff.mp alone
  rw [Rule.ReadsApart, single]
  exact List.pairwise_singleton _ _

/-- A rule that has a pattern twice gives the signature twice. -/
theorem build_of_equal_patterns :
    let capture : Json := .object [("name".toList, .string "constant.numeric".toList)]
    let pattern : Json := .object [("match".toList, .string "(\\d+)".toList),
      ("captures".toList, .object [("1".toList, capture)])]
    let rule : Json := .object [("begin".toList, .string "(Drop)".toList),
      ("patterns".toList, .array [pattern, pattern])]
    let grammar : Json := .object [("repository".toList,
      .object [("actions".toList, .array [rule])])]
    ∃ signature, build grammar =
        .ok ([⟨"Drop".toList, .actions, [signature, signature]⟩], []) ∧
      ¬ [signature, signature].Pairwise Signature.Differ := by
  intro capture pattern rule grammar
  refine ⟨_, by with_unfolding_all rfl, fun apart => ?_⟩
  have differs := List.rel_of_pairwise_cons apart List.mem_cons_self
  rw [Signature.Differ, Signature.same_self] at differs
  cases differs

end Grammar

end ItemFilter
