/-
This file says what the catalog of a grammar holds. The rules that can be read declare commands, and
the catalog gathers all that they declare: no name twice, each in the section of the first rule that
names it, with the signatures of all the rules that name it.
-/

import ItemFilter.Proofs.Catalog
import ItemFilter.Proofs.Construction

namespace ItemFilter

/-- What a rule that can be read declares in its section. -/
structure Declaration where
  category : Section
  names : List Text
  signatures : List Signature

namespace Declaration

def ofRule? [Host] (rule : Section × Json) : Option Declaration :=
  match Rule.read rule.2 with
  | .ok (names, signatures) => some ⟨rule.1, names, signatures⟩
  | .error _ => none

/-- The names come out of one expression, and all the signatures can be used. -/
structure WellFormed [Host] (declaration : Declaration) : Prop where
  extracted : ∃ expression, declaration.names = CommandName.extract expression
  signed : declaration.signatures ≠ []
  compiled : ∀ signature ∈ declaration.signatures, signature.Compiled

/-- Each name of the declaration by itself. -/
def mentions (declaration : Declaration) : List (Declaration × Text) :=
  declaration.names.map (declaration, ·)

theorem mem_mentions_iff (declaration : Declaration) (mention : Declaration × Text) :
    mention ∈ declaration.mentions ↔ mention.1 = declaration ∧ mention.2 ∈ declaration.names := by
  constructor
  · intro member
    obtain ⟨name, named, rfl⟩ := List.mem_map.mp member
    exact ⟨rfl, named⟩
  · rintro ⟨rfl, named⟩
    exact List.mem_map_of_mem named

theorem map_mentions (declaration : Declaration) :
    declaration.mentions.map (·.2) = declaration.names := by
  rw [mentions, List.map_map]
  exact List.map_id _

end Declaration

namespace Rule

/-- A parameter comes out of a group of the expression and of the capture for it. -/
theorem exists_parameterOf [Host] {expression : Text} {captures : Fields} {index : Nat}
    {parameter : Parameter} (read : readParameter expression captures index = .ok parameter) :
    ∃ group capture, CaptureGroup.find? expression index = some group ∧
      captures.lookup (Text.ofNat index) = some capture ∧
      parameterOf group capture = .ok parameter := by
  cases found : CaptureGroup.find? expression index with
  | none => simp [readParameter, found] at read
  | some group =>
      cases listed : captures.lookup (Text.ofNat index) with
      | none => simp [readParameter, found, listed] at read
      | some capture =>
          simp only [readParameter, found, listed] at read
          refine ⟨group, capture, rfl, rfl, ?_⟩
          cases made : parameterOf group capture with
          | error fault =>
              rw [made] at read
              cases read
          | ok parameter =>
              rw [made] at read
              cases read
              rfl

/-- A signature is read from the numbered captures of a pattern. -/
theorem readSignature_eq_ok_iff [Host] (pattern : Fields) (signature : Signature) :
    readSignature pattern = .ok signature ↔
      ∃ expression captures indexes,
        (Json.field pattern "match".toList).text? = some expression ∧
        (Json.field pattern "captures".toList).fields? = some captures ∧
        captureIndexes captures = .ok indexes ∧ indexes ≠ [] ∧
        indexes.mapM (readParameter expression captures) = .ok signature := by
  constructor
  · intro read
    unfold readSignature at read
    split at read
    · next expression captures matched listed =>
        split at read
        · cases read
        · cases read
        · next indexes some numbers =>
            exact ⟨expression, captures, indexes, matched, listed, numbers, some, read⟩
    · cases read
  · rintro ⟨expression, captures, indexes, matched, listed, numbers, some, read⟩
    obtain ⟨first, rest, rfl⟩ := List.exists_cons_of_ne_nil some
    rw [readSignature, matched, listed]
    dsimp only
    rw [numbers]
    exact read

theorem exists_readParameter [Host] {pattern : Fields} {signature : Signature}
    (read : readSignature pattern = .ok signature) {parameter : Parameter}
    (member : parameter ∈ signature) :
    ∃ expression captures index, readParameter expression captures index = .ok parameter := by
  obtain ⟨expression, captures, indexes, -, -, -, -, read⟩ :=
    (readSignature_eq_ok_iff pattern signature).mp read
  have listed : Except.ok parameter ∈ signature.map (.ok : Parameter → Except RuleFault _) :=
    List.mem_map_of_mem member
  rw [← map_of_mapM_ok read] at listed
  obtain ⟨index, -, found⟩ := List.mem_map.mp listed
  exact ⟨expression, captures, index, found⟩

theorem compiled_of_parameterOf [Host] {group : CaptureGroup} {capture : Json}
    {parameter : Parameter} (made : parameterOf group capture = .ok parameter) :
    parameter.Compiled ∧ parameter.choices = parameter.pattern.bind Matcher.choices? := by
  obtain ⟨matcher, compiled, same⟩ := exists_of_bind_ok made
  obtain rfl := Except.ok.inj same
  refine ⟨⟨group.text, matcher, rfl, rfl, compiled⟩, ?_⟩
  simp only [Option.bind_some]

theorem compiled_of_readSignature [Host] {pattern : Fields} {signature : Signature}
    (read : readSignature pattern = .ok signature) : signature.Compiled := by
  intro parameter member
  obtain ⟨expression, captures, index, found⟩ := exists_readParameter read member
  obtain ⟨group, capture, -, -, made⟩ := exists_parameterOf found
  exact (compiled_of_parameterOf made).1

theorem readable_eq [Host] (patterns : List Json) :
    readable patterns =
      (patterns.filterMap Json.fields?).filterMap fun pattern =>
        (readSignature pattern).toOption := by
  rw [List.filterMap_filterMap]
  rfl

theorem compiled_of_readSignatures [Host] {patterns : List Json} {signatures : List Signature}
    (read : readSignatures patterns = .ok signatures) :
    ∀ signature ∈ signatures, signature.Compiled := by
  rcases readSignatures_cases patterns with ⟨_, fault, fails, _⟩ | ⟨_, ok⟩
  · rw [fails] at read
    cases read
  · rw [ok] at read
    obtain rfl := Except.ok.inj read
    intro signature member
    rw [readable_eq] at member
    obtain ⟨pattern, -, result⟩ := List.mem_filterMap.mp member
    exact compiled_of_readSignature ((toOption_eq_some_iff _ _).mp result)

theorem eq_extract_of_readNames {expression : Text} {names : List Text}
    (read : readNames expression = .ok names) : names = CommandName.extract expression := by
  rw [readNames_eq] at read
  split at read
  · cases read
  · exact (Except.ok.inj read).symm

/-- Whatever a rule declares is well formed. -/
theorem wellFormed_of_read [Host] {rule : Json} {names : List Text} {signatures : List Signature}
    (ok : read rule = .ok (names, signatures)) (category : Section) :
    Declaration.WellFormed ⟨category, names, signatures⟩ := by
  have plain : ∀ signature ∈ ([[]] : List Signature), signature.Compiled := by
    simp [Signature.Compiled]
  have reading := read_of_form? rule
  split at reading
  · obtain ⟨fault, fails, _⟩ := reading
    rw [ok] at fails
    cases fails
  · next expression patterns _ =>
      rw [ok] at reading
      split at reading
      · cases reading
      · obtain ⟨found, named, reading⟩ := exists_of_bind_ok reading.symm
        obtain ⟨signed, read, reading⟩ := exists_of_bind_ok reading
        cases reading
        refine ⟨⟨expression, eq_extract_of_readNames named⟩, ?_, ?_⟩
        · cases signed <;> simp
        · cases signed with
          | nil => exact plain
          | cons signature rest => exact compiled_of_readSignatures read
  · next expression _ =>
      rw [ok] at reading
      obtain ⟨found, named, reading⟩ := exists_of_bind_ok reading.symm
      cases reading
      exact ⟨⟨expression, eq_extract_of_readNames named⟩, by simp, plain⟩

theorem declaration?_of_read [Host] {rule : Json} {declared : List Text × List Signature}
    (ok : read rule = .ok declared) : declaration? rule = some declared := by
  rcases read_cases rule with ⟨-, fault, fails, -⟩ | ⟨-, reading⟩
  · rw [fails] at ok
    cases ok
  · cases found : declaration? rule with
    | none =>
        rw [found] at reading
        obtain ⟨fault, fails, -⟩ := reading
        rw [ok] at fails
        cases fails
    | some other =>
        rw [found] at reading
        rw [Except.ok.inj (ok.symm.trans reading)]

/-- The patterns of a rule that begins a command. -/
def patternsOf (rule : Json) : List Fields :=
  match form? rule with
  | some (.begun _ patterns) => patterns.filterMap Json.fields?
  | some (.matched _) | none => []

/-- The signatures that a rule declares: those of its patterns that can be read, or the empty one if
there are none. -/
def signaturesOf [Host] (rule : Json) : List Signature :=
  let signatures := (patternsOf rule).filterMap fun pattern => (readSignature pattern).toOption
  if signatures.isEmpty then [[]] else signatures

theorem signatures_of_read [Host] {rule : Json} {names : List Text} {signatures : List Signature}
    (ok : read rule = .ok (names, signatures)) : signatures = signaturesOf rule := by
  have declared := declaration?_of_read ok
  unfold declaration? at declared
  unfold signaturesOf patternsOf
  cases found : form? rule with
  | none =>
      rw [found] at declared
      cases declared
  | some form =>
      rw [found] at declared
      cases form with
      | begun expression patterns =>
          dsimp only at declared ⊢
          rw [← readable_eq]
          split at declared
          · cases declared
          · exact (Prod.mk.inj (Option.some.inj declared)).2.symm
      | matched expression =>
          dsimp only at declared
          split at declared
          · cases declared
          · exact (Prod.mk.inj (Option.some.inj declared)).2.symm

end Rule

theorem Declaration.read_of_ofRule? [Host] {rule : Section × Json} {declaration : Declaration}
    (found : ofRule? rule = some declaration) :
    Rule.read rule.2 = .ok (declaration.names, declaration.signatures) := by
  unfold ofRule? at found
  split at found
  · next read =>
      cases found
      exact read
  · cases found

theorem Declaration.category_of_ofRule? [Host] {rule : Section × Json} {declaration : Declaration}
    (found : ofRule? rule = some declaration) : declaration.category = rule.1 := by
  unfold ofRule? at found
  split at found
  · cases found
    rfl
  · cases found

theorem Declaration.wellFormed_of_ofRule? [Host] {rule : Section × Json} {declaration : Declaration}
    (found : ofRule? rule = some declaration) : declaration.WellFormed := by
  unfold ofRule? at found
  split at found
  · next read =>
      cases found
      exact Rule.wellFormed_of_read read rule.1
  · cases found

/-- A mention registers the name with the signatures that are declared for it. -/
def Catalog.mention (catalog : Catalog) (mention : Declaration × Text) : Catalog :=
  catalog.register mention.1.category mention.1.signatures mention.2

namespace Catalog

/-- The catalog holds what is mentioned and nothing else. -/
structure Gathers (catalog : Catalog) (mentions : List (Declaration × Text)) : Prop where
  distinct : catalog.names.Nodup
  names : catalog.names = (mentions.map (·.2)).eraseDups
  categories : (catalog.map Command.category).Sublist (mentions.map (·.1.category))
  first : ∀ {name command}, catalog.find? name = some command →
    ∃ mention, mentions.find? (·.2 == name) = some mention ∧
      command.category = mention.1.category ∧ mention.1.signatures <+: command.signatures
  signatures : ∀ {name command}, catalog.find? name = some command → ∀ signature,
    signature ∈ command.signatures ↔
      ∃ mention ∈ mentions, mention.2 = name ∧ signature ∈ mention.1.signatures

theorem gathers_nil : Gathers [] [] :=
  ⟨List.nodup_nil, rfl, .slnil, nofun, nofun⟩

theorem names_mention (catalog : Catalog) (mention : Declaration × Text) :
    (catalog.mention mention).names =
      catalog.names ++ if mention.2 ∈ catalog.names then [] else [mention.2] :=
  map_register Command.name (fun _ _ => rfl) _ _ catalog mention.2

/-- A mention leaves a command as it is, adds it or merges its signatures. -/
theorem find?_mention_cases {catalog : Catalog} {mention : Declaration × Text} {name : Text}
    {command : Command} (found : (catalog.mention mention).find? name = some command) :
    (mention.2 ≠ name ∧ catalog.find? name = some command) ∨
      (mention.2 = name ∧ catalog.find? name = none ∧
        command = ⟨name, mention.1.category, mention.1.signatures⟩) ∨
      (mention.2 = name ∧ ∃ known, catalog.find? name = some known ∧
        command = known.merge mention.1.signatures) := by
  rw [Catalog.mention, find?_register] at found
  split at found
  · next same =>
      obtain rfl := Option.some.inj found
      rw [same]
      unfold declared
      cases older : catalog.find? name with
      | none => exact .inr (.inl ⟨rfl, rfl, rfl⟩)
      | some known => exact .inr (.inr ⟨rfl, known, rfl, rfl⟩)
  · next other => exact .inl ⟨other, found⟩

namespace Gathers

variable {catalog : Catalog} {mentions : List (Declaration × Text)}

theorem mem_names_iff (gathers : catalog.Gathers mentions) (name : Text) :
    name ∈ catalog.names ↔ ∃ mention ∈ mentions, mention.2 = name := by
  rw [gathers.names, List.mem_eraseDups, List.mem_map]

/-- A command that is new is mentioned for the first time. -/
theorem find?_eq_none (gathers : catalog.Gathers mentions) {name : Text}
    (new : catalog.find? name = none) : mentions.find? (·.2 == name) = none := by
  rw [find?_eq_none_iff, gathers.mem_names_iff] at new
  refine List.find?_eq_none.mpr fun mention member named => new ⟨mention, member, ?_⟩
  exact beq_iff_eq.mp named

/-- One mention more is gathered as well. -/
theorem mention [Host] (gathers : catalog.Gathers mentions) (latest : Declaration × Text)
    (compiled : ∀ mention ∈ mentions ++ [latest], ∀ signature ∈ mention.1.signatures,
      signature.Compiled) : (catalog.mention latest).Gathers (mentions ++ [latest]) where
  distinct := by
    rw [names_mention]
    split
    · simpa using gathers.distinct
    · next new =>
        rw [List.nodup_append]
        refine ⟨gathers.distinct, by simp, fun name known other here same => new ?_⟩
        rw [← List.mem_singleton.mp here, ← same]
        exact known
  names := by
    rw [names_mention, List.map_append, List.eraseDups_append, ← gathers.names]
    have known : latest.2 ∈ catalog.names ↔ latest.2 ∈ mentions.map (·.2) := by
      rw [gathers.names, List.mem_eraseDups]
    by_cases present : latest.2 ∈ mentions.map (·.2)
    · rw [if_pos (known.mpr present)]
      simp [List.removeAll, present]
    · rw [if_neg (mt known.mp present)]
      simp [List.removeAll, present, List.eraseDups_cons]
  categories := by
    rw [Catalog.mention, map_register Command.category fun _ _ => rfl, List.map_append]
    refine gathers.categories.append ?_
    split
    · exact List.nil_sublist _
    · exact List.Sublist.refl _
  first := by
    intro name command found
    rw [List.find?_append]
    rcases find?_mention_cases found with
      ⟨_, kept⟩ | ⟨rfl, new, rfl⟩ | ⟨rfl, known, older, rfl⟩
    · obtain ⟨mention, earliest, rest⟩ := gathers.first kept
      exact ⟨mention, by rw [earliest, Option.some_or], rest⟩
    · rw [gathers.find?_eq_none new]
      exact ⟨latest, by simp, rfl, List.prefix_rfl⟩
    · obtain ⟨mention, earliest, category, leads⟩ := gathers.first older
      refine ⟨mention, ?_, category, leads.trans (known.prefix_merge _)⟩
      rw [earliest, Option.some_or]
  signatures := by
    intro name command found signature
    have parts : (∃ mention ∈ mentions ++ [latest],
          mention.2 = name ∧ signature ∈ mention.1.signatures) ↔
        (∃ mention ∈ mentions, mention.2 = name ∧ signature ∈ mention.1.signatures) ∨
          latest.2 = name ∧ signature ∈ latest.1.signatures := by
      simp only [List.mem_append, List.mem_singleton, or_and_right, exists_or, exists_eq_left]
    rw [parts]
    rcases find?_mention_cases found with
      ⟨other, kept⟩ | ⟨rfl, new, rfl⟩ | ⟨rfl, known, older, rfl⟩
    · rw [gathers.signatures kept]
      simp [other]
    · have unnamed := List.find?_eq_none.mp (gathers.find?_eq_none new)
      constructor
      · exact fun member => .inr ⟨rfl, member⟩
      · rintro (⟨mention, member, named, _⟩ | ⟨_, member⟩)
        · exact absurd (beq_iff_eq.mpr named) (unnamed mention member)
        · exact member
    · have own : ∀ signature ∈ known.signatures, signature.Compiled := by
        intro other member
        obtain ⟨mention, listed, _, declared⟩ := (gathers.signatures older other).mp member
        exact compiled mention (List.mem_append_left _ listed) other declared
      have more := compiled latest (List.mem_append_right _ List.mem_cons_self)
      rw [Command.mem_merge_iff own more, gathers.signatures older]
      simp

/-- So are all the mentions of a list, one after the other. -/
theorem foldl [Host] (gathers : catalog.Gathers mentions) (more : List (Declaration × Text))
    (compiled : ∀ mention ∈ mentions ++ more, ∀ signature ∈ mention.1.signatures,
      signature.Compiled) : (more.foldl Catalog.mention catalog).Gathers (mentions ++ more) := by
  induction more generalizing catalog mentions with
  | nil => rwa [List.append_nil]
  | cons latest rest ih =>
      have parts : mentions ++ latest :: rest = mentions ++ [latest] ++ rest := by simp
      rw [parts] at compiled ⊢
      exact ih (gathers.mention latest fun mention member =>
        compiled mention (List.mem_append_left _ member)) compiled

end Gathers

end Catalog

namespace Grammar

/-- The declarations of the rules that can be read, in the order of the rules. -/
def declarations [Host] (grammar : Json) : List Declaration :=
  (rules grammar).filterMap Declaration.ofRule?

/-- A rule that is added can be read, or it is passed over. -/
theorem addRule_ok_cases [Host] {category : Section} {catalog next : Catalog} {rule : Json}
    (added : addRule category catalog rule = .ok next) :
    (∃ names signatures, Rule.read rule = .ok (names, signatures) ∧
        next = names.foldl (Catalog.register category signatures) catalog) ∨
      ∃ fault, Rule.read rule = .error fault ∧ fault.isPassedOver = true ∧ next = catalog := by
  unfold addRule at added
  cases read : Rule.read rule with
  | ok declared =>
      rw [read] at added
      exact .inl ⟨declared.1, declared.2, rfl, (Except.ok.inj added).symm⟩
  | error fault =>
      rw [read] at added
      dsimp only at added
      split at added
      · next passed => exact .inr ⟨fault, rfl, passed, (Except.ok.inj added).symm⟩
      · cases added

/-- The names of a rule are mentioned one after the other. -/
theorem mentions_of_addRule [Host] {category : Section} {catalog next : Catalog} {rule : Json}
    (added : addRule category catalog rule = .ok next) :
    next = ((Declaration.ofRule? (category, rule)).toList.flatMap Declaration.mentions).foldl
      Catalog.mention catalog := by
  rcases addRule_ok_cases added with ⟨names, signatures, read, rfl⟩ | ⟨fault, read, _, rfl⟩
  · simp [Declaration.ofRule?, read, Declaration.mentions, List.foldl_map, Catalog.mention]
  · simp [Declaration.ofRule?, read]

/-- The rules are added one after the other. -/
def addRules [Host] (rules : List (Section × Json)) (catalog : Catalog) :
    Except RuleFault Catalog :=
  rules.foldlM (fun catalog rule => addRule rule.1 catalog rule.2) catalog

theorem addRules_cons [Host] (rule : Section × Json) (rest : List (Section × Json))
    (catalog : Catalog) :
    addRules (rule :: rest) catalog = addRule rule.1 catalog rule.2 >>= addRules rest :=
  List.foldlM_cons

theorem addRules_append [Host] (first second : List (Section × Json)) (catalog : Catalog) :
    addRules (first ++ second) catalog = addRules first catalog >>= addRules second :=
  List.foldlM_append

theorem mentions_of_addRules [Host] {rules : List (Section × Json)} {catalog next : Catalog}
    (added : addRules rules catalog = .ok next) :
    next = ((rules.filterMap Declaration.ofRule?).flatMap Declaration.mentions).foldl
      Catalog.mention catalog := by
  induction rules generalizing catalog with
  | nil => exact (Except.ok.inj added).symm
  | cons rule rest ih =>
      rw [addRules_cons] at added
      obtain ⟨middle, first, later⟩ := exists_of_bind_ok added
      rw [ih later, mentions_of_addRule first, ← List.foldl_append, ← List.flatMap_append]
      congr 2
      cases found : Declaration.ofRule? rule <;> simp [found]

/-- A grammar with a repository has its rules added to the empty catalog. -/
theorem build_of_repository [Host] {grammar : Json} {fields : Rule.Fields}
    (found : repository grammar = .ok fields) :
    build grammar = do return (← addRules (rules grammar) [], []) := by
  simp only [build, rules, found, readRepository, foldlM_addSection, addRules]

theorem addRules_of_build [Host] {grammar : Json} {catalog : Catalog} {notices : List Notice}
    (built : build grammar = .ok (catalog, notices)) :
    addRules (rules grammar) [] = .ok catalog := by
  cases found : repository grammar with
  | error fault =>
      simp only [build, found] at built
      obtain ⟨rfl, _⟩ := Prod.mk.inj (Except.ok.inj built)
      simp only [rules, found]
      rfl
  | ok fields =>
      rw [build_of_repository found] at built
      obtain ⟨read, reading, result⟩ := exists_of_bind_ok built
      obtain ⟨rfl, _⟩ := Prod.mk.inj (Except.ok.inj result)
      exact reading

theorem wellFormed_of_mem_declarations [Host] {grammar : Json} {declaration : Declaration}
    (member : declaration ∈ declarations grammar) : declaration.WellFormed := by
  obtain ⟨rule, _, found⟩ := List.mem_filterMap.mp member
  exact Declaration.wellFormed_of_ofRule? found

/-- The catalog of a grammar gathers all that its rules declare. -/
theorem gathers_of_build [Host] {grammar : Json} {catalog : Catalog} {notices : List Notice}
    (built : build grammar = .ok (catalog, notices)) :
    catalog.Gathers ((declarations grammar).flatMap Declaration.mentions) := by
  rw [mentions_of_addRules (addRules_of_build built)]
  refine Catalog.gathers_nil.foldl _ fun mention member => ?_
  obtain ⟨declaration, declared, listed⟩ := List.mem_flatMap.mp member
  rw [((declaration.mem_mentions_iff mention).mp listed).1]
  exact (wellFormed_of_mem_declarations declared).compiled

end Grammar

end ItemFilter
