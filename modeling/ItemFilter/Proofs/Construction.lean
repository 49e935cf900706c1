/-
This file says when a grammar gives a catalog. What cannot be read is passed over, except for a
capture that is listed only under an unusual spelling of its number or, on a host that sets looks
behind a limit, looks too far behind.
-/

import ItemFilter.Grammar
import ItemFilter.Proofs.Numeral
import ItemFilter.Proofs.Pattern.Limits
import ItemFilter.Proofs.Traversal

namespace ItemFilter

/-- The fault is not passed over, so it ends the reading of the whole grammar. -/
def BreaksOff {α : Type} (result : Except RuleFault α) : Prop :=
  ∃ fault, result = .error fault ∧ fault.isPassedOver = false

theorem not_breaksOff_ok {α : Type} (value : α) : ¬ BreaksOff (.ok value) := by
  rintro ⟨fault, same, _⟩
  cases same

theorem breaksOff_error_iff {α : Type} (fault : RuleFault) :
    BreaksOff (.error fault : Except RuleFault α) ↔ fault.isPassedOver = false := by
  constructor
  · rintro ⟨other, same, breaks⟩
    exact Except.error.inj same ▸ breaks
  · intro breaks
    exact ⟨fault, rfl, breaks⟩

/-- A look behind that one host can use and another one cannot. -/
example :
    Matcher.compile "(?<=a\x7b2147483648\x7d)x|y".toList = .error .tooFarBehind ∧
      (@Matcher.compile Host.later "(?<=a\x7b2147483648\x7d)x|y".toList).isOk = true := by
  decide +kernel

namespace Rule

/-- All keys that are numerals can be converted. -/
def KeysShort (captures : Fields) : Prop :=
  ∀ capture ∈ captures, Text.isPlainNumeral capture.1 = true → capture.1.length ≤ numeralLimit

/-- Some key spells this number. -/
def Announces (captures : Fields) (index : Nat) : Prop :=
  1 ≤ index ∧
    ∃ capture ∈ captures, Text.isPlainNumeral capture.1 = true ∧ capture.1.digitsValue = index

/-- The numbers that the keys spell, one for each key. -/
def keyNumbers (captures : Fields) : List Nat :=
  (((captures.map (·.1)).filter Text.isPlainNumeral).map Text.digitsValue).filter (1 ≤ ·)

theorem mem_keyNumbers_iff (captures : Fields) (index : Nat) :
    index ∈ keyNumbers captures ↔ Announces captures index := by
  simp [keyNumbers, Announces, and_comm, and_assoc]

/-- Keys that can be converted give their numbers in order. -/
theorem captureIndexes_eq {captures : Fields} (short : KeysShort captures) :
    captureIndexes captures = .ok ((keyNumbers captures).mergeSort (· ≤ ·)) := by
  have readable : ∀ key ∈ (captures.map (·.1)).filter Text.isPlainNumeral,
      Text.readDigits key = .ok key.digitsValue := by
    intro key member
    obtain ⟨listed, numeral⟩ := List.mem_filter.mp member
    obtain ⟨capture, present, rfl⟩ := List.mem_map.mp listed
    have := short capture present numeral
    exact readDigits_of_not_stops (by omega)
  rw [captureIndexes, mapM_of_forall_ok readable]
  rfl

theorem pairwise_mergeSort_le (indexes : List Nat) :
    (indexes.mergeSort (· ≤ ·)).Pairwise (· ≤ ·) := by
  have sorted : (indexes.mergeSort (· ≤ ·)).Pairwise fun left right =>
      decide (left ≤ right) = true :=
    List.pairwise_mergeSort (by simp; omega) (by simp; omega) indexes
  exact sorted.imp of_decide_eq_true

/-- Keys that can be converted give the announced numbers in order. -/
theorem captureIndexes_of_short {captures : Fields} (short : KeysShort captures) :
    ∃ indexes, captureIndexes captures = .ok indexes ∧ indexes.Pairwise (· ≤ ·) ∧
      ∀ index, index ∈ indexes ↔ Announces captures index := by
  refine ⟨_, captureIndexes_eq short, pairwise_mergeSort_le _, fun index => ?_⟩
  rw [List.mem_mergeSort, mem_keyNumbers_iff]

/-- A key that cannot be converted ends the reading of the pattern. -/
theorem captureIndexes_of_long {captures : Fields} (long : ¬ KeysShort captures) :
    ∃ fault, captureIndexes captures = .error fault := by
  have stops : Stops (captureIndexes captures) := by
    unfold captureIndexes
    rw [stops_map_iff, stops_mapM_iff]
    simp only [KeysShort, Classical.not_forall] at long
    obtain ⟨capture, member, numeral, tooLong⟩ := long
    refine ⟨capture.1, by simp [numeral]; exact ⟨capture.2, member⟩, ?_⟩
    rw [stops_readDigits_iff]
    omega
  exact stops

/-- The group of this number exists, is listed under its number and has a matcher. -/
def Readable [Host] (expression : Text) (captures : Fields) (index : Nat) : Prop :=
  ∃ group capture matcher, CaptureGroup.find? expression index = some group ∧
    captures.lookup (Text.ofNat index) = some capture ∧
    Matcher.compile group.text = .ok matcher

/-- The group of this number exists, but it is not listed under its number. -/
def Unlisted (expression : Text) (captures : Fields) (index : Nat) : Prop :=
  ∃ group, CaptureGroup.find? expression index = some group ∧
    captures.lookup (Text.ofNat index) = none

/-- The group of this number exists, but it is not listed under its number or looks too far
behind. -/
def Misleading [Host] (expression : Text) (captures : Fields) (index : Nat) : Prop :=
  Unlisted expression captures index ∨
    ∃ group, CaptureGroup.find? expression index = some group ∧
      Matcher.compile group.text = .error .tooFarBehind

/-- A listed group becomes a parameter if it has a matcher. -/
theorem readParameter_of_listed [Host] {expression : Text} {captures : Fields} {index : Nat}
    {group : CaptureGroup} {capture : Json}
    (found : CaptureGroup.find? expression index = some group)
    (listed : captures.lookup (Text.ofNat index) = some capture) :
    (∃ matcher parameter, Matcher.compile group.text = .ok matcher ∧
        readParameter expression captures index = .ok parameter) ∨
      ∃ fault, Matcher.compile group.text = .error fault ∧
        readParameter expression captures index = .error (.unusable fault) := by
  simp only [readParameter, found, listed, parameterOf]
  cases Matcher.compile group.text with
  | error fault => exact .inr ⟨fault, rfl, rfl⟩
  | ok matcher => exact .inl ⟨matcher, _, rfl, rfl⟩

theorem readParameter_ok_iff [Host] (expression : Text) (captures : Fields) (index : Nat) :
    (∃ parameter, readParameter expression captures index = .ok parameter) ↔
      Readable expression captures index := by
  unfold Readable
  cases found : CaptureGroup.find? expression index with
  | none => simp [readParameter, found]
  | some group =>
      cases listed : captures.lookup (Text.ofNat index) with
      | none => simp [readParameter, found, listed]
      | some capture =>
          rcases readParameter_of_listed found listed with
            ⟨matcher, parameter, compiled, read⟩ | ⟨fault, compiled, read⟩
          · simp [compiled, read]
          · simp [compiled, read]

theorem breaksOff_readParameter_iff [Host] (expression : Text) (captures : Fields) (index : Nat) :
    BreaksOff (readParameter expression captures index) ↔
      Misleading expression captures index := by
  unfold Misleading Unlisted
  cases found : CaptureGroup.find? expression index with
  | none => simp [readParameter, found, breaksOff_error_iff, RuleFault.isPassedOver]
  | some group =>
      cases listed : captures.lookup (Text.ofNat index) with
      | none => simp [readParameter, found, listed, breaksOff_error_iff, RuleFault.isPassedOver]
      | some capture =>
          rcases readParameter_of_listed found listed with
            ⟨matcher, parameter, compiled, read⟩ | ⟨fault, compiled, read⟩
          · simp [compiled, read, not_breaksOff_ok]
          · cases fault <;>
              simp [compiled, read, breaksOff_error_iff, RuleFault.isPassedOver]

theorem le_of_mem_after {before after : List Nat} {index later : Nat}
    (sorted : (before ++ index :: after).Pairwise (· ≤ ·)) (member : later ∈ after) :
    index ≤ later :=
  List.rel_of_pairwise_cons (List.pairwise_append.mp sorted).2.1 member

/-- The first number whose reading fails decides whether the reading breaks off. -/
theorem breaksOff_mapM_iff {α : Type} (read : Nat → Except RuleFault α) {indexes : List Nat}
    (sorted : indexes.Pairwise (· ≤ ·)) :
    BreaksOff (indexes.mapM read) ↔
      ∃ index ∈ indexes, BreaksOff (read index) ∧
        ∀ earlier ∈ indexes, earlier < index → ∃ value, read earlier = .ok value := by
  constructor
  · rintro ⟨fault, fails, breaks⟩
    obtain ⟨before, index, after, rfl, readable, broken⟩ :=
      (mapM_eq_error_iff read indexes fault).mp fails
    refine ⟨index, by simp, ⟨fault, broken, breaks⟩, fun earlier member smaller => ?_⟩
    rw [List.mem_append, List.mem_cons] at member
    rcases member with member | rfl | member
    · exact readable earlier member
    · omega
    · have above := le_of_mem_after sorted member
      omega
  · rintro ⟨index, member, breaks, readable⟩
    cases result : indexes.mapM read with
    | ok values =>
        have listed : read index ∈ indexes.map read := List.mem_map_of_mem member
        rw [map_of_mapM_ok result] at listed
        obtain ⟨value, _, ok⟩ := List.mem_map.mp listed
        rw [← ok] at breaks
        exact absurd breaks (not_breaksOff_ok value)
    | error fault =>
        obtain ⟨before, first, after, rfl, ok, broken⟩ :=
          (mapM_eq_error_iff read indexes fault).mp result
        -- Before the first fault all is read, and behind it stand no smaller numbers.
        have atFirst : index = first := by
          rw [List.mem_append, List.mem_cons] at member
          rcases member with member | same | member
          · obtain ⟨value, ok⟩ := ok index member
            rw [ok] at breaks
            exact absurd breaks (not_breaksOff_ok value)
          · exact same
          · have above := le_of_mem_after sorted member
            apply Decidable.byContradiction
            intro different
            obtain ⟨value, ok⟩ := readable first (by simp) (by omega)
            rw [ok] at broken
            cases broken
        rw [atFirst, broken] at breaks
        rw [breaksOff_error_iff] at breaks ⊢
        exact breaks

/-- Of the announced numbers, the first that cannot be read belongs to a misleading group. -/
def PatternBreaks [Host] (pattern : Fields) : Prop :=
  ∃ expression captures index,
    (Json.field pattern "match".toList).text? = some expression ∧
    (Json.field pattern "captures".toList).fields? = some captures ∧
    KeysShort captures ∧ Announces captures index ∧ Misleading expression captures index ∧
    ∀ earlier < index, Announces captures earlier → Readable expression captures earlier

theorem breaksOff_readSignature_iff [Host] (pattern : Fields) :
    BreaksOff (readSignature pattern) ↔ PatternBreaks pattern := by
  unfold readSignature PatternBreaks
  cases (Json.field pattern "match".toList).text? with
  | none => simp [breaksOff_error_iff, RuleFault.isPassedOver]
  | some expression =>
      cases (Json.field pattern "captures".toList).fields? with
      | none => simp [breaksOff_error_iff, RuleFault.isPassedOver]
      | some captures =>
          by_cases short : KeysShort captures
          · obtain ⟨indexes, read, sorted, announced⟩ := captureIndexes_of_short short
            have parts := breaksOff_mapM_iff (readParameter expression captures) sorted
            simp only [announced, breaksOff_readParameter_iff, readParameter_ok_iff] at parts
            dsimp only
            rw [read]
            cases indexes with
            | nil =>
                have noNumber (index : Nat) : ¬ Announces captures index := by
                  simp [← announced]
                simp [noNumber, breaksOff_error_iff, RuleFault.isPassedOver]
            | cons first others =>
                dsimp only
                rw [parts]
                constructor
                · rintro ⟨index, listed, misleading, readable⟩
                  exact ⟨expression, captures, index, rfl, rfl, short, listed, misleading,
                    fun earlier smaller also => readable earlier also smaller⟩
                · rintro ⟨_, _, index, ⟨⟩, ⟨⟩, _, listed, misleading, readable⟩
                  exact ⟨index, listed, misleading,
                    fun earlier also smaller => readable earlier smaller also⟩
          · obtain ⟨fault, fails⟩ := captureIndexes_of_long short
            simp [fails, short, breaksOff_error_iff, RuleFault.isPassedOver]

/-- Some of the patterns breaks the reading off. -/
def HoldsBreak [Host] (patterns : List Json) : Prop :=
  ∃ pattern ∈ patterns, ∃ fields, pattern.fields? = some fields ∧ PatternBreaks fields

/-- The signatures of the patterns that can be read. -/
def readable [Host] (patterns : List Json) : List Signature :=
  patterns.filterMap fun pattern =>
    pattern.fields?.bind fun fields => (readSignature fields).toOption

theorem readSignatures_cases [Host] (patterns : List Json) :
    (HoldsBreak patterns ∧ BreaksOff (readSignatures patterns)) ∨
      (¬ HoldsBreak patterns ∧ readSignatures patterns = .ok (readable patterns)) := by
  induction patterns with
  | nil => exact .inr ⟨by simp [HoldsBreak], rfl⟩
  | cons pattern rest ih =>
      cases object : pattern.fields? with
      | none =>
          have same : HoldsBreak (pattern :: rest) ↔ HoldsBreak rest := by
            simp [HoldsBreak, object]
          rw [same]
          simpa [readSignatures, readable, object] using ih
      | some fields =>
          have same : HoldsBreak (pattern :: rest) ↔ PatternBreaks fields ∨ HoldsBreak rest := by
            simp [HoldsBreak, object]
          rw [same, ← breaksOff_readSignature_iff]
          cases read : readSignature fields with
          | error fault =>
              rw [breaksOff_error_iff]
              -- A fault that is passed over leaves the patterns as they are without this one.
              cases passed : fault.isPassedOver with
              | false =>
                  refine .inl ⟨.inl rfl, ?_⟩
                  simp [readSignatures, object, read, passed, breaksOff_error_iff]
              | true =>
                  simpa [readSignatures, readable, object, read, passed, List.filterMap_cons,
                    Except.toOption] using ih
          | ok signature =>
              simp only [not_breaksOff_ok, false_or]
              have joined : readSignatures (pattern :: rest) =
                  (readSignatures rest).map (signature :: ·) := by
                simp only [readSignatures, object, read]
                rfl
              rw [joined]
              rcases ih with ⟨holds, fault, fails, breaks⟩ | ⟨unbroken, ok⟩
              · exact .inl ⟨holds, fault, by rw [fails]; rfl, breaks⟩
              · refine .inr ⟨unbroken, ?_⟩
                rw [ok]
                simp [readable, object, read, Except.map, Except.toOption]

/-- The expression that a rule takes its names from; after the beginning of a command, its
patterns. -/
inductive Form where
  | begun (expression : Text) (patterns : List Json)
  | matched (expression : Text)

def form? (rule : Json) : Option Form :=
  match rule.fields? with
  | none => none
  | some fields =>
      match (Json.field fields "begin".toList).text?, (Json.field fields "match".toList).text? with
      | some expression, _ => some (.begun expression (Json.field fields "patterns".toList).items)
      | none, some expression => some (.matched expression)
      | none, none => none

/-- A rule is read by its form. -/
theorem read_of_form? [Host] (rule : Json) :
    match form? rule with
    | none => ∃ fault, read rule = .error fault ∧ fault.isPassedOver = true
    | some (.begun expression patterns) =>
        read rule =
          if CaptureGroup.find? expression 1 = none then .error (.noFirstGroup expression)
          else do
            let names ← readNames expression
            let signatures ← readSignatures patterns
            return (names, if signatures.isEmpty then [[]] else signatures)
    | some (.matched expression) => read rule = do return (← readNames expression, [[]]) := by
  unfold form? read
  cases rule.fields? with
  | none => exact ⟨_, rfl, rfl⟩
  | some fields =>
      dsimp only
      cases (Json.field fields "begin".toList).text? with
      | none =>
          cases (Json.field fields "match".toList).text? with
          | none => exact ⟨_, rfl, rfl⟩
          | some expression => rfl
      | some expression =>
          dsimp only
          simp only [Option.isNone_iff_eq_none]

/-- The rule begins a command and one of its patterns breaks the reading off. -/
def RuleBreaks [Host] (rule : Json) : Prop :=
  ∃ expression patterns, form? rule = some (.begun expression patterns) ∧
    CaptureGroup.find? expression 1 ≠ none ∧ CommandName.extract expression ≠ [] ∧
    HoldsBreak patterns

/-- What a rule declares if it can be read. Patterns that cannot be read do not matter. -/
def declaration? [Host] (rule : Json) : Option (List Text × List Signature) :=
  match form? rule with
  | none => none
  | some (.begun expression patterns) =>
      let names := CommandName.extract expression
      let signatures := readable patterns
      if CaptureGroup.find? expression 1 = none ∨ names = [] then none
      else some (names, if signatures.isEmpty then [[]] else signatures)
  | some (.matched expression) =>
      let names := CommandName.extract expression
      if names = [] then none else some (names, [[]])

/-- Names are read unless there are none. -/
theorem readNames_eq (expression : Text) :
    readNames expression =
      if CommandName.extract expression = [] then .error (.noCommandName expression)
      else .ok (CommandName.extract expression) := by
  unfold readNames
  split
  · next nameless => rw [if_pos nameless]
  · next named => rw [if_neg named]

/-- A rule breaks the reading off, is passed over or gives what it declares. -/
theorem read_cases [Host] (rule : Json) :
    (RuleBreaks rule ∧ BreaksOff (read rule)) ∨
      (¬ RuleBreaks rule ∧
        match declaration? rule with
        | none => ∃ fault, read rule = .error fault ∧ fault.isPassedOver = true
        | some declaration => read rule = .ok declaration) := by
  have reading := read_of_form? rule
  unfold RuleBreaks declaration?
  cases form : form? rule with
  | none =>
      rw [form] at reading
      exact .inr ⟨by simp, reading⟩
  | some shape =>
      rw [form] at reading
      cases shape with
      | matched expression =>
          refine .inr ⟨by simp, ?_⟩
          by_cases nameless : CommandName.extract expression = []
          · simp only [readNames_eq, nameless, if_true] at reading ⊢
            exact ⟨_, reading, rfl⟩
          · simp only [readNames_eq, nameless, if_false] at reading ⊢
            exact reading
      | begun expression patterns =>
          by_cases groupless : CaptureGroup.find? expression 1 = none
          · simp only [groupless, if_true] at reading
            refine .inr ⟨?_, ?_⟩
            · rintro ⟨_, _, ⟨⟩, grouped, _⟩
              exact grouped groupless
            · simp only [groupless, true_or, if_true]
              exact ⟨_, reading, rfl⟩
          · by_cases nameless : CommandName.extract expression = []
            · simp only [groupless, if_false, readNames_eq, nameless, if_true] at reading
              refine .inr ⟨?_, ?_⟩
              · rintro ⟨_, _, ⟨⟩, _, named, _⟩
                exact named nameless
              · simp only [nameless, or_true, if_true]
                exact ⟨_, reading, rfl⟩
            · simp only [groupless, if_false, readNames_eq, nameless] at reading
              rcases readSignatures_cases patterns with
                ⟨holds, fault, fails, breaks⟩ | ⟨unbroken, ok⟩
              · rw [fails] at reading
                exact .inl ⟨⟨expression, patterns, rfl, groupless, nameless, holds⟩, fault, reading,
                  breaks⟩
              · rw [ok] at reading
                refine .inr ⟨?_, ?_⟩
                · rintro ⟨_, _, ⟨⟩, _, _, holds⟩
                  exact unbroken holds
                · simp only [groupless, nameless, or_false, if_false]
                  exact reading

end Rule

namespace Grammar

/-- The rules of a grammar with their sections, in the order in which they are read. -/
def rules (grammar : Json) : List (Section × Json) :=
  match repository grammar with
  | .error _ => []
  | .ok repository =>
      Section.all.flatMap fun category => (sectionRules repository category).map (category, ·)

/-- The sections are read one after the other, each rule by rule. -/
theorem foldlM_addSection [Host] (repository : Rule.Fields) (sections : List Section)
    (catalog : Catalog) :
    sections.foldlM (addSection repository) catalog =
      (sections.flatMap fun category => (sectionRules repository category).map (category, ·)).foldlM
        (fun catalog rule => addRule rule.1 catalog rule.2) catalog := by
  induction sections generalizing catalog with
  | nil => rfl
  | cons category rest ih =>
      rw [List.foldlM_cons, List.flatMap_cons, List.foldlM_append, List.foldlM_map]
      exact bind_congr ih

end Grammar

end ItemFilter
