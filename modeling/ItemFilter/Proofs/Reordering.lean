/-
This file says that the order of keys never matters in a grammar. The captures of a pattern are
read by their numbers, and the numbers follow the groups of its expression from left to right.
-/

import Mathlib.Data.List.Forall2
import ItemFilter.Proofs.Declaration
import ItemFilter.Proofs.Numbering

namespace ItemFilter

namespace Json

/-- The values differ only in the order of keys, at any depth, and no object has a key twice. -/
inductive Reordered : Json → Json → Prop where
  | null : Reordered .null .null
  | boolean (value : Bool) : Reordered (.boolean value) (.boolean value)
  | integer (value : Int) : Reordered (.integer value) (.integer value)
  | real (value : RealClass) : Reordered (.real value) (.real value)
  | string (value : Text) : Reordered (.string value) (.string value)
  | array {lefts rights : List Json} (items : List.Forall₂ Reordered lefts rights) :
      Reordered (.array lefts) (.array rights)
  | object {lefts moved rights : List (Text × Json)} (distinct : (lefts.map Prod.fst).Nodup)
      (order : lefts.Perm moved) (keys : moved.map Prod.fst = rights.map Prod.fst)
      (values : List.Forall₂ Reordered (moved.map Prod.snd) (rights.map Prod.snd)) :
      Reordered (.object lefts) (.object rights)

/-- The fields of two objects that differ only in the order of keys. -/
structure Rearranged (lefts rights : List (Text × Json)) : Prop where
  distinct : (lefts.map Prod.fst).Nodup
  moved : ∃ moved, lefts.Perm moved ∧ moved.map Prod.fst = rights.map Prod.fst ∧
    List.Forall₂ Reordered (moved.map Prod.snd) (rights.map Prod.snd)

theorem lookup_perm {fields moved : List (Text × Json)} (order : fields.Perm moved)
    (distinct : (fields.map Prod.fst).Nodup) (key : Text) :
    fields.lookup key = moved.lookup key := by
  induction order with
  | nil => rfl
  | cons field order ih =>
      rw [List.lookup_cons, List.lookup_cons, ih (List.nodup_cons.mp distinct).2]
  | swap first second rest =>
      rw [List.lookup_cons, List.lookup_cons, List.lookup_cons, List.lookup_cons]
      cases here : key == first.1 with
      | false => rfl
      | true =>
          have elsewhere : (key == second.1) = false := by
            rw [beq_eq_false_iff_ne, beq_iff_eq.mp here]
            intro same
            exact (List.nodup_cons.mp distinct).1 (same ▸ List.mem_cons_self)
          rw [elsewhere]
  | trans firstOrder secondOrder firstIH secondIH =>
      exact (firstIH distinct).trans
        (secondIH ((firstOrder.map Prod.fst).nodup_iff.mp distinct))

/-- Fields with the same keys in the same order are found side by side. -/
theorem lookup_cases {moved rights : List (Text × Json)}
    (keys : moved.map Prod.fst = rights.map Prod.fst)
    (values : List.Forall₂ Reordered (moved.map Prod.snd) (rights.map Prod.snd)) (key : Text) :
    (moved.lookup key = none ∧ rights.lookup key = none) ∨
      ∃ left right, moved.lookup key = some left ∧ rights.lookup key = some right ∧
        Reordered left right := by
  induction moved generalizing rights with
  | nil =>
      obtain rfl := List.map_eq_nil_iff.mp keys.symm
      exact .inl ⟨rfl, rfl⟩
  | cons field rest ih =>
      cases rights with
      | nil => cases keys
      | cons other others =>
          obtain ⟨sameKey, sameKeys⟩ := List.cons.inj keys
          obtain ⟨value, rest⟩ := List.forall₂_cons.mp values
          rw [List.lookup_cons, List.lookup_cons, sameKey]
          cases key == other.1 with
          | true => exact .inr ⟨_, _, rfl, rfl, value⟩
          | false => exact ih sameKeys rest

namespace Rearranged

variable {lefts rights : List (Text × Json)} (rearranged : Rearranged lefts rights)
include rearranged

theorem lookup (key : Text) :
    (lefts.lookup key = none ∧ rights.lookup key = none) ∨
      ∃ left right, lefts.lookup key = some left ∧ rights.lookup key = some right ∧
        Reordered left right := by
  obtain ⟨moved, order, keys, values⟩ := rearranged.moved
  rw [lookup_perm order rearranged.distinct]
  exact lookup_cases keys values key

theorem field (key : Text) : Reordered (field lefts key) (field rights key) := by
  unfold Json.field
  rcases rearranged.lookup key with ⟨missing, missing'⟩ | ⟨left, right, found, found', reordered⟩
  · rw [missing, missing']
    exact .null
  · rw [found, found']
    exact reordered

theorem keys : (lefts.map Prod.fst).Perm (rights.map Prod.fst) := by
  obtain ⟨moved, order, same, -⟩ := rearranged.moved
  exact same ▸ order.map Prod.fst

end Rearranged

namespace Reordered

variable {left right : Json} (reordered : Reordered left right)
include reordered

theorem text? : left.text? = right.text? := by
  cases reordered <;> rfl

theorem typeName : left.typeName = right.typeName := by
  cases reordered <;> rfl

theorem items : List.Forall₂ Reordered left.items right.items := by
  cases reordered with
  | array items => exact items
  | _ => exact .nil

theorem fields? :
    (left.fields? = none ∧ right.fields? = none) ∨
      ∃ lefts rights, left.fields? = some lefts ∧ right.fields? = some rights ∧
        Rearranged lefts rights := by
  cases reordered with
  | object distinct order keys values =>
      exact .inr ⟨_, _, rfl, rfl, distinct, _, order, keys, values⟩
  | _ => exact .inl ⟨rfl, rfl⟩

end Reordered

end Json

namespace Rule

open Json

theorem keysShort_iff (captures : Fields) :
    KeysShort captures ↔
      ∀ key ∈ captures.map Prod.fst, Text.isPlainNumeral key = true →
        key.length ≤ numeralLimit := by
  rw [List.forall_mem_map]
  rfl

/-- Numbers can be put in order in one way only. -/
theorem mergeSort_eq {numbers sorted : List Nat} (order : numbers.Perm sorted)
    (increasing : sorted.Pairwise (· ≤ ·)) : numbers.mergeSort (· ≤ ·) = sorted :=
  ((List.mergeSort_perm numbers _).trans order).eq_of_pairwise (fun _ _ _ _ => Nat.le_antisymm)
    (pairwise_mergeSort_le numbers) increasing

/-- The order of the captures does not matter for their numbers. -/
theorem captureIndexes_rearranged {lefts rights : Fields} (rearranged : Rearranged lefts rights) :
    captureIndexes lefts = captureIndexes rights ∨
      ∃ fault other, captureIndexes lefts = .error fault ∧ captureIndexes rights = .error other := by
  have sameShort : KeysShort lefts ↔ KeysShort rights := by
    simp only [keysShort_iff, rearranged.keys.mem_iff]
  by_cases short : KeysShort lefts
  · left
    rw [captureIndexes_eq short, captureIndexes_eq (sameShort.mp short)]
    have numbers : (keyNumbers lefts).Perm (keyNumbers rights) :=
      ((rearranged.keys.filter _).map _).filter _
    exact congrArg Except.ok (mergeSort_eq (numbers.trans (List.mergeSort_perm _ _).symm)
      (pairwise_mergeSort_le _))
  · right
    obtain ⟨fault, fails⟩ := captureIndexes_of_long short
    obtain ⟨other, fails'⟩ := captureIndexes_of_long (mt sameShort.mpr short)
    exact ⟨fault, other, fails, fails'⟩

theorem scopeOf_reordered {left right : Json} (reordered : Reordered left right) :
    scopeOf left = scopeOf right := by
  unfold scopeOf
  rcases reordered.fields? with ⟨absent, absent'⟩ | ⟨lefts, rights, present, present', rearranged⟩
  · rw [absent, absent']
  · rw [present, present']
    exact (rearranged.field _).text?

theorem readParameter_rearranged [Host] {lefts rights : Fields}
    (rearranged : Rearranged lefts rights) (expression : Text) (index : Nat) :
    readParameter expression lefts index = readParameter expression rights index := by
  unfold readParameter
  rcases rearranged.lookup (Text.ofNat index) with
    ⟨missing, missing'⟩ | ⟨left, right, found, found', reordered⟩
  · rw [missing, missing']
  · simp only [found, found', parameterOf, scopeOf_reordered reordered]

/-- Only the report of keys that are too long depends on the order of the captures. -/
theorem readSignature_rearranged [Host] {lefts rights : Fields}
    (rearranged : Rearranged lefts rights) :
    readSignature lefts = readSignature rights ∨
      ∃ fault other, readSignature lefts = .error (.numeral fault) ∧
        readSignature rights = .error (.numeral other) := by
  unfold readSignature
  rw [(rearranged.field "match".toList).text?]
  cases (Json.field rights "match".toList).text? with
  | none => exact .inl rfl
  | some expression =>
      rcases (rearranged.field "captures".toList).fields? with
        ⟨absent, absent'⟩ | ⟨left, right, present, present', captures⟩
      · rw [absent, absent']
        exact .inl rfl
      · rw [present, present']
        dsimp only
        rcases captureIndexes_rearranged captures with same | ⟨fault, other, fails, fails'⟩
        · left
          simp only [same, funext (readParameter_rearranged captures expression)]
        · right
          rw [fails, fails']
          exact ⟨fault, other, rfl, rfl⟩

theorem readSignatures_reordered [Host] {lefts rights : List Json}
    (reordered : List.Forall₂ Reordered lefts rights) :
    readSignatures lefts = readSignatures rights := by
  induction reordered with
  | nil => rfl
  | @cons left right lefts rights first rest ih =>
      rw [readSignatures, readSignatures, ih]
      rcases first.fields? with ⟨absent, absent'⟩ | ⟨lefts, rights, present, present', rearranged⟩
      · rw [absent, absent']
      · rw [present, present']
        dsimp only
        rcases readSignature_rearranged rearranged with same | ⟨fault, other, fails, fails'⟩
        · rw [same]
        · rw [fails, fails']
          rfl

theorem read_reordered [Host] {left right : Json} (reordered : Reordered left right) :
    read left = read right := by
  unfold read
  rw [reordered.typeName]
  rcases reordered.fields? with ⟨absent, absent'⟩ | ⟨lefts, rights, present, present', rearranged⟩
  · rw [absent, absent']
  · rw [present, present']
    dsimp only
    rw [(rearranged.field "begin".toList).text?, (rearranged.field "match".toList).text?,
      readSignatures_reordered (rearranged.field "patterns".toList).items]

/-- The group of the expression and the capture under its number describe the parameter. -/
def Describes [Host] (expression : Text) (captures : Fields) (group : CaptureGroup)
    (parameter : Parameter) : Prop :=
  CaptureGroup.find? expression group.index = some group ∧
    ∃ capture, captures.lookup (Text.ofNat group.index) = some capture ∧
      parameterOf group capture = .ok parameter

end Rule

/-- The parameters come from the numbered captures of the pattern, one for each key, in the order of
their groups in its expression. -/
def Signature.Follows [Host] (signature : Signature) (pattern : Rule.Fields) : Prop :=
  ∃ expression captures groups,
    (Json.field pattern "match".toList).text? = some expression ∧
    (Json.field pattern "captures".toList).fields? = some captures ∧
    (groups.map CaptureGroup.index).Perm (Rule.keyNumbers captures) ∧
    groups.Pairwise (fun first second => first.start ≤ second.start) ∧
    List.Forall₂ (Rule.Describes expression captures) groups signature

namespace CaptureGroup

theorem index_of_find? {text : Text} {number : Nat} {group : CaptureGroup}
    (found : find? text number = some group) : group.index = number := by
  obtain ⟨groups, -, found⟩ := Option.bind_eq_some_iff.mp found
  have same := List.find?_some found
  exact Int.ofNat_inj.mp (beq_iff_eq.mp same)

/-- Groups that are numbered later stand further to the right. -/
theorem start_le_of_index_le {text : Text} {first second : CaptureGroup}
    (foundFirst : find? text first.index = some first)
    (foundSecond : find? text second.index = some second) (order : first.index ≤ second.index) :
    first.start ≤ second.start := by
  rcases series_all? text with ⟨groups, all, series⟩ | ⟨nothing, -⟩
  · obtain ⟨place, numbered, there⟩ := (series.find?_eq_some_iff all).mp foundFirst
    obtain ⟨later, numbered', there'⟩ := (series.find?_eq_some_iff all).mp foundSecond
    rcases Nat.lt_or_eq_of_le (show place ≤ later by omega) with before | rfl
    · obtain ⟨within, rfl⟩ := List.getElem?_eq_some_iff.mp there
      obtain ⟨within', rfl⟩ := List.getElem?_eq_some_iff.mp there'
      have apart := List.pairwise_iff_getElem.mp series.apart place later within within' before
      have nonempty := (series.placed _ (List.getElem_mem within)).pairs.encloses.1
      omega
    · exact Nat.le_of_eq (congrArg start (Option.some.inj (there.symm.trans there')))
  · rw [find?, nothing] at foundFirst
    cases foundFirst

end CaptureGroup

namespace Rule

/-- The numbers that are read are those of groups, each of which describes its parameter. -/
theorem exists_groups [Host] {expression : Text} {captures : Fields} {indexes : List Nat}
    {signature : Signature}
    (read : indexes.mapM (readParameter expression captures) = .ok signature) :
    ∃ groups, groups.map CaptureGroup.index = indexes ∧
      List.Forall₂ (Describes expression captures) groups signature := by
  induction indexes generalizing signature with
  | nil =>
      obtain rfl : [] = signature := Except.ok.inj read
      exact ⟨[], rfl, .nil⟩
  | cons index rest ih =>
      rw [List.mapM_cons] at read
      obtain ⟨parameter, first, read⟩ := exists_of_bind_ok read
      obtain ⟨others, later, read⟩ := exists_of_bind_ok read
      obtain rfl : parameter :: others = signature := Except.ok.inj read
      obtain ⟨group, capture, found, listed, made⟩ := exists_parameterOf first
      obtain ⟨groups, rfl, described⟩ := ih later
      obtain rfl := CaptureGroup.index_of_find? found
      exact ⟨group :: groups, rfl, .cons ⟨found, capture, listed, made⟩ described⟩

/-- A signature follows the pattern that it is read from. -/
theorem follows_of_readSignature [Host] {pattern : Fields} {signature : Signature}
    (read : readSignature pattern = .ok signature) : signature.Follows pattern := by
  obtain ⟨expression, captures, indexes, matched, listed, numbers, -, read⟩ :=
    (readSignature_eq_ok_iff pattern signature).mp read
  obtain ⟨groups, rfl, described⟩ := exists_groups read
  have short : KeysShort captures := by
    by_contra long
    obtain ⟨fault, fails⟩ := captureIndexes_of_long long
    rw [fails] at numbers
    cases numbers
  rw [captureIndexes_eq short] at numbers
  have sorted := Except.ok.inj numbers
  refine ⟨expression, captures, groups, matched, listed, ?_, ?_, described⟩
  · rw [← sorted]
    exact List.mergeSort_perm _ _
  · have found := ((List.forall₂_and_left groups signature).mp described).1
    have increasing : (groups.map CaptureGroup.index).Pairwise (· ≤ ·) :=
      sorted ▸ pairwise_mergeSort_le _
    refine (List.pairwise_map.mp increasing).imp_of_mem fun first second order => ?_
    exact CaptureGroup.start_le_of_index_le (found _ first) (found _ second) order

theorem follows_of_mem_signaturesOf [Host] {rule : Json} {signature : Signature}
    (member : signature ∈ signaturesOf rule) :
    signature = [] ∨ ∃ pattern ∈ patternsOf rule, signature.Follows pattern := by
  rw [signaturesOf] at member
  split at member
  · exact .inl (List.mem_singleton.mp member)
  · obtain ⟨pattern, own, read⟩ := List.mem_filterMap.mp member
    exact .inr ⟨pattern, own, follows_of_readSignature ((toOption_eq_some_iff _ _).mp read)⟩

end Rule

namespace Grammar

open Json

/-- The patterns of all rules. -/
def patterns (grammar : Json) : List Rule.Fields :=
  (rules grammar).flatMap fun rule => Rule.patternsOf rule.2

/-- A signature of the catalog is empty or follows one of the patterns. -/
theorem follows_of_build [Host] {grammar : Json} {catalog : Catalog} {notices : List Notice}
    (built : build grammar = .ok (catalog, notices)) {command : Command}
    (member : command ∈ catalog) {signature : Signature} (held : signature ∈ command.signatures) :
    signature = [] ∨ ∃ pattern ∈ patterns grammar, signature.Follows pattern := by
  have gathers := gathers_of_build built
  have found := Catalog.find?_of_mem gathers.distinct member
  obtain ⟨mention, mentioned, -, declared⟩ := (gathers.signatures found signature).mp held
  obtain ⟨declaration, listed, named⟩ := List.mem_flatMap.mp mentioned
  obtain ⟨rule, present, ofRule⟩ := List.mem_filterMap.mp listed
  rw [((declaration.mem_mentions_iff mention).mp named).1,
    Rule.signatures_of_read (Declaration.read_of_ofRule? ofRule)] at declared
  rcases Rule.follows_of_mem_signaturesOf declared with plain | ⟨pattern, own, follows⟩
  · exact .inl plain
  · exact .inr ⟨pattern, List.mem_flatMap.mpr ⟨rule, present, own⟩, follows⟩

theorem repository_reordered {left right : Json} (reordered : Reordered left right) :
    (∃ fault, repository left = .error fault ∧ repository right = .error fault) ∨
      ∃ lefts rights, repository left = .ok lefts ∧ repository right = .ok rights ∧
        Rearranged lefts rights := by
  cases reordered with
  | @object lefts moved rights distinct order keys values =>
      have inner := Rearranged.field ⟨distinct, _, order, keys, values⟩ "repository".toList
      unfold repository
      dsimp only
      generalize Json.field lefts _ = left, Json.field rights _ = right at inner ⊢
      cases inner with
      | object distinct order keys values =>
          exact .inr ⟨_, _, rfl, rfl, distinct, _, order, keys, values⟩
      | _ => exact .inl ⟨_, rfl, rfl⟩
  | _ => exact .inl ⟨_, rfl, rfl⟩

theorem sectionRules_rearranged {lefts rights : Rule.Fields} (rearranged : Rearranged lefts rights)
    (category : Section) :
    List.Forall₂ Reordered (sectionRules lefts category) (sectionRules rights category) := by
  have inner := rearranged.field category.name.toList
  unfold sectionRules
  generalize Json.field lefts _ = left, Json.field rights _ = right at inner ⊢
  cases inner with
  | object distinct order keys values =>
      exact (Rearranged.field ⟨distinct, _, order, keys, values⟩ "patterns".toList).items
  | array items => exact items
  | _ => exact .nil

theorem addSection_rearranged [Host] {lefts rights : Rule.Fields}
    (rearranged : Rearranged lefts rights) (catalog : Catalog) (category : Section) :
    addSection lefts catalog category = addSection rights catalog category := by
  have rules := sectionRules_rearranged rearranged category
  unfold addSection
  generalize sectionRules lefts category = left, sectionRules rights category = right at rules ⊢
  induction rules generalizing catalog with
  | nil => rfl
  | cons first rest ih =>
      rw [List.foldlM_cons, List.foldlM_cons, addRule, addRule, Rule.read_reordered first]
      exact bind_congr ih

/-- Grammars that differ only in the order of keys have the same catalog or fail in the same way.
The signatures that a pattern gives list their parameters as the groups stand in its expression. -/
theorem build_reordered [Host] {left right : Json} (reordered : Reordered left right) :
    build left = build right ∧
      ∀ catalog notices, build left = .ok (catalog, notices) →
        ∀ command ∈ catalog, ∀ signature ∈ command.signatures, signature ≠ [] →
          ∀ grammar ∈ [left, right], ∃ pattern ∈ patterns grammar, signature.Follows pattern := by
  have same : build left = build right := by
    unfold build
    rcases repository_reordered reordered with
      ⟨fault, fails, fails'⟩ | ⟨lefts, rights, ok, ok', rearranged⟩
    · rw [fails, fails']
    · have sections : addSection lefts = addSection rights :=
        funext fun catalog => funext (addSection_rearranged rearranged catalog)
      rw [ok, ok']
      dsimp only
      rw [readRepository, readRepository, sections]
  refine ⟨same, fun catalog notices built command member signature held nonempty grammar => ?_⟩
  have either : ∀ grammar ∈ [left, right], build grammar = .ok (catalog, notices) := by
    simp [← same, built]
  intro given
  exact (follows_of_build (either grammar given) member held).resolve_left nonempty

/-- The captures are listed against the order of their numbers, one of them under two keys. -/
theorem build_reordered_captures :
    let expression : Text := "(a)(b)(c)(d)(e)(f)(g)(h)(i)(j)".toList
    let captures (keys : List String) : Rule.Fields := keys.map fun key => (key.toList, .null)
    let pattern (keys : List String) : Rule.Fields :=
      [("match".toList, .string expression), ("captures".toList, .object (captures keys))]
    let first : Json := .object [("begin".toList, .string "(Drop)".toList),
      ("patterns".toList, .array [.object (pattern ["10", "02", "2"])])]
    let second : Json := .object [("patterns".toList, .array [.object (pattern ["2", "10", "02"])]),
      ("begin".toList, .string "(Drop)".toList)]
    let grammar (rule : Json) : Json := .object [("repository".toList,
      .object [("actions".toList, .array [rule])])]
    (grammar first).Reordered (grammar second) ∧ ∃ signature : Signature,
      build (grammar first) = .ok ([⟨"Drop".toList, .actions, [signature]⟩], []) ∧
      build (grammar second) = .ok ([⟨"Drop".toList, .actions, [signature]⟩], []) ∧
      signature.map Parameter.pattern =
        [some "b".toList, some "b".toList, some "j".toList] ∧
      ∃ pattern ∈ patterns (grammar second), signature.Follows pattern := by
  intro expression captures pattern first second grammar
  have keys : ["10", "02", "2"].Perm ["2", "10", "02"] := by decide
  have patterns : Reordered (.object (pattern ["10", "02", "2"]))
      (.object (pattern ["2", "10", "02"])) := by
    refine .object (by decide) (.refl _) rfl (.cons (.string _) (.cons ?_ .nil))
    exact .object (by decide) (keys.map fun key => (key.toList, Json.null)) rfl
      (.cons .null (.cons .null (.cons .null .nil)))
  have reordered : (grammar first).Reordered (grammar second) := by
    refine .object (by decide) (.refl _) rfl (.cons ?_ .nil)
    refine .object (by decide) (.refl _) rfl (.cons (.array (.cons ?_ .nil)) .nil)
    exact .object (by decide) (.swap _ _ _) rfl
      (.cons (.array (.cons patterns .nil)) (.cons (.string _) .nil))
  have numbers : Rule.captureIndexes (captures ["10", "02", "2"]) =
      .ok ([10, 2, 2].mergeSort (· ≤ ·)) := by with_unfolding_all rfl
  rw [Rule.mergeSort_eq (show [10, 2, 2].Perm [2, 2, 10] by decide) (by decide)] at numbers
  have parameters : ∃ signature : Signature,
      [2, 2, 10].mapM (Rule.readParameter expression (captures ["10", "02", "2"])) =
        .ok signature ∧
      signature.map Parameter.pattern =
        [some "b".toList, some "b".toList, some "j".toList] :=
    ⟨_, by with_unfolding_all rfl, by with_unfolding_all rfl⟩
  obtain ⟨signature, parameters, groups⟩ := parameters
  have read : Rule.readSignature (pattern ["10", "02", "2"]) = .ok signature :=
    (Rule.readSignature_eq_ok_iff _ _).mpr
      ⟨_, _, _, rfl, rfl, numbers, List.cons_ne_nil _ _, parameters⟩
  have signatures : Rule.readSignatures [.object (pattern ["10", "02", "2"])] =
      .ok [signature] := by
    rw [Rule.readSignatures, show fields? _ = some _ from rfl]
    dsimp only
    rw [read]
    rfl
  have declared : Rule.read first = .ok (["Drop".toList], [signature]) := by
    have reading := Rule.read_of_form? first
    rw [show Rule.form? first =
      some (.begun _ [.object (pattern ["10", "02", "2"])]) from rfl] at reading
    dsimp only at reading
    rw [reading, if_neg (by decide +kernel), signatures]
    with_unfolding_all rfl
  have built : build (grammar first) =
      .ok ([⟨"Drop".toList, .actions, [signature]⟩], []) := by
    rw [build_of_repository (show repository _ = .ok _ from rfl),
      show rules _ = [(.actions, first)] by with_unfolding_all rfl, addRules_cons, addRule, declared]
    rfl
  obtain ⟨same, follows⟩ := build_reordered reordered
  refine ⟨reordered, signature, built, same ▸ built, groups, ?_⟩
  refine follows _ _ built _ List.mem_cons_self signature List.mem_cons_self ?_ _ (by simp)
  rintro rfl
  cases groups

end Grammar

end ItemFilter
