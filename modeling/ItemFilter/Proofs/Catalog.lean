/-
This file says how a catalog changes when a rule names a command. A new command comes last, a known
one keeps its place and gains the signatures that it lacks.
-/

import Mathlib.Data.List.Nodup
import ItemFilter.Catalog

namespace ItemFilter

namespace Parameter

/-- The matcher is the one that the pattern stands for. -/
def Compiled [Host] (parameter : Parameter) : Prop :=
  ∃ text matcher, parameter.pattern = some text ∧ parameter.matcher = some matcher ∧
    Matcher.compile text = .ok matcher

/-- The comparison leaves the matchers out, but the patterns decide about them. -/
theorem eq_of_same [Host] {left right : Parameter} (leftCompiled : left.Compiled)
    (rightCompiled : right.Compiled) (same : left.same right = true) : left = right := by
  obtain ⟨text, matcher, pattern, found, compiled⟩ := leftCompiled
  obtain ⟨otherText, otherMatcher, otherPattern, otherFound, otherCompiled⟩ := rightCompiled
  simp only [Parameter.same, Bool.and_eq_true, beq_iff_eq] at same
  obtain ⟨⟨⟨kind, required⟩, patterns⟩, choices⟩ := same
  have texts : text = otherText := by
    rw [pattern, otherPattern] at patterns
    exact Option.some.inj patterns
  have matchers : matcher = otherMatcher := by
    rw [texts, otherCompiled] at compiled
    exact (Except.ok.inj compiled).symm
  cases left
  cases right
  simp_all

theorem same_self (parameter : Parameter) : parameter.same parameter = true := by
  simp [same]

end Parameter

namespace Signature

theorem same_self (signature : Signature) : signature.same signature = true := by
  induction signature with
  | nil => rfl
  | cons parameter rest ih => simp [same, parameter.same_self, ih]

/-- All parameters have the matchers that their patterns stand for. -/
def Compiled [Host] (signature : Signature) : Prop :=
  ∀ parameter ∈ signature, parameter.Compiled

theorem eq_of_same [Host] {left right : Signature} (leftCompiled : Compiled left)
    (rightCompiled : Compiled right) (same : left.same right = true) : left = right := by
  induction left generalizing right with
  | nil =>
      cases right with
      | nil => rfl
      | cons parameter others => cases same
  | cons parameter rest ih =>
      cases right with
      | nil => cases same
      | cons other others =>
          obtain ⟨first, later⟩ := List.forall_mem_cons.mp leftCompiled
          obtain ⟨otherFirst, otherLater⟩ := List.forall_mem_cons.mp rightCompiled
          rw [Signature.same, Bool.and_eq_true] at same
          rw [Parameter.eq_of_same first otherFirst same.1, ih later otherLater same.2]

end Signature

namespace Command

theorem hasSignature_of_mem {signatures : List Signature} {signature : Signature}
    (member : signature ∈ signatures) : hasSignature signatures signature = true :=
  List.any_eq_true.mpr ⟨signature, member, signature.same_self⟩

theorem hasSignature_of_subset {small large : List Signature} {signature : Signature}
    (subset : small ⊆ large) (has : hasSignature small signature = true) :
    hasSignature large signature = true := by
  obtain ⟨known, member, same⟩ := List.any_eq_true.mp has
  exact List.any_eq_true.mpr ⟨known, subset member, same⟩

theorem merge_name (command : Command) (signatures : List Signature) :
    (command.merge signatures).name = command.name := rfl

/-- The signatures are merged one after the other. -/
theorem merge_cons (command : Command) (signature : Signature) (rest : List Signature) :
    command.merge (signature :: rest) =
      if hasSignature command.signatures signature then command.merge rest
      else merge { command with signatures := command.signatures ++ [signature] } rest := by
  unfold merge
  rw [List.foldl_cons]
  split <;> rfl

/-- The signatures of the command lead. -/
theorem prefix_merge (command : Command) (signatures : List Signature) :
    command.signatures <+: (command.merge signatures).signatures := by
  induction signatures generalizing command with
  | nil => exact List.prefix_rfl
  | cons signature rest ih =>
      rw [merge_cons]
      split
      · exact ih command
      · have more := ih { command with signatures := command.signatures ++ [signature] }
        exact (List.prefix_append _ _).trans more

/-- No signature comes from elsewhere. -/
theorem mem_of_mem_merge {command : Command} {signatures : List Signature} {signature : Signature}
    (member : signature ∈ (command.merge signatures).signatures) :
    signature ∈ command.signatures ∨ signature ∈ signatures := by
  induction signatures generalizing command with
  | nil => exact .inl member
  | cons first rest ih =>
      rw [merge_cons] at member
      split at member
      · exact (ih member).imp_right (List.mem_cons_of_mem first)
      · rcases ih member with known | later
        · rcases List.mem_append.mp known with own | new
          · exact .inl own
          · exact .inr (List.mem_singleton.mp new ▸ List.mem_cons_self)
        · exact .inr (List.mem_cons_of_mem first later)

/-- No signature is lost. -/
theorem hasSignature_merge {command : Command} {signatures : List Signature}
    {signature : Signature} (member : signature ∈ signatures) :
    hasSignature (command.merge signatures).signatures signature = true := by
  induction signatures generalizing command with
  | nil => cases member
  | cons first rest ih =>
      rw [merge_cons]
      rcases List.mem_cons.mp member with rfl | later
      · split
        · next has => exact hasSignature_of_subset (prefix_merge command rest).subset has
        · refine hasSignature_of_subset (prefix_merge _ rest).subset (hasSignature_of_mem ?_)
          exact List.mem_append_right _ List.mem_cons_self
      · split
        · exact ih later
        · exact ih later

/-- Where the patterns decide about the matchers, merging is the union of the signatures. -/
theorem mem_merge_iff [Host] {command : Command} {signatures : List Signature}
    (own : ∀ signature ∈ command.signatures, signature.Compiled)
    (more : ∀ signature ∈ signatures, signature.Compiled) (signature : Signature) :
    signature ∈ (command.merge signatures).signatures ↔
      signature ∈ command.signatures ∨ signature ∈ signatures := by
  refine ⟨mem_of_mem_merge, ?_⟩
  rintro (known | new)
  · exact (command.prefix_merge signatures).subset known
  · have has : hasSignature (command.merge signatures).signatures signature = true :=
      hasSignature_merge new
    obtain ⟨other, member, same⟩ := List.any_eq_true.mp has
    have compiled : other.Compiled := (mem_of_mem_merge member).elim (own other) (more other)
    rw [Signature.eq_of_same (more signature new) compiled same]
    exact member

/-- Signatures that the command has already change nothing. -/
theorem merge_of_forall_hasSignature {command : Command} {signatures : List Signature}
    (has : ∀ signature ∈ signatures, hasSignature command.signatures signature = true) :
    command.merge signatures = command := by
  induction signatures with
  | nil => rfl
  | cons signature rest ih =>
      obtain ⟨first, later⟩ := List.forall_mem_cons.mp has
      rw [merge_cons, if_pos first, ih later]

end Command

namespace Catalog

theorem find?_eq_none_iff (catalog : Catalog) (name : Text) :
    catalog.find? name = none ↔ name ∉ catalog.names := by
  simp only [find?, names, List.find?_eq_none, beq_iff_eq, List.mem_map, not_exists, not_and]

theorem name_of_find? {catalog : Catalog} {name : Text} {command : Command}
    (found : catalog.find? name = some command) : command.name = name := by
  simpa using List.find?_some found

/-- Under distinct names, each command is found by its name. -/
theorem find?_of_mem {catalog : Catalog} (distinct : catalog.names.Nodup) {command : Command}
    (member : command ∈ catalog) : catalog.find? command.name = some command := by
  cases found : catalog.find? command.name with
  | none =>
      have absent := List.find?_eq_none.mp found command member
      simp at absent
  | some other =>
      have named : other.name = command.name := name_of_find? found
      rw [List.inj_on_of_nodup_map distinct (List.mem_of_find?_eq_some found) member named]

theorem find?_cons (command : Command) (rest : Catalog) (name : Text) :
    find? (command :: rest) name =
      if command.name = name then some command else rest.find? name := by
  by_cases same : command.name = name <;> simp [find?, same]

theorem find?_put (command : Command) (catalog : Catalog) (name : Text) :
    (catalog.put command).find? name =
      if command.name = name then some command else catalog.find? name := by
  induction catalog with
  | nil => exact find?_cons command [] name
  | cons other rest ih =>
      rw [put]
      by_cases replaced : other.name = command.name
      · rw [if_pos replaced, find?_cons, find?_cons, replaced]
        split <;> rfl
      · rw [if_neg replaced, find?_cons, find?_cons, ih]
        by_cases here : other.name = name
        · have different : ¬ command.name = name := fun same => replaced (here.trans same.symm)
          rw [if_pos here, if_neg different, if_pos here]
        · rw [if_neg here, if_neg here]

/-- A command that replaces one with the same view leaves the view of the catalog as it is. -/
theorem map_put {α : Type} (view : Command → α) {catalog : Catalog} {command known : Command}
    (found : catalog.find? command.name = some known) (same : view command = view known) :
    (catalog.put command).map view = catalog.map view := by
  induction catalog with
  | nil => cases found
  | cons other rest ih =>
      rw [find?_cons] at found
      rw [put]
      by_cases replaced : other.name = command.name
      · rw [if_pos replaced] at found ⊢
        rw [List.map_cons, List.map_cons, same, Option.some.inj found]
      · rw [if_neg replaced] at found ⊢
        rw [List.map_cons, List.map_cons, ih found]

/-- The command under a name after a rule has named it. -/
def declared (catalog : Catalog) (category : Section) (signatures : List Signature) (name : Text) :
    Command :=
  match catalog.find? name with
  | none => ⟨name, category, signatures⟩
  | some known => known.merge signatures

theorem find?_register (category : Section) (signatures : List Signature) (catalog : Catalog)
    (name other : Text) :
    (register category signatures catalog name).find? other =
      if name = other then some (catalog.declared category signatures name)
      else catalog.find? other := by
  unfold register declared
  cases found : catalog.find? name with
  | none =>
      have absent := (find?_eq_none_iff catalog name).mp found
      dsimp only
      by_cases same : name = other
      · rw [if_pos same, ← same, find?, List.find?_append]
        rw [find?] at found
        simp [found]
      · rw [if_neg same, find?, List.find?_append]
        simp [same, find?]
  | some known =>
      dsimp only
      rw [find?_put, Command.merge_name, name_of_find? found]

/-- What a view sees of a known command does not change, and a new command comes last. -/
theorem map_register {α : Type} (view : Command → α)
    (stays : ∀ command signatures, view (Command.merge command signatures) = view command)
    (category : Section) (signatures : List Signature) (catalog : Catalog) (name : Text) :
    (register category signatures catalog name).map view =
      catalog.map view ++
        if name ∈ catalog.names then [] else [view ⟨name, category, signatures⟩] := by
  unfold register
  cases found : catalog.find? name with
  | none =>
      have absent := (find?_eq_none_iff catalog name).mp found
      rw [if_neg absent, List.map_append]
      rfl
  | some known =>
      have present : name ∈ catalog.names := by
        rw [← name_of_find? found]
        exact List.mem_map_of_mem (List.mem_of_find?_eq_some found)
      have kept : catalog.find? (known.merge signatures).name = some known := by
        rw [Command.merge_name, name_of_find? found, found]
      rw [if_pos present, List.append_nil]
      exact map_put view kept (stays known signatures)

/-- The catalog knows the command with all the signatures. -/
def Covers (catalog : Catalog) (signatures : List Signature) (name : Text) : Prop :=
  ∃ known, catalog.find? name = some known ∧
    ∀ signature ∈ signatures, Command.hasSignature known.signatures signature = true

/-- A rule that says nothing new changes nothing. -/
theorem register_of_covers {catalog : Catalog} {signatures : List Signature} {name : Text}
    (covers : catalog.Covers signatures name) (category : Section) :
    register category signatures catalog name = catalog := by
  obtain ⟨known, found, has⟩ := covers
  have same : catalog.find? known.name = some known := by
    rw [name_of_find? found, found]
  have put := map_put id same rfl
  rw [List.map_id, List.map_id] at put
  simp only [register, found]
  rw [Command.merge_of_forall_hasSignature has, put]

/-- What a rule has named is known with its signatures. -/
theorem covers_register (category : Section) (signatures : List Signature) (catalog : Catalog)
    (name : Text) : (register category signatures catalog name).Covers signatures name := by
  refine ⟨catalog.declared category signatures name, ?_, fun signature member => ?_⟩
  · rw [find?_register, if_pos rfl]
  · unfold declared
    cases catalog.find? name with
    | none => exact Command.hasSignature_of_mem member
    | some known => exact Command.hasSignature_merge member

/-- What is known stays known. -/
theorem Covers.register {catalog : Catalog} {signatures : List Signature} {name : Text}
    (covers : catalog.Covers signatures name) (category : Section) (more : List Signature)
    (other : Text) : (register category more catalog other).Covers signatures name := by
  obtain ⟨known, found, has⟩ := covers
  by_cases same : other = name
  · refine ⟨known.merge more, ?_, fun signature member => ?_⟩
    · rw [find?_register, if_pos same, declared, same, found]
    · exact Command.hasSignature_of_subset (known.prefix_merge more).subset (has signature member)
  · refine ⟨known, ?_, has⟩
    rw [find?_register, if_neg same, found]

end Catalog

end ItemFilter
