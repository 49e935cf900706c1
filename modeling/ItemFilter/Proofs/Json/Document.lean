/-
This file says what comes of a JSON text. A document is one value between spaces: it is read exactly
if its text spells it, and it goes beyond a limit exactly if its text does so at a place up to which
it is well formed.
-/

import ItemFilter.Proofs.Json.Value

namespace ItemFilter.Json

/-- What can come of reading a value from a text. -/
inductive ValueOutcome (level : Nat) : Text → Except Fault (Json × Text) → Prop where
  | malformed (text : Text) : ValueOutcome level text (.error .malformed)
  | exceeds {text : Text} {fault : Fault} (exceeds : Exceeds level text fault) :
      ValueOutcome level text (.error fault)
  | reads {spelled : Text} {value : Json} (spells : Spells level spelled value) (rest : Text) :
      ValueOutcome level (spelled ++ rest) (.ok (value, rest))

/-- What can come of reading the items of an array, behind the reversed ones already read. -/
inductive ItemsOutcome (level : Nat) (known : List Json) :
    Text → Except Fault (Json × Text) → Prop where
  | malformed (text : Text) : ItemsOutcome level known text (.error .malformed)
  | exceeds {lead text : Text} {fault : Fault} (before : List Slot)
      (spaced : ∀ slot ∈ before, slot.Spaced)
      (spells : ∀ slot ∈ before, Spells level slot.text slot.value) (spaces : Spaces lead)
      (exceeds : Exceeds level text fault) :
      ItemsOutcome level known (preceding Slot.written before ++ (lead ++ text)) (.error fault)
  | closes (before : List Slot) (last : Slot) (spaced : ∀ slot ∈ before ++ [last], slot.Spaced)
      (spells : ∀ slot ∈ before ++ [last], Spells level slot.text slot.value) (rest : Text) :
      ItemsOutcome level known (preceding Slot.written before ++ (last.written ++ ']' :: rest))
        (.ok (.array (known.reverse ++ (before ++ [last]).map Slot.value), rest))

/-- What can come of reading the fields of an object, behind those already read. -/
inductive FieldsOutcome (level : Nat) (known : List (Text × Json)) :
    Text → Except Fault (Json × Text) → Prop where
  | malformed (text : Text) : FieldsOutcome level known text (.error .malformed)
  | exceeds {lead text : Text} {fault : Fault} (before : List Member)
      (spaced : ∀ member ∈ before, member.Spaced)
      (spells : ∀ member ∈ before, Spells level member.slot.text member.slot.value) (key : Key)
      (spelled : key.Spelled) (spaces : Spaces lead) (exceeds : Exceeds level text fault) :
      FieldsOutcome level known
        (preceding Member.written before ++ (key.written ++ (lead ++ text))) (.error fault)
  | closes (before : List Member) (last : Member)
      (spaced : ∀ member ∈ before ++ [last], member.Spaced)
      (spells : ∀ member ∈ before ++ [last], Spells level member.slot.text member.slot.value)
      (rest : Text) :
      FieldsOutcome level known (preceding Member.written before ++ (last.written ++ '}' :: rest))
        (.ok (.object (gather known (before ++ [last])), rest))

section Containers

variable {level : Nat} {text : Text} {result : Except Fault (Json × Text)}

/-- One item more in front of the others. -/
theorem ItemsOutcome.cons {known : List Json} {slot : Slot} (spacedSlot : slot.Spaced)
    (spellsSlot : Spells level slot.text slot.value)
    (outcome : ItemsOutcome level (slot.value :: known) text result) :
    ItemsOutcome level known (slot.written ++ ',' :: text) result := by
  cases outcome with
  | malformed => exact .malformed _
  | exceeds before spaced spells spaces exceeds =>
      rw [← preceding_cons]
      exact .exceeds (slot :: before) (List.forall_mem_cons.mpr ⟨spacedSlot, spaced⟩)
        (List.forall_mem_cons.mpr ⟨spellsSlot, spells⟩) spaces exceeds
  | closes before last spaced spells rest =>
      rw [← preceding_cons, List.reverse_cons, List.append_assoc, List.singleton_append]
      exact .closes (slot :: before) last (List.forall_mem_cons.mpr ⟨spacedSlot, spaced⟩)
        (List.forall_mem_cons.mpr ⟨spellsSlot, spells⟩) rest

/-- One field more in front of the others. -/
theorem FieldsOutcome.cons {known : List (Text × Json)} {member : Member}
    (spacedMember : member.Spaced) (spellsMember : Spells level member.slot.text member.slot.value)
    (outcome : FieldsOutcome level (putField member.key.name member.slot.value known) text result) :
    FieldsOutcome level known (member.written ++ ',' :: text) result := by
  cases outcome with
  | malformed => exact .malformed _
  | exceeds before spaced spells key spelled spaces exceeds =>
      rw [← preceding_cons]
      exact .exceeds (member :: before) (List.forall_mem_cons.mpr ⟨spacedMember, spaced⟩)
        (List.forall_mem_cons.mpr ⟨spellsMember, spells⟩) key spelled spaces exceeds
  | closes before last spaced spells rest =>
      rw [← preceding_cons]
      exact .closes (member :: before) last (List.forall_mem_cons.mpr ⟨spacedMember, spaced⟩)
        (List.forall_mem_cons.mpr ⟨spellsMember, spells⟩) rest

theorem ItemsOutcome.array (outcome : ItemsOutcome level [] text result) :
    ValueOutcome (level + 1) ('[' :: text) result := by
  cases outcome with
  | malformed => exact .malformed _
  | exceeds before spaced spells spaces exceeds =>
      exact .exceeds (.item before spaced spells spaces exceeds)
  | closes before last spaced spells rest =>
      simpa using ValueOutcome.reads (.array before last spaced spells) rest

theorem FieldsOutcome.object (outcome : FieldsOutcome level [] text result) :
    ValueOutcome (level + 1) ('{' :: text) result := by
  cases outcome with
  | malformed => exact .malformed _
  | exceeds before spaced spells key spelled spaces exceeds =>
      exact .exceeds (.field before spaced spells key spelled spaces exceeds)
  | closes before last spaced spells rest =>
      simpa using ValueOutcome.reads (.object before last spaced spells) rest

end Containers

/-- A text that begins with neither a quote nor a bracket is a word or a number. -/
theorem scalarOutcome (level : Nat) (text : Text) :
    ValueOutcome level text
      (match readWord? text with
      | some found => .ok found
      | none => readNumber text) := by
  cases reads : readWord? text with
  | some found =>
      obtain ⟨word, listed, rfl⟩ := mem_of_readWord? reads
      exact .reads (.word listed) found.2
  | none =>
      rcases readNumber_cases text with fails | ⟨count, fails, overlong⟩ |
        ⟨value, spelled, rest, reads, rfl, spells⟩
      · simp only [fails]
        exact .malformed text
      · simp only [fails]
        exact .exceeds (.integer overlong)
      · simp only [reads]
        exact .reads (.number spells) rest

/-- What comes of the three readers that call each other, with so much room. -/
structure Outcomes (room : Nat) : Prop where
  value : ∀ level text, ValueOutcome level text (readValue room level text)
  items : ∀ level known gap text, Spaces gap →
    ItemsOutcome level known (gap ++ text) (readItems room level known text)
  fields : ∀ level known gap text, Spaces gap →
    FieldsOutcome level known (gap ++ text) (readFields room level known text)

namespace Outcomes

variable {room : Nat}

theorem string_step (level : Nat) (rest : Text) :
    ValueOutcome level ('"' :: rest) (readValue (room + 1) level ('"' :: rest)) := by
  cases reads : readString [] rest with
  | error fault =>
      obtain rfl := readString_error reads
      rw [readValue, reads]
      exact .malformed _
  | ok found =>
      obtain ⟨value, after⟩ := found
      rw [readValue_string room level rest reads]
      obtain ⟨spelled, units, rfl, spells, rfl⟩ := spells_of_readString reads
      have quoted : Spells level _ _ := .string spells
      have outcome := ValueOutcome.reads quoted after
      rwa [List.cons_append, List.append_assoc] at outcome

theorem array_step (outcomes : Outcomes room) (level : Nat) (rest : Text) :
    ValueOutcome level ('[' :: rest) (readValue (room + 1) level ('[' :: rest)) := by
  cases level with
  | zero => exact .exceeds (.array rest)
  | succ level =>
      have spaces := spaces_takeWhile rest
      have whole := takeWhile_append_skipSpace rest
      by_cases bracket : (skipSpace rest).head? = some ']'
      · obtain ⟨after, closes⟩ := List.head?_eq_some_iff.mp bracket
        rw [readValue_emptyArray room level rest closes, ← whole, closes]
        have closed : Spells (level + 1) _ _ := .emptyArray spaces
        have outcome := ValueOutcome.reads closed after
        rwa [List.cons_append, List.append_assoc] at outcome
      · have opens : ∀ after, skipSpace rest ≠ ']' :: after := by
          intro after closes
          exact bracket (by rw [closes]; rfl)
        rw [readValue_array room level rest opens]
        have outcome := outcomes.items level [] _ (skipSpace rest) spaces
        rw [whole] at outcome
        exact outcome.array

theorem object_step (outcomes : Outcomes room) (level : Nat) (rest : Text) :
    ValueOutcome level ('{' :: rest) (readValue (room + 1) level ('{' :: rest)) := by
  cases level with
  | zero => exact .exceeds (.object rest)
  | succ level =>
      have spaces := spaces_takeWhile rest
      have whole := takeWhile_append_skipSpace rest
      by_cases brace : (skipSpace rest).head? = some '}'
      · obtain ⟨after, closes⟩ := List.head?_eq_some_iff.mp brace
        rw [readValue_emptyObject room level rest closes, ← whole, closes]
        have closed : Spells (level + 1) _ _ := .emptyObject spaces
        have outcome := ValueOutcome.reads closed after
        rwa [List.cons_append, List.append_assoc] at outcome
      · have opens : ∀ after, skipSpace rest ≠ '}' :: after := by
          intro after closes
          exact brace (by rw [closes]; rfl)
        rw [readValue_object room level rest opens]
        have outcome := outcomes.fields level [] _ (skipSpace rest) spaces
        rw [whole] at outcome
        exact outcome.object

theorem value_step (outcomes : Outcomes room) (level : Nat) (text : Text) :
    ValueOutcome level text (readValue (room + 1) level text) := by
  by_cases quote : text.head? = some '"'
  · obtain ⟨rest, rfl⟩ := List.head?_eq_some_iff.mp quote
    exact string_step level rest
  by_cases brace : text.head? = some '{'
  · obtain ⟨rest, rfl⟩ := List.head?_eq_some_iff.mp brace
    exact outcomes.object_step level rest
  by_cases bracket : text.head? = some '['
  · obtain ⟨rest, rfl⟩ := List.head?_eq_some_iff.mp bracket
    exact outcomes.array_step level rest
  rw [readValue_scalar room level quote brace bracket]
  exact scalarOutcome level text

theorem items_step (outcomes : Outcomes room) (level : Nat) (known : List Json) (gap text : Text)
    (spaces : Spaces gap) :
    ItemsOutcome level known (gap ++ text) (readItems (room + 1) level known text) := by
  have outcome := outcomes.value level text
  rw [readItems]
  generalize readValue room level text = result at outcome
  cases outcome with
  | malformed => exact .malformed _
  | exceeds exceeds => exact .exceeds [] (by simp) (by simp) spaces exceeds
  | @reads spelled value spells rest =>
      let slot : Slot := ⟨gap, spelled, rest.takeWhile isSpace, value⟩
      have spaced : slot.Spaced := ⟨spaces, spaces_takeWhile rest⟩
      have whole : gap ++ (spelled ++ rest) = slot.written ++ skipSpace rest := by
        simp [slot, Slot.written, takeWhile_append_skipSpace]
      rw [whole]
      simp only [bind, Except.bind]
      split
      · next after closes =>
          rw [closes, List.reverse_cons]
          exact .closes [] slot (by simpa using spaced) (by simpa using spells) after
      · next after continues =>
          rw [continues]
          apply ItemsOutcome.cons spaced spells
          have outcome := outcomes.items level (value :: known) _ (skipSpace after)
            (spaces_takeWhile after)
          rwa [takeWhile_append_skipSpace] at outcome
      · exact .malformed _

/-- The value of a field, behind its key, and what follows it. -/
theorem field_step (outcomes : Outcomes room) (level : Nat) (known : List (Text × Json)) {key : Key}
    (spelled : key.Spelled) (gap text : Text) (spaces : Spaces gap) :
    FieldsOutcome level known (key.written ++ (gap ++ text))
      (do
        let (value, rest) ← readValue room level text
        match skipSpace rest with
        | '}' :: rest => return (.object (putField key.name value known), rest)
        | ',' :: rest => readFields room level (putField key.name value known) (skipSpace rest)
        | _ => .error .malformed) := by
  have outcome := outcomes.value level text
  generalize readValue room level text = result at outcome
  cases outcome with
  | malformed => exact .malformed _
  | exceeds exceeds => exact .exceeds [] (by simp) (by simp) key spelled spaces exceeds
  | @reads text value spells rest =>
      let member : Member := ⟨key, gap, text, rest.takeWhile isSpace, value⟩
      have spaced : member.Spaced := ⟨spelled, spaces, spaces_takeWhile rest⟩
      have whole : key.written ++ (gap ++ (text ++ rest)) = member.written ++ skipSpace rest := by
        simp [member, Member.written, Slot.written, takeWhile_append_skipSpace]
      rw [whole]
      simp only [bind, Except.bind]
      split
      · next after closes =>
          rw [closes]
          exact .closes [] member (by simpa using spaced) (by simpa using spells) after
      · next after continues =>
          rw [continues]
          apply FieldsOutcome.cons spaced spells
          have outcome := outcomes.fields level (putField key.name value known) _ (skipSpace after)
            (spaces_takeWhile after)
          rwa [takeWhile_append_skipSpace] at outcome
      · exact .malformed _

theorem fields_step (outcomes : Outcomes room) (level : Nat) (known : List (Text × Json))
    (gap text : Text) (spaces : Spaces gap) :
    FieldsOutcome level known (gap ++ text) (readFields (room + 1) level known text) := by
  by_cases quote : text.head? = some '"'
  · obtain ⟨rest, rfl⟩ := List.head?_eq_some_iff.mp quote
    rw [readFields]
    cases reads : readString [] rest with
    | error fault =>
        obtain rfl := readString_error reads
        exact .malformed _
    | ok found =>
        obtain ⟨name, after⟩ := found
        obtain ⟨spelled, units, rfl, spells, rfl⟩ := spells_of_readString reads
        simp only [bind, Except.bind]
        split
        · next behind colon =>
            let key : Key := ⟨gap, spelled, after.takeWhile isSpace, joinUnits units⟩
            have spelledKey : key.Spelled := ⟨spaces, spaces_takeWhile after, units, spells, rfl⟩
            have outcome := outcomes.field_step level known spelledKey _ (skipSpace behind)
              (spaces_takeWhile behind)
            have whole : gap ++ '"' :: (spelled ++ '"' :: after) = key.written ++ behind := by
              rw [← takeWhile_append_skipSpace after, colon]
              simp [key, Key.written]
            rw [whole]
            rwa [takeWhile_append_skipSpace] at outcome
        · exact .malformed _
  · have fails : readFields (room + 1) level known text = .error .malformed := by
      rw [readFields]
      rintro rest rfl
      exact quote rfl
    rw [fails]
    exact .malformed _

end Outcomes

theorem outcomes (room : Nat) : Outcomes room := by
  induction room with
  | zero =>
      constructor
      · intro level text
        exact .malformed text
      · intro level known gap text spaces
        exact .malformed _
      · intro level known gap text spaces
        exact .malformed _
  | succ room ih => exact ⟨ih.value_step, ih.items_step, ih.fields_step⟩

end ItemFilter.Json
