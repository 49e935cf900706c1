/-
This file says how values are spelled in JSON texts, and that a text is read exactly if it spells a
value. The only other failure besides a malformed text is a text that is well formed up to a place
where it goes beyond a limit.
-/

import ItemFilter.Proofs.Json.Scalar
import ItemFilter.Proofs.Traversal

namespace ItemFilter.Json

/-- A text of spaces only. -/
def Spaces (text : Text) : Prop :=
  ∀ character ∈ text, isSpace character = true

instance (text : Text) : Decidable (Spaces text) :=
  List.decidableBAll _ text

/-- A value with the spaces around it. -/
structure Slot where
  lead : Text
  text : Text
  trail : Text
  value : Json

def Slot.written (slot : Slot) : Text :=
  slot.lead ++ (slot.text ++ slot.trail)

structure Slot.Spaced (slot : Slot) : Prop where
  lead : Spaces slot.lead
  trail : Spaces slot.trail

/-- The key of a field with the spaces around it. -/
structure Key where
  lead : Text
  text : Text
  trail : Text
  name : Text

/-- The key up to its colon. -/
def Key.written (key : Key) : Text :=
  key.lead ++ '"' :: (key.text ++ '"' :: (key.trail ++ [':']))

structure Key.Spelled (key : Key) : Prop where
  lead : Spaces key.lead
  trail : Spaces key.trail
  units : ∃ units, SpellsUnits key.text units ∧ key.name = joinUnits units

/-- A field of an object. -/
structure Member where
  key : Key
  slot : Slot

def Member.written (member : Member) : Text :=
  member.key.written ++ member.slot.written

structure Member.Spaced (member : Member) : Prop where
  key : member.key.Spelled
  slot : member.slot.Spaced

/-- The parts that stand before another one, each with its comma. -/
def preceding {α : Type} (written : α → Text) (parts : List α) : Text :=
  parts.flatMap fun part => written part ++ [',']

/-- The fields that the members give, one after the other. -/
def gather (fields : List (Text × Json)) (members : List Member) : List (Text × Json) :=
  members.foldl (fun known member => putField member.key.name member.slot.value known) fields

/-- The text spells the value, with at most so many containers around each other. -/
inductive Spells : Nat → Text → Json → Prop where
  | word {level : Nat} {text : Text} {value : Json} (listed : (text, value) ∈ words) :
      Spells level text value
  | number {level : Nat} {text : Text} {value : Json} (spells : SpellsNumber text value) :
      Spells level text value
  | string {level : Nat} {text : Text} {units : List Nat} (spells : SpellsUnits text units) :
      Spells level ('"' :: (text ++ ['"'])) (.string (joinUnits units))
  | emptyArray {level : Nat} {gap : Text} (spaces : Spaces gap) :
      Spells (level + 1) ('[' :: (gap ++ [']'])) (.array [])
  | array {level : Nat} (before : List Slot) (last : Slot)
      (spaced : ∀ slot ∈ before ++ [last], slot.Spaced)
      (spells : ∀ slot ∈ before ++ [last], Spells level slot.text slot.value) :
      Spells (level + 1) ('[' :: (preceding Slot.written before ++ (last.written ++ [']'])))
        (.array ((before ++ [last]).map Slot.value))
  | emptyObject {level : Nat} {gap : Text} (spaces : Spaces gap) :
      Spells (level + 1) ('{' :: (gap ++ ['}'])) (.object [])
  | object {level : Nat} (before : List Member) (last : Member)
      (spaced : ∀ member ∈ before ++ [last], member.Spaced)
      (spells : ∀ member ∈ before ++ [last], Spells level member.slot.text member.slot.value) :
      Spells (level + 1) ('{' :: (preceding Member.written before ++ (last.written ++ ['}'])))
        (.object (gather [] (before ++ [last])))

/-- The text is well formed up to a place where an integer has too many digits, or where one
container more is opened than may be. -/
inductive Exceeds : Nat → Text → Fault → Prop where
  | integer {level : Nat} {text : Text} {count : Nat} (overlong : StartsOverlong text count) :
      Exceeds level text (.numeral ⟨count⟩)
  | array (rest : Text) : Exceeds 0 ('[' :: rest) (.tooDeep ⟨.array⟩)
  | object (rest : Text) : Exceeds 0 ('{' :: rest) (.tooDeep ⟨.object⟩)
  | item {level : Nat} {lead text : Text} {fault : Fault} (before : List Slot)
      (spaced : ∀ slot ∈ before, slot.Spaced)
      (spells : ∀ slot ∈ before, Spells level slot.text slot.value) (spaces : Spaces lead)
      (exceeds : Exceeds level text fault) :
      Exceeds (level + 1) ('[' :: (preceding Slot.written before ++ (lead ++ text))) fault
  | field {level : Nat} {lead text : Text} {fault : Fault} (before : List Member)
      (spaced : ∀ member ∈ before, member.Spaced)
      (spells : ∀ member ∈ before, Spells level member.slot.text member.slot.value) (key : Key)
      (spelled : key.Spelled) (spaces : Spaces lead) (exceeds : Exceeds level text fault) :
      Exceeds (level + 1)
        ('{' :: (preceding Member.written before ++ (key.written ++ (lead ++ text)))) fault

/-- The text begins with a character that is neither a space nor closes a container. -/
def Visible (text : Text) : Prop :=
  ∃ first others, text = first :: others ∧ isSpace first = false ∧ first ≠ ']' ∧ first ≠ '}'

theorem Visible.append {text : Text} (visible : Visible text) (rest : Text) :
    Visible (text ++ rest) := by
  obtain ⟨first, others, rfl, unlike⟩ := visible
  exact ⟨first, others ++ rest, rfl, unlike⟩

theorem visible_digit (sign : Text.Sign) {digit : Char} (isDigit : Text.isPlainDigit digit = true)
    (others : Text) : Visible (minusText sign ++ digit :: others) := by
  cases sign with
  | plus =>
      refine ⟨digit, others, rfl, ?_, ?_, ?_⟩
      · rw [← Bool.not_eq_true, isSpace]
        intro space
        simp only [Bool.or_eq_true, beq_iff_eq] at space
        revert isDigit
        rcases space with ((rfl | rfl) | rfl) | rfl <;> decide
      · rintro rfl
        revert isDigit
        decide
      · rintro rfl
        revert isDigit
        decide
  | minus => exact ⟨'-', digit :: others, rfl, by decide, by decide, by decide⟩

/-- A number begins with a digit, or with a minus and a digit. -/
theorem exists_digit_of_spells {text : Text} {value : Json} (spells : SpellsNumber text value) :
    ∃ sign digit others, text = minusText sign ++ digit :: others ∧
      Text.isPlainDigit digit = true := by
  cases spells with
  | integer sign isWhole short =>
      obtain ⟨digit, others, rfl⟩ := List.exists_cons_of_ne_nil isWhole.nonempty
      exact ⟨sign, digit, others, rfl, isWhole.digit digit List.mem_cons_self⟩
  | real sign isWhole fractional exponential isReal =>
      obtain ⟨digit, others, rfl⟩ := List.exists_cons_of_ne_nil isWhole.nonempty
      exact ⟨sign, digit, _, rfl, isWhole.digit digit List.mem_cons_self⟩

theorem exists_digit_of_overlong {text : Text} {count : Nat}
    (overlong : StartsOverlong text count) :
    ∃ sign digit others, text = minusText sign ++ digit :: others ∧
      Text.isPlainDigit digit = true := by
  obtain ⟨sign, whole, rest, rfl, isWhole, -⟩ := overlong
  obtain ⟨digit, others, rfl⟩ := List.exists_cons_of_ne_nil isWhole.nonempty
  exact ⟨sign, digit, _, rfl, isWhole.digit digit List.mem_cons_self⟩

theorem Spells.visible {level : Nat} {text : Text} {value : Json}
    (spells : Spells level text value) : Visible text := by
  cases spells with
  | word listed =>
      simp only [words, List.mem_cons, Prod.mk.injEq, List.not_mem_nil, or_false] at listed
      rcases listed with ⟨rfl, -⟩ | ⟨rfl, -⟩ | ⟨rfl, -⟩ | ⟨rfl, -⟩ | ⟨rfl, -⟩ | ⟨rfl, -⟩ <;>
        exact ⟨_, _, rfl, by decide, by decide, by decide⟩
  | number spells =>
      obtain ⟨sign, digit, others, rfl, isDigit⟩ := exists_digit_of_spells spells
      exact visible_digit sign isDigit others
  | string spells => exact ⟨_, _, rfl, by decide, by decide, by decide⟩
  | emptyArray spaces => exact ⟨_, _, rfl, by decide, by decide, by decide⟩
  | array before last spaced spells => exact ⟨_, _, rfl, by decide, by decide, by decide⟩
  | emptyObject spaces => exact ⟨_, _, rfl, by decide, by decide, by decide⟩
  | object before last spaced spells => exact ⟨_, _, rfl, by decide, by decide, by decide⟩

theorem Exceeds.visible {level : Nat} {text : Text} {fault : Fault}
    (exceeds : Exceeds level text fault) : Visible text := by
  cases exceeds with
  | integer overlong =>
      obtain ⟨sign, digit, others, rfl, isDigit⟩ := exists_digit_of_overlong overlong
      exact visible_digit sign isDigit others
  | array rest => exact ⟨_, _, rfl, by decide, by decide, by decide⟩
  | object rest => exact ⟨_, _, rfl, by decide, by decide, by decide⟩
  | item before spaced spells spaces exceeds =>
      exact ⟨_, _, rfl, by decide, by decide, by decide⟩
  | field before spaced spells key spelled spaces exceeds =>
      exact ⟨_, _, rfl, by decide, by decide, by decide⟩

theorem skipSpace_append {spaces : Text} (space : Spaces spaces) (rest : Text) :
    skipSpace (spaces ++ rest) = skipSpace rest :=
  List.dropWhile_append_of_pos space

theorem spaces_takeWhile (text : Text) : Spaces (text.takeWhile isSpace) :=
  fun character member => List.all_eq_true.mp List.all_takeWhile character member

theorem takeWhile_append_skipSpace (text : Text) :
    text.takeWhile isSpace ++ skipSpace text = text :=
  List.takeWhile_append_dropWhile

theorem preceding_cons {α : Type} (written : α → Text) (part : α) (parts : List α) (rest : Text) :
    preceding written (part :: parts) ++ rest =
      written part ++ ',' :: (preceding written parts ++ rest) := by
  simp [preceding]

theorem mem_of_readWord? {text rest : Text} {value : Json}
    (read : readWord? text = some (value, rest)) :
    ∃ word, (word, value) ∈ words ∧ text = word ++ rest := by
  obtain ⟨⟨word, found⟩, listed, same⟩ := List.exists_of_findSome?_eq_some read
  dsimp only at same
  split at same
  · next begins =>
      obtain ⟨rfl, rfl⟩ := Prod.mk.inj (Option.some.inj same)
      obtain ⟨others, rfl⟩ := List.isPrefixOf_iff_prefix.mp begins
      exact ⟨word, listed, by rw [List.drop_left]⟩
  · cases same

section Equations

variable (room level : Nat) (rest : Text)

theorem readValue_string {value after : Text} (reads : readString [] rest = .ok (value, after)) :
    readValue (room + 1) level ('"' :: rest) = .ok (.string value, after) := by
  rw [readValue, reads]
  rfl

theorem readValue_emptyArray {after : Text} (closes : skipSpace rest = ']' :: after) :
    readValue (room + 1) (level + 1) ('[' :: rest) = .ok (.array [], after) := by
  simp only [readValue, enter, bind, Except.bind, closes]
  rfl

theorem readValue_array (opens : ∀ after, skipSpace rest ≠ ']' :: after) :
    readValue (room + 1) (level + 1) ('[' :: rest) = readItems room level [] (skipSpace rest) := by
  simp only [readValue, enter, bind, Except.bind]

theorem readValue_emptyObject {after : Text} (closes : skipSpace rest = '}' :: after) :
    readValue (room + 1) (level + 1) ('{' :: rest) = .ok (.object [], after) := by
  simp only [readValue, enter, bind, Except.bind, closes]
  rfl

theorem readValue_object (opens : ∀ after, skipSpace rest ≠ '}' :: after) :
    readValue (room + 1) (level + 1) ('{' :: rest) = readFields room level [] (skipSpace rest) := by
  simp only [readValue, enter, bind, Except.bind]

theorem readValue_scalar {text : Text} (quote : text.head? ≠ some '"')
    (brace : text.head? ≠ some '{') (bracket : text.head? ≠ some '[') :
    readValue (room + 1) level text =
      match readWord? text with
      | some found => .ok found
      | none => readNumber text := by
  rw [readValue.eq_def]
  dsimp only
  split
  · exact absurd rfl quote
  · exact absurd rfl brace
  · exact absurd rfl bracket
  · rfl

end Equations

/-- With enough room the value is read from the text, before anything that ends a value. -/
def Reads (level : Nat) (text : Text) (value : Json) : Prop :=
  ∀ room rest, Delimited rest → 2 * (text ++ rest).length < room →
    readValue room level (text ++ rest) = .ok (value, rest)

/-- A key is read up to its colon. -/
theorem Key.Spelled.reads {key : Key} (spelled : key.Spelled) (rest : Text) :
    ∃ tail, skipSpace (key.written ++ rest) = '"' :: tail ∧
      readString [] tail = .ok (key.name, key.trail ++ ':' :: rest) ∧
      skipSpace (key.trail ++ ':' :: rest) = ':' :: rest := by
  obtain ⟨units, spells, name⟩ := spelled.units
  refine ⟨key.text ++ '"' :: (key.trail ++ ':' :: rest), ?_, ?_, ?_⟩
  · have whole : key.written ++ rest =
        key.lead ++ '"' :: (key.text ++ '"' :: (key.trail ++ ':' :: rest)) := by
      simp [Key.written]
    rw [whole, skipSpace_append spelled.lead]
    rfl
  · rw [name]
    exact readString_of_spells spells [] (key.trail ++ ':' :: rest)
  · rw [skipSpace_append spelled.trail]
    rfl

end ItemFilter.Json
