/-
This file says when a reading of numerals stops: exactly when one of them is too long.
-/

import ItemFilter.Text.Numeral

namespace ItemFilter

/-- The reading stops at a numeral that is too long. -/
def Stops {α : Type} (result : Except NumeralTooLong α) : Prop :=
  ∃ fault, result = .error fault

theorem not_stops_ok {α : Type} (value : α) : ¬ Stops (.ok value) := by
  rintro ⟨fault, same⟩
  cases same

theorem stops_error {α : Type} (fault : NumeralTooLong) :
    Stops (.error fault : Except NumeralTooLong α) :=
  ⟨fault, rfl⟩

/-- What is made of the values read does not matter. -/
theorem stops_map_iff {α β : Type} (use : α → β) (result : Except NumeralTooLong α) :
    Stops (do return use (← result)) ↔ Stops result := by
  cases result with
  | error fault => exact ⟨fun _ => stops_error fault, fun _ => stops_error fault⟩
  | ok value => exact ⟨fun stops => absurd stops (not_stops_ok _),
      fun stops => absurd stops (not_stops_ok _)⟩

/-- A list is read to its end unless one of its items stops the reading. -/
theorem stops_mapM_iff {α β : Type} (read : α → Except NumeralTooLong β) (items : List α) :
    Stops (items.mapM read) ↔ ∃ item ∈ items, Stops (read item) := by
  induction items with
  | nil => simp [Stops, pure, Except.pure]
  | cons item rest ih =>
      simp only [List.mapM_cons, List.mem_cons, exists_eq_or_imp, ← ih]
      cases first : read item with
      | error fault => simp [Stops, bind, Except.bind]
      | ok value =>
          cases rest.mapM read <;> simp [Stops, bind, Except.bind, pure, Except.pure]

/-- A list whose items can all be read is read item by item. -/
theorem mapM_of_forall_ok {α β : Type} {read : α → Except NumeralTooLong β} {value : α → β}
    {items : List α} (readable : ∀ item ∈ items, read item = .ok (value item)) :
    items.mapM read = .ok (items.map value) := by
  induction items with
  | nil => rfl
  | cons item rest ih =>
      have tail := ih fun other member => readable other (List.mem_cons_of_mem item member)
      rw [List.mapM_cons, readable item List.mem_cons_self, tail]
      rfl

/-- The value of a numeral does not matter, only its length. -/
theorem stops_readDigits_iff (digits : Text) :
    Stops (Text.readDigits digits) ↔ numeralLimit < digits.length := by
  unfold Text.readDigits
  split
  · next short =>
      exact ⟨fun stops => absurd stops (not_stops_ok _), fun long => by omega⟩
  · next long => exact ⟨fun _ => by omega, fun _ => stops_error _⟩

theorem readDigits_of_not_stops {digits : Text} (short : ¬ numeralLimit < digits.length) :
    Text.readDigits digits = .ok digits.digitsValue := by
  rw [Text.readDigits, if_pos (by omega)]

end ItemFilter
