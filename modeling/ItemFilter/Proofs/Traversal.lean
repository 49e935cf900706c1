/-
This file says what it means that a list is read item by item: the reading ends at the first item
that fails, and otherwise it gives one value for each item.
-/

namespace ItemFilter

/-- Two steps give a value only if the first one gives what the second one takes. -/
theorem exists_of_bind_ok {ε α β : Type} {first : Except ε α} {next : α → Except ε β} {value : β}
    (ok : first >>= next = .ok value) : ∃ found, first = .ok found ∧ next found = .ok value := by
  cases first with
  | error fault => cases ok
  | ok found => exact ⟨found, rfl, ok⟩

theorem toOption_eq_some_iff {ε α : Type} (result : Except ε α) (value : α) :
    result.toOption = some value ↔ result = .ok value := by
  cases result <;> simp [Except.toOption]

/-- A list that is read to its end gives the values of its items. -/
theorem map_of_mapM_ok {ε α β : Type} {read : α → Except ε β} {items : List α} {values : List β}
    (ok : items.mapM read = .ok values) : items.map read = values.map .ok := by
  induction items generalizing values with
  | nil =>
      obtain rfl : [] = values := Except.ok.inj ok
      rfl
  | cons item rest ih =>
      rw [List.mapM_cons] at ok
      obtain ⟨value, first, ok⟩ := exists_of_bind_ok ok
      obtain ⟨found, others, ok⟩ := exists_of_bind_ok ok
      obtain rfl : value :: found = values := Except.ok.inj ok
      rw [List.map_cons, List.map_cons, first, ih others]

/-- Only what is read of the items counts. -/
theorem mapM_congr {ε α β : Type} {read other : α → Except ε β} {items : List α}
    (same : ∀ item ∈ items, read item = other item) : items.mapM read = items.mapM other := by
  induction items with
  | nil => rfl
  | cons item rest ih =>
      obtain ⟨first, others⟩ := List.forall_mem_cons.mp same
      rw [List.mapM_cons, List.mapM_cons, first, ih others]

/-- A view of the values may be taken item by item. -/
theorem map_mapM {ε α β γ : Type} (read : α → Except ε β) (view : β → γ) (items : List α) :
    (items.mapM read).map (List.map view) = items.mapM fun item => (read item).map view := by
  induction items with
  | nil => rfl
  | cons item rest ih =>
      rw [List.mapM_cons, List.mapM_cons, ← ih]
      cases read item with
      | error fault => rfl
      | ok value => cases rest.mapM read <;> rfl

/-- The reading of a list ends with the fault of the first item that has one. -/
theorem mapM_eq_error_iff {ε α β : Type} (read : α → Except ε β) (items : List α) (fault : ε) :
    items.mapM read = .error fault ↔
      ∃ before item after, items = before ++ item :: after ∧
        (∀ earlier ∈ before, ∃ value, read earlier = .ok value) ∧ read item = .error fault := by
  induction items with
  | nil => simp [pure, Except.pure]
  | cons item rest ih =>
      rw [List.mapM_cons]
      cases first : read item with
      | error other =>
          constructor
          · intro same
            obtain rfl : other = fault := Except.error.inj same
            exact ⟨[], item, rest, rfl, by simp, first⟩
          · rintro ⟨before, broken, after, split, readable, fails⟩
            cases before with
            | nil =>
                obtain ⟨rfl, rfl⟩ := List.cons.inj split
                rw [first] at fails
                exact congrArg _ (Except.error.inj fails)
            | cons earlier others =>
                obtain ⟨rfl, rfl⟩ := List.cons.inj split
                obtain ⟨value, ok⟩ := readable item (by simp)
                rw [first] at ok
                cases ok
      | ok value =>
          have tail : (do return value :: (← rest.mapM read)) = .error fault ↔
              rest.mapM read = .error fault := by
            cases rest.mapM read <;> simp [bind, Except.bind, pure, Except.pure]
          refine tail.trans (ih.trans ⟨?_, ?_⟩)
          · rintro ⟨before, broken, after, rfl, readable, fails⟩
            refine ⟨item :: before, broken, after, rfl, ?_, fails⟩
            rintro earlier (_ | ⟨_, member⟩)
            · exact ⟨value, first⟩
            · exact readable earlier member
          · rintro ⟨before, broken, after, split, readable, fails⟩
            cases before with
            | nil =>
                obtain ⟨rfl, rfl⟩ := List.cons.inj split
                rw [first] at fails
                cases fails
            | cons earlier others =>
                obtain ⟨rfl, rfl⟩ := List.cons.inj split
                exact ⟨others, broken, after, rfl,
                  fun earlier member => readable earlier (List.mem_cons_of_mem _ member), fails⟩

end ItemFilter
