/-
This file compares two lines that differ in surplus arguments: those behind the end of every
signature. They are neither scored nor checked, so both lines get the same verdict.
-/

import ItemFilter.Proofs.Selection

namespace ItemFilter

/-- The longer line has the command and the arguments of the line at the same columns, and surplus
arguments behind them. -/
structure CodeLine.Extends (longer code : CodeLine) (surplus : List Token) : Prop where
  number : longer.line.number = code.line.number
  command : longer.command = code.command
  arguments : longer.arguments = code.arguments ++ surplus

theorem CodeLine.Extends.argumentTexts {longer code : CodeLine} {surplus : List Token}
    (extended : longer.Extends code surplus) :
    longer.argumentTexts = code.argumentTexts ++ surplus.map Token.text := by
  rw [CodeLine.argumentTexts, extended.arguments, List.map_append]
  rfl

namespace Signature

/-- A parameter is paired with the argument at its own place, so the others are left alone. -/
theorem zip_append_surplus {α : Type} {signature : Signature} {items : List α}
    (enough : signature.length ≤ items.length) (surplus : List α) :
    signature.zip (items ++ surplus) = signature.zip items := by
  induction signature generalizing items with
  | nil => rfl
  | cons parameter rest ih =>
      cases items with
      | nil => cases enough
      | cons item others =>
          rw [List.cons_append, List.zip_cons_cons, List.zip_cons_cons,
            ih (Nat.le_of_succ_le_succ enough)]

theorem score_append_surplus {signature : Signature} {arguments : List Text}
    (enough : signature.length ≤ arguments.length) (surplus : List Text) :
    signature.score (arguments ++ surplus) = signature.score arguments := by
  rw [score, score, argumentScores, argumentScores, zip_append_surplus enough]

/-- All signatures keep their scores, so the choice stays the same or stops at the same numeral. -/
theorem select_append_surplus {signatures : List Signature} {arguments : List Text}
    (enough : ∀ signature ∈ signatures, signature.length ≤ arguments.length)
    (surplus : List Text) :
    select signatures (arguments ++ surplus) = select signatures arguments := by
  have scores : (signatures.mapM fun signature => signature.score (arguments ++ surplus)) =
      signatures.mapM fun signature => signature.score arguments :=
    mapM_congr fun signature member => score_append_surplus (enough signature member) surplus
  rw [select, select, scores]

/-- No parameter is left without an argument, so the last column of the line is not reported. -/
theorem check_of_extends {signature : Signature} {longer code : CodeLine} {surplus : List Token}
    (extended : longer.Extends code surplus)
    (enough : signature.length ≤ code.arguments.length) :
    signature.check longer = signature.check code := by
  have refusals : mismatch longer = mismatch code := by
    funext parameter argument
    rw [mismatch, mismatch, extended.number, extended.command]
  have none : signature.drop code.arguments.length = [] := List.drop_of_length_le enough
  have noneLonger : signature.drop longer.arguments.length = [] := by
    apply List.drop_of_length_le
    rw [extended.arguments, List.length_append]
    omega
  rw [check, check, checkFrom_eq, checkFrom_eq, none, noneLonger, refusals, extended.arguments,
    zip_append_surplus enough]
  rfl

/-- Of some signatures one is chosen, unless a numeral stops the choice. -/
theorem select_cases {signatures : List Signature} (nonempty : signatures ≠ [])
    (arguments : List Text) :
    (∃ fault, select signatures arguments = .error fault) ∨
      ∃ chosen ∈ signatures, select signatures arguments = .ok (some chosen) := by
  by_cases stops : Stops (select signatures arguments)
  · exact .inl stops
  · let points (signature : Signature) : Int := (signature.score arguments).toOption.getD 0
    have scored : ∀ signature ∈ signatures,
        signature.score arguments = .ok (points signature) := by
      intro signature member
      cases score : signature.score arguments with
      | ok value => simp [points, score, Except.toOption]
      | error fault =>
          have meets := (stops_score_iff signature arguments).mp ⟨fault, score⟩
          exact absurd ((stops_select_iff _ _).mpr ⟨signature, member, meets⟩) stops
    obtain ⟨before, chosen, after, rfl, selected, -⟩ := select_split scored nonempty
    exact .inr ⟨chosen, by simp, selected⟩

/-- Arguments behind the end of the longest signature do not matter: the same signature is chosen,
or both choices stop at the same numeral, and the arguments get the same diagnostics. -/
theorem check_select_of_extends {signatures : List Signature} (nonempty : signatures ≠ [])
    {longer code : CodeLine} {surplus : List Token} (extended : longer.Extends code surplus)
    (enough : ∀ signature ∈ signatures, signature.length ≤ code.arguments.length) :
    (∃ fault, select signatures code.argumentTexts = .error fault ∧
        select signatures longer.argumentTexts = .error fault) ∨
      ∃ chosen ∈ signatures, select signatures code.argumentTexts = .ok (some chosen) ∧
        select signatures longer.argumentTexts = .ok (some chosen) ∧
        chosen.check longer = chosen.check code := by
  have same : select signatures longer.argumentTexts = select signatures code.argumentTexts := by
    rw [extended.argumentTexts]
    apply select_append_surplus
    simpa [CodeLine.argumentTexts] using enough
  rw [same]
  rcases select_cases nonempty code.argumentTexts with ⟨fault, stops⟩ | ⟨chosen, member, selected⟩
  · exact .inl ⟨fault, stops, stops⟩
  · exact .inr ⟨chosen, member, selected, selected,
      check_of_extends extended (enough chosen member)⟩

/-- A word and two surplus arguments, one of them in quotes: the shorter signature is chosen for
both lines, and it refuses the word in both. -/
theorem check_select_of_extends_word :
    let number : Parameter := ⟨.number, true, none, none, none⟩
    let word : Parameter := ⟨.shape, true, some .equality, none, none⟩
    let signatures : List Signature := [[number, number], [word]]
    ∃ code longer, CodeLine.ofLine? ⟨3, " Icon a b # c".toList⟩ = some code ∧
      CodeLine.ofLine? ⟨3, " Icon a b \"c d\" 9".toList⟩ = some longer ∧
      longer.Extends code [⟨"\"c d\"".toList, 10⟩, ⟨['9'], 16⟩] ∧
      (∀ signature ∈ signatures, signature.length ≤ code.arguments.length) ∧
      select signatures longer.argumentTexts = .ok (some [word]) ∧
      Signature.check [word] longer = Signature.check [word] code ∧
      Signature.check [word] code ≠ [] := by
  intro number word signatures
  let line : Line := ⟨3, " Icon a b # c".toList⟩
  let longLine : Line := ⟨3, " Icon a b \"c d\" 9".toList⟩
  let surplus : List Token := [⟨"\"c d\"".toList, 10⟩, ⟨['9'], 16⟩]
  let code : CodeLine := ⟨line, ⟨"Icon".toList, 1⟩, [⟨['a'], 6⟩, ⟨['b'], 8⟩]⟩
  let longer : CodeLine := ⟨longLine, code.command, code.arguments ++ surplus⟩
  have extended : longer.Extends code surplus := ⟨rfl, rfl, rfl⟩
  have enough : ∀ signature ∈ signatures, signature.length ≤ code.arguments.length := by
    simp [signatures, code]
  have selected : select signatures code.argumentTexts = .ok (some [word]) := rfl
  refine ⟨code, longer, by decide +kernel, by decide +kernel, extended, enough, ?_⟩
  rcases check_select_of_extends (by simp [signatures]) extended enough with
    ⟨fault, stops, -⟩ | ⟨chosen, -, chooses, again, same⟩
  · rw [selected] at stops
    cases stops
  · obtain rfl : chosen = [word] := Option.some.inj (Except.ok.inj (chooses.symm.trans selected))
    exact ⟨again, same, by decide +kernel⟩

end Signature

end ItemFilter
