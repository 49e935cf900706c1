/-
This file says that a list of aliases is read as it is written. Marks before the list do not matter,
and neither does anything behind it. Whatever an expression is, the names read from it stand in it.
-/

import ItemFilter.Proofs.Normalization
import ItemFilter.Proofs.Probing

namespace ItemFilter

namespace Text

/-- Stripping a text that begins and goes on with visible characters takes nothing before them. -/
theorem exists_strip_append {first sign : Char} (visible : isBlank first = false)
    (solid : isBlank sign = false) (front tail : Text) :
    ∃ rest, strip (first :: front ++ sign :: tail) = first :: front ++ sign :: rest := by
  have begins : (first :: front ++ sign :: tail).dropWhile isBlank =
      first :: front ++ sign :: tail :=
    List.dropWhile_cons_of_neg (by simp [visible])
  have ends : ∃ rest, (first :: front ++ sign :: tail).reverse.dropWhile isBlank =
      rest ++ sign :: (first :: front).reverse := by
    rw [List.reverse_append, List.reverse_cons, List.append_assoc, List.dropWhile_append]
    split
    · exact ⟨[], List.dropWhile_cons_of_neg (by simp [solid])⟩
    · exact ⟨_, rfl⟩
  obtain ⟨rest, kept⟩ := ends
  refine ⟨rest.reverse, ?_⟩
  rw [strip, trim, begins, kept]
  simp

theorem strip_infix (text : Text) : strip text <:+: text := by
  obtain ⟨lead, trail, parts, -, -⟩ := exists_padding text
  exact ⟨lead, trail, by rw [List.append_assoc, ← parts]⟩

theorem infix_intercalate {separator piece : Text} {pieces : List Text} (member : piece ∈ pieces) :
    piece <:+: separator.intercalate pieces := by
  induction pieces with
  | nil => cases member
  | cons first others ih =>
      cases others with
      | nil =>
          obtain rfl := List.mem_singleton.mp member
          simp
      | cons second more =>
          rw [List.intercalate_cons_cons, List.append_assoc]
          rcases List.mem_cons.mp member with rfl | later
          · exact (List.prefix_append _ _).isInfix
          · exact (ih later).trans ((List.suffix_append _ _).trans (List.suffix_append _ _)).isInfix

/-- What stands between the separators is a part of the text. -/
theorem infix_of_mem_pieces {separator : Char} {text piece : Text}
    (member : piece ∈ text.pieces separator) : piece <:+: text := by
  rw [pieces_eq_splitOn] at member
  have within : piece <:+: [separator].intercalate (text.splitOn separator) :=
    infix_intercalate member
  rwa [List.intercalate_splitOn] at within

end Text

namespace CommandName

section Parts

theorem dropStart_suffix (start text : Text) : dropStart start text <:+ text := by
  rw [dropStart]
  split
  · exact List.drop_suffix _ _
  · exact List.suffix_rfl

theorem dropMarks_suffix (text : Text) : dropMarks text <:+ text :=
  (dropStart_suffix _ _).trans (dropStart_suffix _ _)

theorem infix_of_groupAtStart? {text group : Text} (found : groupAtStart? text = some group) :
    group <:+: text := by
  unfold groupAtStart? at found
  split at found
  · next rest =>
      dsimp only at found
      split at found
      · obtain rfl := Option.some.inj found
        have inner : dropStart "?:".toList rest <:+: '(' :: rest :=
          ((dropStart_suffix _ rest).trans (List.suffix_cons _ rest)).isInfix
        exact (List.takeWhile_prefix isNameOrBar).isInfix.trans inner
      · cases found
  · cases found

theorem infix_of_groupAnywhere? {text group : Text} (found : groupAnywhere? text = some group) :
    group <:+: text := by
  induction text with
  | nil => cases found
  | cons first rest ih =>
      rw [groupAnywhere?] at found
      rcases (Option.orElse_eq_some _ _ _).mp found with here | ⟨-, later⟩
      · exact infix_of_groupAtStart? here
      · exact (ih later).trans (List.suffix_cons first rest).isInfix

theorem prefix_of_loneWord? {text word : Text} (found : loneWord? text = some word) :
    word <+: text := by
  unfold loneWord? at found
  split at found
  · exact Option.some.inj found ▸ List.takeWhile_prefix _
  · exact Option.some.inj found ▸ List.takeWhile_prefix _
  · cases found

/-- A name that is read from an expression stands in it once the boundaries are gone. -/
theorem infix_of_mem_extract {expression name : Text} (listed : name ∈ extract expression) :
    name <:+: expression.replace "\\b".toList [] := by
  obtain ⟨alternation, inside, form⟩ := exists_form_of_mem_extract listed
  have named : name <:+: alternation := Text.infix_of_mem_pieces (List.mem_of_mem_filter inside)
  refine (named.trans ?_).trans (Text.strip_infix _)
  rcases form with group | group | lone
  · exact (infix_of_groupAtStart? group).trans (dropMarks_suffix _).isInfix
  · exact infix_of_groupAnywhere? group
  · exact (prefix_of_loneWord? lone).isInfix.trans (dropMarks_suffix _).isInfix

end Parts

/-- Marks of a word boundary, one behind the other. -/
def boundaries (count : Nat) : Text :=
  (List.replicate count "\\b".toList).flatten

/-- What may stand before a list of aliases: a mark of the line start and one of blanks, word
boundaries around them, and the parenthesis of a group. -/
structure Opening where
  before : Nat
  lineStart : Bool
  between : Nat
  blanks : Bool
  behind : Nat
  silent : Bool

namespace Opening

def lineMark (opening : Opening) : Text :=
  if opening.lineStart then "^".toList else []

def blankMark (opening : Opening) : Text :=
  if opening.blanks then "\\s*".toList else []

def parenthesis (opening : Opening) : Text :=
  if opening.silent then "(?:".toList else "(".toList

def text (opening : Opening) : Text :=
  boundaries opening.before ++ (opening.lineMark ++ (boundaries opening.between ++
    (opening.blankMark ++ (boundaries opening.behind ++ opening.parenthesis))))

end Opening

section Boundaries

theorem replace_boundaries (count : Nat) (text : Text) :
    (boundaries count ++ text).replace "\\b".toList [] = text.replace "\\b".toList [] := by
  induction count with
  | zero => rfl
  | succ count ih =>
      rw [← ih, boundaries, List.replicate_succ, List.flatten_cons, List.append_assoc]
      rfl

/-- A text without backslashes holds no boundaries. -/
theorem replace_append {front : Text} (plain : '\\' ∉ front) (text : Text) :
    (front ++ text).replace "\\b".toList [] = front ++ text.replace "\\b".toList [] := by
  induction front with
  | nil => rfl
  | cons character rest ih =>
      rw [List.mem_cons, not_or] at plain
      have other : "\\b".toList.isPrefixOf (character :: (rest ++ text)) = false := by
        simp [List.isPrefixOf, plain.1]
      rw [List.cons_append, Text.replace, Text.replaceFrom, other]
      exact congrArg (character :: ·) (ih plain.2)

/-- Of an opening the boundaries are removed and nothing else. -/
theorem replace_opening (opening : Opening) (text : Text) :
    (opening.text ++ text).replace "\\b".toList [] =
      opening.lineMark ++ (opening.blankMark ++
        (opening.parenthesis ++ text.replace "\\b".toList [])) := by
  have line (rest : Text) : (opening.lineMark ++ rest).replace "\\b".toList [] =
      opening.lineMark ++ rest.replace "\\b".toList [] := by
    unfold Opening.lineMark
    split <;> rfl
  have blank (rest : Text) : (opening.blankMark ++ rest).replace "\\b".toList [] =
      opening.blankMark ++ rest.replace "\\b".toList [] := by
    unfold Opening.blankMark
    split <;> rfl
  have parenthesis (rest : Text) : (opening.parenthesis ++ rest).replace "\\b".toList [] =
      opening.parenthesis ++ rest.replace "\\b".toList [] := by
    unfold Opening.parenthesis
    split <;> rfl
  simp only [Opening.text, List.append_assoc, replace_boundaries, line, blank, parenthesis]

end Boundaries

section Aliases

theorem dropMarks_opening (opening : Opening) (text : Text) :
    dropMarks (opening.lineMark ++ (opening.blankMark ++ (opening.parenthesis ++ text))) =
      opening.parenthesis ++ text := by
  unfold Opening.lineMark Opening.blankMark Opening.parenthesis
  split <;> split <;> split <;> rfl

/-- A group is found whole, whatever follows it. -/
theorem groupAtStart?_of_inner {inner alternation rest : Text}
    (parts : dropStart "?:".toList inner = alternation ++ ')' :: rest) (nonempty : alternation ≠ [])
    (alphabet : ∀ character ∈ alternation, isNameOrBar character = true) :
    groupAtStart? ('(' :: inner) = some alternation := by
  have closes : isNameOrBar ')' = false := by decide +kernel
  have taken : (alternation ++ ')' :: rest).takeWhile isNameOrBar = alternation := by
    rw [List.takeWhile_append_of_pos alphabet, List.takeWhile_cons_of_neg (by simp [closes]),
      List.append_nil]
  have dropped : (alternation ++ ')' :: rest).dropWhile isNameOrBar = ')' :: rest := by
    rw [List.dropWhile_append_of_pos alphabet, List.dropWhile_cons_of_neg (by simp [closes])]
  obtain ⟨first, others, rfl⟩ := List.exists_cons_of_ne_nil nonempty
  simp only [groupAtStart?, parts, taken, dropped]

theorem groupAtStart?_opening (opening : Opening) {alternation : Text} (nonempty : alternation ≠ [])
    (alphabet : ∀ character ∈ alternation, isNameOrBar character = true) (rest : Text) :
    groupAtStart? (opening.parenthesis ++ (alternation ++ ')' :: rest)) = some alternation := by
  unfold Opening.parenthesis
  split
  · exact groupAtStart?_of_inner rfl nonempty alphabet
  · have kept : dropStart "?:".toList (alternation ++ ')' :: rest) =
        alternation ++ ')' :: rest := by
      obtain ⟨first, others, rfl⟩ := List.exists_cons_of_ne_nil nonempty
      have letter : '?' ≠ first := by
        rintro rfl
        exact absurd (alphabet _ List.mem_cons_self) (by decide +kernel)
      exact if_neg (by simp [List.isPrefixOf, letter])
    exact groupAtStart?_of_inner kept nonempty alphabet

theorem pieces_intercalate {names : List Text} (nonempty : names ≠ [])
    (words : ∀ name ∈ names, name.IsName) : Text.pieces '|' (['|'].intercalate names) = names := by
  have apart : ∀ name ∈ names, '|' ∉ name := fun name listed bar =>
    absurd ((words name listed).word _ bar) (by decide +kernel)
  rw [Text.pieces_eq_splitOn, List.splitOn_intercalate '|' apart nonempty]

theorem namesIn_intercalate {names : List Text} (nonempty : names ≠ [])
    (words : ∀ name ∈ names, name.IsName) : namesIn (['|'].intercalate names) = names := by
  rw [namesIn, pieces_intercalate nonempty words, List.filter_eq_self]
  intro name listed
  simpa using (words name listed).nonempty

theorem isNameOrBar_of_mem_intercalate {names : List Text} (nonempty : names ≠ [])
    (words : ∀ name ∈ names, name.IsName) :
    ∀ character ∈ ['|'].intercalate names, isNameOrBar character = true := by
  intro character member
  rw [isNameOrBar, Bool.or_eq_true, beq_iff_eq]
  rcases Text.exists_piece_of_mem member with bar | ⟨name, listed, inside⟩
  · exact .inr bar
  · rw [pieces_intercalate nonempty words] at listed
    exact .inl ((words name listed).word character inside)

theorem exists_first_opening (opening : Opening) :
    ∃ first others, opening.lineMark ++ (opening.blankMark ++ opening.parenthesis) =
      first :: others ∧ Text.isBlank first = false := by
  unfold Opening.lineMark Opening.blankMark Opening.parenthesis
  split <;> split <;> split <;> exact ⟨_, _, rfl, by decide⟩

/-- The boundaries are gone, and what stands up to the closing parenthesis of the group is kept. -/
theorem exists_strip_opening (opening : Opening) {alternation : Text} (plain : '\\' ∉ alternation)
    (tail : Text) :
    ∃ rest, ((opening.text ++ (alternation ++ ')' :: tail)).replace "\\b".toList []).strip =
      opening.lineMark ++ (opening.blankMark ++
        (opening.parenthesis ++ (alternation ++ ')' :: rest))) := by
  obtain ⟨first, others, begins, visible⟩ := exists_first_opening opening
  have solid : Text.isBlank ')' = false := by decide
  have closed : '\\' ∉ alternation ++ [')'] := by
    simpa using plain
  have removed : (alternation ++ ')' :: tail).replace "\\b".toList [] =
      alternation ++ ')' :: tail.replace "\\b".toList [] := by
    have parts := replace_append closed tail
    rwa [List.append_assoc, List.append_assoc] at parts
  have joined (rest : Text) : opening.lineMark ++ (opening.blankMark ++
      (opening.parenthesis ++ (alternation ++ ')' :: rest))) =
        first :: (others ++ alternation) ++ ')' :: rest := by
    rw [← List.cons_append, ← begins]
    simp only [List.append_assoc]
  obtain ⟨rest, stripped⟩ :=
    Text.exists_strip_append visible solid (others ++ alternation) (tail.replace "\\b".toList [])
  exact ⟨rest, by rw [replace_opening, removed, joined, joined, stripped]⟩

/-- Aliases are read in order, whatever marks stand before them and whatever follows them. -/
theorem extract_opening (opening : Opening) {names : List Text} (nonempty : names ≠ [])
    (words : ∀ name ∈ names, name.IsName) (tail : Text) :
    extract (opening.text ++ (['|'].intercalate names ++ ')' :: tail)) = names := by
  have alphabet := isNameOrBar_of_mem_intercalate nonempty words
  have listed := namesIn_intercalate nonempty words
  have some : ['|'].intercalate names ≠ [] := fun empty =>
    nonempty (by rw [← listed, empty]; rfl)
  have plain : '\\' ∉ ['|'].intercalate names := fun member =>
    absurd (alphabet _ member) (by decide +kernel)
  obtain ⟨rest, stripped⟩ := exists_strip_opening opening plain tail
  have group := groupAtStart?_opening opening some alphabet rest
  rw [← dropMarks_opening, ← stripped] at group
  have first : (!names.isEmpty) = true := by simpa using nonempty
  simp only [extract, group, List.filterMap_cons, Option.map_some, listed, List.find?_cons, first,
    Option.getD_some]

end Aliases

end CommandName

/-- Aliases that are declared in a group are read as they stand there, in order, and names that are
read from any expression at all are words that stand in it. -/
theorem Rule.readNames_aliases :
    (∀ (opening : CommandName.Opening) (names : List Text) (tail : Text), names ≠ [] →
        (∀ name ∈ names, name.IsName) →
        readNames (opening.text ++ (['|'].intercalate names ++ ')' :: tail)) = .ok names) ∧
      ∀ (expression : Text) (names : List Text), readNames expression = .ok names →
        names ≠ [] ∧
          ∀ name ∈ names, name.IsName ∧ name <:+: expression.replace "\\b".toList [] := by
  constructor
  · intro opening names tail nonempty words
    rw [readNames_eq, CommandName.extract_opening opening nonempty words, if_neg nonempty]
  · intro expression names read
    obtain rfl := eq_extract_of_readNames read
    refine ⟨fun none => ?_, fun name listed => ?_⟩
    · rw [readNames_eq, if_pos none] at read
      cases read
    · exact ⟨CommandName.isName_of_mem_extract listed, CommandName.infix_of_mem_extract listed⟩

/-- Two aliases behind marks and boundaries, where another group follows, and a lone word with a
boundary inside. -/
theorem Rule.readNames_aliases_marked :
    readNames "\\b\\b^\\b\\s*\\b(?:Show|Hide)\\b(Minimal|x) ".toList =
        .ok ["Show".toList, "Hide".toList] ∧
      readNames "^Ite\\bm$".toList = .ok ["Item".toList] ∧
      "Item".toList <:+: Text.replace "^Ite\\bm$".toList "\\b".toList [] := by
  have words : ∀ name ∈ ["Show".toList, "Hide".toList], Text.IsName name := by
    intro name listed
    rw [List.mem_pair] at listed
    rcases listed with rfl | rfl
    · exact ⟨by decide, List.all_eq_true.mp (by decide +kernel)⟩
    · exact ⟨by decide, List.all_eq_true.mp (by decide +kernel)⟩
  have lone : readNames "^Ite\\bm$".toList = .ok ["Item".toList] := by decide +kernel
  obtain ⟨aliases, any⟩ := readNames_aliases
  exact ⟨aliases ⟨2, true, 1, true, 1, true⟩ _ "\\b(Minimal|x) ".toList (by decide) words, lone,
    ((any _ _ lone).2 _ List.mem_cons_self).2⟩

end ItemFilter
