/-
This file says that a document keeps the lines that were written to its text. The ending that they
were written with does not matter, and the lines joined again are the same document unless the last
one is empty or the first one begins with a byte order mark.
-/

import ItemFilter.Validation
import Mathlib.Data.List.Basic

namespace ItemFilter

namespace Text

/-- The characters that end a line. -/
def lineBreaks : List Char :=
  ['\n', '\r', '\x0B', '\x0C', '\x1C', '\x1D', '\x1E', '\u0085', '\u2028', '\u2029']

/-- The endings of a line: a carriage return with a line feed, or one of the characters alone. -/
def lineEndings : List Text :=
  ['\r', '\n'] :: lineBreaks.map fun character => [character]

/-- The text lies on one line. -/
def Unbroken (text : Text) : Prop :=
  ∀ character ∈ text, character ∉ lineBreaks

instance (text : Text) : Decidable text.Unbroken :=
  List.decidableBAll (fun character => character ∉ lineBreaks) text

theorem isLineBreak_iff (character : Char) :
    isLineBreak character = true ↔ character ∈ lineBreaks := by
  simp only [isLineBreak, lineBreaks, Bool.or_eq_true, Bool.and_eq_true, decide_eq_true_eq,
    beq_iff_eq, List.mem_cons, List.not_mem_nil, or_false, ← Char.toNat_inj]
  change _ ↔ character.toNat = 10 ∨ character.toNat = 13 ∨ character.toNat = 11 ∨
    character.toNat = 12 ∨ character.toNat = 28 ∨ character.toNat = 29 ∨ character.toNat = 30 ∨
    character.toNat = 133 ∨ character.toNat = 8232 ∨ character.toNat = 8233
  omega

theorem linesFrom_cons_of_lineBreak {character : Char} (ends : isLineBreak character = true)
    (current : Text) {rest : Text} (alone : character = '\r' → rest.head? ≠ some '\n') :
    linesFrom current (character :: rest) = current.reverse :: lines rest := by
  rw [linesFrom, if_pos ends, lines]
  rintro others rfl rfl
  exact alone rfl rfl

theorem linesFrom_cons_of_inside {character : Char} (inside : isLineBreak character = false)
    (current rest : Text) :
    linesFrom current (character :: rest) = linesFrom (character :: current) rest := by
  rw [linesFrom, inside, if_neg Bool.false_ne_true]
  rintro others rfl -
  cases inside

/-- What lies on one line goes on with the line that has begun. -/
theorem linesFrom_append {line : Text} (unbroken : line.Unbroken) (current rest : Text) :
    linesFrom current (line ++ rest) = linesFrom (line.reverse ++ current) rest := by
  induction line generalizing current with
  | nil => rfl
  | cons character others ih =>
      obtain ⟨inside, later⟩ := List.forall_mem_cons.mp unbroken
      rw [List.cons_append, linesFrom_cons_of_inside
        (eq_false_of_ne_true (mt (isLineBreak_iff character).mp inside)), ih later]
      simp

theorem head?_ne_of_mem_lineEndings :
    ∀ ending ∈ lineEndings, ending ≠ [] ∧ ending.head? ≠ some orderMark := by
  decide

/-- An ending closes the line that has begun. A carriage return alone must not meet a line feed. -/
theorem linesFrom_ending {ending : Text} (known : ending ∈ lineEndings) (current : Text)
    {rest : Text} (alone : ending = ['\r'] → rest.head? ≠ some '\n') :
    linesFrom current (ending ++ rest) = current.reverse :: lines rest := by
  rcases List.mem_cons.mp known with rfl | single
  · rfl
  · obtain ⟨character, member, rfl⟩ := List.mem_map.mp single
    exact linesFrom_cons_of_lineBreak ((isLineBreak_iff character).mpr member) current
      fun same => alone (congrArg (fun character => [character]) same)

theorem lines_of_unbroken {line : Text} (unbroken : line.Unbroken) :
    lines line = if line = [] then [] else [line] := by
  have whole := linesFrom_append unbroken [] []
  rw [List.append_nil, List.append_nil] at whole
  rw [lines, whole]
  simp [linesFrom]

/-- The first character of a text that was written with carriage returns is no line feed. -/
theorem head?_flatMap_ne {lines : List Text} (unbroken : ∀ line ∈ lines, line.Unbroken)
    {last : Text} (begins : last.head? ≠ some '\n') :
    (lines.flatMap (· ++ ['\r']) ++ last).head? ≠ some '\n' := by
  cases lines with
  | nil => exact begins
  | cons line others =>
      cases line with
      | nil => simp
      | cons character rest =>
          rintro same
          obtain rfl := Option.some.inj same
          exact unbroken _ List.mem_cons_self _ List.mem_cons_self (by decide)

/-- Lines that were written with an ending each are found again, before those of the rest. -/
theorem lines_flatMap_append {ending : Text} (known : ending ∈ lineEndings) {lines : List Text}
    (unbroken : ∀ line ∈ lines, line.Unbroken) {last : Text} (begins : last.head? ≠ some '\n') :
    Text.lines (lines.flatMap (· ++ ending) ++ last) = lines ++ Text.lines last := by
  induction lines with
  | nil => rfl
  | cons line others ih =>
      obtain ⟨first, later⟩ := List.forall_mem_cons.mp unbroken
      have alone : ending = ['\r'] →
          (others.flatMap (· ++ ending) ++ last).head? ≠ some '\n' := by
        rintro rfl
        exact head?_flatMap_ne later begins
      rw [List.flatMap_cons, List.append_assoc, List.append_assoc, Text.lines,
        linesFrom_append first, linesFrom_ending known _ alone, ih later]
      simp

theorem intercalate_concat (separator : Text) (lines : List Text) (last : Text) :
    separator.intercalate (lines ++ [last]) = lines.flatMap (· ++ separator) ++ last := by
  induction lines with
  | nil => simp
  | cons line others ih =>
      obtain ⟨second, more, parts⟩ := List.exists_cons_of_ne_nil
        (List.append_ne_nil_of_right_ne_nil others (List.cons_ne_nil last []))
      rw [List.cons_append, parts, List.intercalate_cons_cons, ← parts, ih]
      simp

theorem head?_ne_of_unbroken {line : Text} (unbroken : line.Unbroken) : line.head? ≠ some '\n' :=
  fun same => unbroken _ (List.mem_of_head? same) (by decide)

/-- Between lines that are joined, an ending closes all but the last one. -/
theorem lines_intercalate {ending : Text} (known : ending ∈ lineEndings) {lines : List Text}
    {last : Text} (unbroken : ∀ line ∈ lines ++ [last], line.Unbroken) :
    Text.lines (ending.intercalate (lines ++ [last])) =
      lines ++ if last = [] then [] else [last] := by
  rw [List.forall_mem_append, List.forall_mem_singleton] at unbroken
  rw [intercalate_concat, lines_flatMap_append known unbroken.1 (head?_ne_of_unbroken unbroken.2),
    lines_of_unbroken unbroken.2]

theorem Unbroken.reverse {text : Text} (unbroken : text.Unbroken) : Unbroken text.reverse :=
  fun character member => unbroken character (List.mem_reverse.mp member)

theorem unbroken_of_mem_linesFrom {current text line : Text} (begun : current.Unbroken)
    (member : line ∈ linesFrom current text) : line.Unbroken := by
  -- The line that has begun never holds a break: each one starts empty and takes in no break.
  have fresh : Unbroken [] := List.forall_mem_nil _
  fun_induction linesFrom current text with
  | case1 => cases member
  | case2 current =>
      obtain rfl := List.mem_singleton.mp member
      exact begun.reverse
  | case3 current rest ih =>
      rcases List.mem_cons.mp member with rfl | later
      · exact begun.reverse
      · exact ih fresh later
  | case4 current character rest pair ends ih =>
      rcases List.mem_cons.mp member with rfl | later
      · exact begun.reverse
      · exact ih fresh later
  | case5 current character rest pair inside ih =>
      exact ih (List.forall_mem_cons.mpr ⟨mt (isLineBreak_iff character).mpr inside, begun⟩) member

/-- No line of a text holds a line break. -/
theorem unbroken_of_mem_lines {text line : Text} (member : line ∈ text.lines) : line.Unbroken :=
  unbroken_of_mem_linesFrom (List.forall_mem_nil _) member

/-- Joining lines and cutting them again loses no character of them. -/
theorem flatten_lines_intercalate {ending : Text} (known : ending ∈ lineEndings)
    {lines : List Text} (unbroken : ∀ line ∈ lines, line.Unbroken) :
    (Text.lines (ending.intercalate lines)).flatten = lines.flatten := by
  rcases List.eq_nil_or_concat lines with rfl | ⟨others, last, rfl⟩
  · rfl
  · rw [List.concat_eq_append] at unbroken ⊢
    rw [lines_intercalate known unbroken]
    split
    · next empty => simp [empty]
    · rfl

theorem intercalate_cons_head (separator : Text) (character : Char) (line : Text)
    (others : List Text) :
    separator.intercalate ((character :: line) :: others) =
      character :: separator.intercalate (line :: others) := by
  cases others with
  | nil => simp
  | cons second more => simp [List.intercalate_cons_cons]

theorem dropOrderMark_cons (text : Text) : dropOrderMark (orderMark :: text) = text := by
  rw [dropOrderMark, if_pos rfl]

theorem dropOrderMark_of_head?_ne {text : Text} (unmarked : text.head? ≠ some orderMark) :
    dropOrderMark text = text := by
  cases text with
  | nil => rfl
  | cons character rest => exact if_neg fun same => unmarked (congrArg some same)

end Text

/-- How lines are written as a text: the ending, whether the last line has it as well, and whether a
byte order mark stands in front. -/
structure LineFormat where
  ending : Text
  closed : Bool
  marked : Bool

namespace LineFormat

/-- The text of the lines without a byte order mark. -/
def body (format : LineFormat) (lines : List Text) : Text :=
  if format.closed then lines.flatMap (· ++ format.ending) else format.ending.intercalate lines

def write (format : LineFormat) (lines : List Text) : Text :=
  if format.marked then Text.orderMark :: format.body lines else format.body lines

/-- The ending is known, and only a last line that is not empty lacks it. -/
structure Suits (format : LineFormat) (lines : List Text) : Prop where
  known : format.ending ∈ Text.lineEndings
  last : format.closed = true ∨ lines.getLast? ≠ some []

theorem lines_body {format : LineFormat} {lines : List Text} (suits : format.Suits lines)
    (unbroken : ∀ line ∈ lines, line.Unbroken) : (format.body lines).lines = lines := by
  unfold body
  split
  · have begins : ([] : Text).head? ≠ some '\n' := (Option.some_ne_none _).symm
    have parts := Text.lines_flatMap_append suits.known unbroken begins
    rwa [List.append_nil, Text.lines_of_unbroken (List.forall_mem_nil _), if_pos rfl,
      List.append_nil] at parts
  · next unclosed =>
      rcases List.eq_nil_or_concat lines with rfl | ⟨others, last, rfl⟩
      · rfl
      · rw [List.concat_eq_append] at unbroken suits ⊢
        have nonempty : last ≠ [] := by
          rintro rfl
          exact suits.last.elim unclosed fun other => other List.getLast?_concat
        rw [Text.lines_intercalate suits.known unbroken, if_neg nonempty]

/-- Behind the first line the text goes on with an ending, if at all. -/
theorem exists_body_cons {format : LineFormat} (known : format.ending ∈ Text.lineEndings)
    (line : Text) (others : List Text) :
    ∃ rest, format.body (line :: others) = line ++ rest ∧ rest.head? ≠ some Text.orderMark := by
  have ends (rest : Text) : (format.ending ++ rest).head? ≠ some Text.orderMark := by
    obtain ⟨nonempty, first⟩ := Text.head?_ne_of_mem_lineEndings format.ending known
    rwa [List.head?_append_of_ne_nil _ nonempty]
  unfold body
  split
  · exact ⟨_, by rw [List.flatMap_cons, List.append_assoc], ends _⟩
  · cases others with
    | nil => exact ⟨[], by simp, (Option.some_ne_none _).symm⟩
    | cons second more =>
        exact ⟨_, by rw [List.intercalate_cons_cons, List.append_assoc], ends _⟩

theorem head?_body_ne {format : LineFormat} (known : format.ending ∈ Text.lineEndings)
    {lines : List Text} (unmarked : ∀ line ∈ lines.head?, line.head? ≠ some Text.orderMark) :
    (format.body lines).head? ≠ some Text.orderMark := by
  cases lines with
  | nil =>
      rw [body]
      split <;> exact (Option.some_ne_none _).symm
  | cons line others =>
      obtain ⟨rest, parts, later⟩ := exists_body_cons known line others
      rw [parts, List.head?_append]
      cases begin : line.head? with
      | none => exact later
      | some character =>
          have first := unmarked line rfl
          rwa [begin] at first

/-- At most one byte order mark is taken away, whether or not the format has put it there. -/
theorem dropOrderMark_write {format : LineFormat} (known : format.ending ∈ Text.lineEndings)
    {lines : List Text} (unmarked : ∀ line ∈ lines.head?, line.head? ≠ some Text.orderMark) :
    (format.write lines).dropOrderMark = format.body lines := by
  rw [write]
  split
  · exact Text.dropOrderMark_cons _
  · exact Text.dropOrderMark_of_head?_ne (head?_body_ne known unmarked)

end LineFormat

namespace Document

theorem lines_ofText (text : Text) (path : Option Text) :
    (ofText text path).lines = text.dropOrderMark.lines :=
  rfl

theorem map_text_numbered (document : Document) :
    document.numbered.map Line.text = document.lines := by
  rw [numbered, List.map_map]
  exact List.zipIdx_map_fst 0 document.lines

theorem map_number_numbered (document : Document) :
    document.numbered.map Line.number = List.range document.lines.length := by
  rw [numbered, List.map_map, List.range_eq_range']
  exact List.zipIdx_map_snd 0 document.lines

theorem ofText_write {format : LineFormat} {lines : List Text} (suits : format.Suits lines)
    (unbroken : ∀ line ∈ lines, line.Unbroken)
    (unmarked : ∀ line ∈ lines.head?, line.head? ≠ some Text.orderMark) (path : Option Text) :
    ofText (format.write lines) path = ⟨lines, path⟩ := by
  rw [ofText, LineFormat.dropOrderMark_write suits.known unmarked,
    LineFormat.lines_body suits unbroken]

end Document

/-- A document has exactly the lines that were written to its text, numbered from the top, and the
format that they were written in makes no difference to what is reported. -/
theorem Validation.run_write {lines : List Text} (unbroken : ∀ line ∈ lines, line.Unbroken)
    (unmarked : ∀ line ∈ lines.head?, line.head? ≠ some Text.orderMark) :
    (∀ format : LineFormat, format.Suits lines → ∀ path,
      (Document.ofText (format.write lines) path).numbered.map Line.text = lines ∧
        (Document.ofText (format.write lines) path).numbered.map Line.number =
          List.range lines.length) ∧
      ∀ left right : LineFormat, left.Suits lines → right.Suits lines →
        ∀ path document catalog options services,
          run (left.write lines) path document catalog options services =
            run (right.write lines) path document catalog options services := by
  constructor
  · intro format suits path
    rw [Document.ofText_write suits unbroken unmarked]
    exact ⟨Document.map_text_numbered _, Document.map_number_numbered _⟩
  · intro left right leftSuits rightSuits path document catalog options services
    have chosen : chooseDocument (left.write lines) path document =
        chooseDocument (right.write lines) path document := by
      simp only [chooseDocument, Document.ofText_write leftSuits unbroken unmarked,
        Document.ofText_write rightSuits unbroken unmarked]
    rw [run, run, chosen]

/-- Three lines with an empty one between them, written once with a byte order mark and without a
last ending, and once with line separators. -/
theorem Validation.run_write_separators :
    let lines : List Text := ["Show".toList, [], "Play a".toList]
    let returns : LineFormat := ⟨['\r', '\n'], false, true⟩
    let separators : LineFormat := ⟨['\u2028'], true, false⟩
    returns.Suits lines ∧ separators.Suits lines ∧
      returns.write lines = "\uFEFFShow\r\n\r\nPlay a".toList ∧
      separators.write lines = "Show\u2028\u2028Play a\u2028".toList ∧
      (Document.ofText (returns.write lines) none).numbered.map Line.text = lines ∧
      ∀ path document catalog options services,
        run (returns.write lines) path document catalog options services =
          run (separators.write lines) path document catalog options services := by
  intro lines returns separators
  have returnsSuit : returns.Suits lines := ⟨by decide, by decide⟩
  have separatorsSuit : separators.Suits lines := ⟨by decide, by decide⟩
  have unbroken : ∀ line ∈ lines, line.Unbroken := by decide
  have unmarked : ∀ line ∈ lines.head?, line.head? ≠ some Text.orderMark := by
    intro line first
    obtain rfl := Option.some.inj first
    decide
  obtain ⟨found, same⟩ := run_write unbroken unmarked
  exact ⟨returnsSuit, separatorsSuit, by decide, by decide, (found returns returnsSuit none).1,
    same returns separators returnsSuit separatorsSuit⟩

namespace Document

theorem numbered_inj {left right : Document} :
    left.numbered = right.numbered ↔ left.lines = right.lines := by
  constructor
  · intro same
    rw [← left.map_text_numbered, same, right.map_text_numbered]
  · intro same
    rw [numbered, same, numbered]

/-- A byte order mark at the start of the first line is lost. -/
theorem lines_ofText_source_ne_of_marked {document : Document}
    (unbroken : ∀ line ∈ document.lines, line.Unbroken) {line : Text}
    (first : document.lines.head? = some line) (marked : line.head? = some Text.orderMark)
    (path : Option Text) : (ofText document.source path).lines ≠ document.lines := by
  obtain ⟨others, parts⟩ := List.head?_eq_some_iff.mp first
  obtain ⟨rest, rfl⟩ := List.head?_eq_some_iff.mp marked
  have known : ['\n'] ∈ Text.lineEndings := by decide
  have shorter : ∀ line ∈ rest :: others, Text.Unbroken line := by
    rw [parts, List.forall_mem_cons] at unbroken
    exact List.forall_mem_cons.mpr ⟨(List.forall_mem_cons.mp unbroken.1).2, unbroken.2⟩
  have source : document.source = Text.orderMark :: ['\n'].intercalate (rest :: others) := by
    rw [source, parts]
    exact Text.intercalate_cons_head _ _ _ _
  intro same
  rw [source, lines_ofText, Text.dropOrderMark_cons, parts] at same
  -- The last line may be lost as well, so only the number of characters tells the lines apart.
  have kept := Text.flatten_lines_intercalate known shorter
  rw [same] at kept
  simpa using congrArg List.length kept

/-- Lines that are joined to a text and cut again are the same if the last one is not empty and no
byte order mark is taken from the first one. -/
theorem lines_ofText_source_iff {document : Document}
    (unbroken : ∀ line ∈ document.lines, line.Unbroken) (path : Option Text) :
    (ofText document.source path).lines = document.lines ↔
      document.lines.getLast? ≠ some [] ∧
        ∀ line ∈ document.lines.head?, line.head? ≠ some Text.orderMark := by
  let format : LineFormat := ⟨['\n'], false, false⟩
  have known : format.ending ∈ Text.lineEndings := by decide
  have written : format.write document.lines = document.source := rfl
  constructor
  · intro same
    have unmarked : ∀ line ∈ document.lines.head?, line.head? ≠ some Text.orderMark :=
      fun line first marked => lines_ofText_source_ne_of_marked unbroken first marked path same
    refine ⟨fun empty => ?_, unmarked⟩
    obtain ⟨others, parts⟩ := List.getLast?_eq_some_iff.mp empty
    rw [← written, lines_ofText, LineFormat.dropOrderMark_write known unmarked] at same
    rw [parts] at same unbroken
    have fewer := Text.lines_intercalate known unbroken
    rw [if_pos rfl, List.append_nil] at fewer
    have lengths := congrArg List.length (fewer.symm.trans same)
    simp at lengths
  · rintro ⟨last, unmarked⟩
    rw [← written, ofText_write ⟨known, .inr last⟩ unbroken unmarked]

/-- The source of a document is read as the same document, but for two losses: an empty last line
and a byte order mark at the start of the first line. -/
theorem ofText_source_iff (text : Text) (path again : Option Text) :
    (ofText (ofText text path).source again).numbered = (ofText text path).numbered ↔
      (ofText text path).lines.getLast? ≠ some [] ∧
        ∀ line ∈ (ofText text path).lines.head?, line.head? ≠ some Text.orderMark := by
  rw [numbered_inj]
  exact lines_ofText_source_iff (fun _ => Text.unbroken_of_mem_lines) again

end Document

end ItemFilter
