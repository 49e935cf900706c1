/-
This file defines texts and the tables of character properties.
-/

namespace ItemFilter

/-- A text is a list of code points; all columns and lengths count them. -/
abbrev Text := List Char

namespace Text

/-- The text as it is printed. -/
def shown (text : Text) : String :=
  String.ofList text

/-- Ascending, disjoint, closed intervals of code points. -/
abbrev Ranges := List (Nat × Nat)

def Ranges.covers : Ranges → Nat → Bool
  | [], _ => false
  | (first, last) :: rest, code =>
      if code < first then false else decide (code ≤ last) || covers rest code

def Ranges.contains (ranges : Ranges) (character : Char) : Bool :=
  ranges.covers character.toNat

/-- The characters with the property are dropped at both ends. -/
def trim (dropped : Char → Bool) (text : Text) : Text :=
  ((text.dropWhile dropped).reverse.dropWhile dropped).reverse

/-- Texts are ordered by their code points. -/
def precedes : Text → Text → Bool
  | [], _ => true
  | _ :: _, [] => false
  | left :: lefts, right :: rights =>
      if left = right then precedes lefts rights else decide (left < right)

/-- The distinct texts in order. -/
def sortDistinct (texts : List Text) : List Text :=
  texts.eraseDups.mergeSort precedes

/-- The part occurs in the text. -/
def includes (part : Text) : Text → Bool
  | [] => part.isEmpty
  | character :: rest => part.isPrefixOf (character :: rest) || includes part rest

/-- Occurrences from the left that do not overlap are replaced, after `skipped` characters of the
last one. -/
def replaceFrom (old new : Text) (skipped : Nat) : Text → Text
  | [] => []
  | character :: rest =>
      match skipped with
      | skipped + 1 => replaceFrom old new skipped rest
      | 0 =>
          if old.isPrefixOf (character :: rest) then
            new ++ replaceFrom old new (old.length - 1) rest
          else character :: replaceFrom old new 0 rest

def replace (text old new : Text) : Text :=
  replaceFrom old new 0 text

/-- The texts between the separators. -/
def pieces (separator : Char) : Text → List Text
  | [] => [[]]
  | character :: rest =>
      if character = separator then [] :: pieces separator rest
      else match pieces separator rest with
        | [] => [[character]]
        | first :: others => (character :: first) :: others

end Text

end ItemFilter
