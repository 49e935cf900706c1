/-
This file says what the program leaves to its host: how deep patterns and documents may be nested,
how far patterns are measured and may look behind, and which characters have a name.
-/

import ItemFilter.Text.CharacterName

namespace ItemFilter

/-- What the host decides. How deep something may be nested depends on the stack that the caller
leaves, and how far a pattern may look behind on the age of the host. -/
class Host where
  /-- Patterns that are nested deeper are refused. -/
  patternDepth : Nat
  /-- Documents that are nested deeper break the reading off. -/
  documentDepth : Nat
  /-- Greater least widths of patterns are not told apart. -/
  leastWidth : Nat
  /-- Greater widths are not told apart, and a repetition without an upper bound counts as so many
  turns. -/
  mostWidth : Nat
  /-- A look behind that starts farther back is refused. -/
  lookReach : Nat
  /-- A look behind that starts so far back is read but cannot be used. A later host has no such
  limit. -/
  lookStop? : Option Nat
  /-- The code point of the character with the name. -/
  named? : Text → Option Nat
  leastWidth_pos : 0 < leastWidth
  mostWidth_pos : 0 < mostWidth
  named?_plain : ∀ {name : Text} {code : Nat}, named? name = some code →
    name.all Text.isNameSign = true

namespace Host

/-- The host that is used unless another one is given. It is an earlier one, which may read a look
behind and still refuse it. Names with blanks are left out: no capture can hold them, since blanks
are replaced in it. -/
instance standard : Host where
  patternDepth := 984
  documentDepth := 991
  leastWidth := 4294967294
  mostWidth := 4294967295
  lookReach := 4294967295
  lookStop? := some 2147483648
  named? := Text.namedCode?
  leastWidth_pos := by decide
  mostWidth_pos := by decide
  named?_plain := Text.isNameSign_of_namedCode?

/-- A later host measures all patterns and uses every look behind that it reads. -/
abbrev later : Host where
  patternDepth := standard.patternDepth
  documentDepth := standard.documentDepth
  leastWidth := 18446744073709551616
  mostWidth := 18446744073709551616
  lookReach := standard.lookReach
  lookStop? := none
  named? := standard.named?
  leastWidth_pos := by decide
  mostWidth_pos := by decide
  named?_plain := standard.named?_plain

end Host

end ItemFilter
