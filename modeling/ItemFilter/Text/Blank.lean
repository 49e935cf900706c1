/-
This file defines blanks: the characters that separate tokens and that trimming removes.
-/

import ItemFilter.Text.Basic

namespace ItemFilter.Text

/-- The Unicode characters of bidirectional class WS, B or S, and the space separators. -/
def blanks : Ranges :=
  [(0x9, 0xD), (0x1C, 0x20), (0x85, 0x85), (0xA0, 0xA0), (0x1680, 0x1680), (0x2000, 0x200A),
   (0x2028, 0x2029), (0x202F, 0x202F), (0x205F, 0x205F), (0x3000, 0x3000)]

def isBlank (character : Char) : Bool :=
  blanks.contains character

/-- Blanks are dropped at both ends. -/
def strip (text : Text) : Text :=
  text.trim isBlank

end ItemFilter.Text
