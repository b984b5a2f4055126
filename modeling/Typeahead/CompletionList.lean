import Typeahead.Value

/-!
# Completion lists

The form in which candidates are sent to an editor: one item for each
candidate, in order, and a list that is always complete.
-/

namespace Typeahead

structure CompletionItem where
  label : String
  deriving DecidableEq, Repr

structure CompletionList where
  isIncomplete : Bool
  items : List CompletionItem
  deriving DecidableEq, Repr

namespace CompletionList

def ofWords (words : List String) : CompletionList :=
  ⟨false, words.map .mk⟩

/-- The words of a value, each of which has to be a text. -/
def wordsOf (v : Value) : Except Misfit (List String) := do
  let items ← v.items
  items.mapM fun item => match item.text? with
    | some word => .ok word
    | none => .error .notText

def ofValue (v : Value) : Except Misfit CompletionList :=
  (wordsOf v).map ofWords

end CompletionList

end Typeahead
