import Typeahead.Fault
import Typeahead.Text.Letter
import Typeahead.Value

/-!
# The word being typed

A word consists of letters of any script and of hyphens. The word before a
cursor is the longest run of such characters that ends there.
-/

namespace Typeahead

open Typeahead.Text

def isWordChar (c : Char) : Bool :=
  isLetter c || c == '-'

/-- The longest run of word characters at the end of a text. -/
def wordAtEnd (cs : List Char) : List Char :=
  (cs.reverse.takeWhile isWordChar).reverse

/-- The word that ends at a cursor. It is empty when the cursor lies outside
the text. -/
def wordBeforeChars (cs : List Char) (cursor : Int) : List Char :=
  if cursor < 0 ∨ (cs.length : Int) < cursor then []
  else wordAtEnd (cs.take cursor.toNat)

def wordBefore (text : String) (cursor : Int) : String :=
  String.ofList (wordBeforeChars text.toList cursor)

/-- Hyphens belong to words, underscores do not. -/
example : wordBefore "_wor-k x" 6 = "wor-k" := by decide +kernel

def startingWith (start : String) (words : List String) : List String :=
  words.filter fun w => start.toList.isPrefixOf w.toList

/-! ## Unchecked code

The code of a draft, a cursor in it and the words of a dictionary may be
anything. The items of a list are taken for characters. On texts and whole
numbers all is as in `Typeahead.Word`: that is what the main statements,
`wordIn_text` and `startingAmong_text`, say.
-/

def isWordItem : Value → Except Fault Bool
  | .text s => .ok (s == "-" || (s != "" && s.toList.all isLetter))
  | _ => .error .notAWord

/-- The longest run of word items at the front of a list. Items behind the
first one that is none are not looked at. -/
def wordItems : List Value → Except Fault (List Value)
  | [] => .ok []
  | item :: rest => do
    if ← isWordItem item then return item :: (← wordItems rest) else return []

/-- The word of a collection that ends at a cursor. A cursor outside the
collection is noticed first, and then everything has to fit: the cursor is a
whole number, and a table has no parts to cut out. -/
def wordIn (collection cursor : Value) : Except Fault Value := do
  if ← (cursor.isBelow (.int 0)).mapError .misfit then return .text ""
  let size ← collection.size.mapError .misfit
  if ← (Value.isBelow (.int size) cursor).mapError .misfit then return .text ""
  match collection, cursor.whole? with
  | .text s, some n => return .text (wordBefore s n)
  | .list items, some n =>
    let run ← wordItems (items.take n.toNat).reverse
    return .list run.reverse
  | .table _, some n =>
    if n = 0 then throw (.misfit .notCollection) else throw (.noItem (n - 1))
  | _, _ => throw (.misfit .notNumber)

theorem mapError_ok {ε ε' α : Type} (f : ε → ε') (a : α) :
    (Except.ok a : Except ε α).mapError f = .ok a := rfl

/-- Nothing is lost by leaving texts and whole numbers unchecked. -/
theorem wordIn_text (text : String) (cursor : Int) :
    wordIn (.text text) (.int cursor) = .ok (.text (wordBefore text cursor)) := by
  by_cases hneg : cursor < 0
  · simp [wordIn, wordBefore, wordBeforeChars, hneg, mapError_ok, bind, Except.bind, pure,
      Except.pure]
  · by_cases hlong : (text.toList.length : Int) < cursor <;>
      simp [wordIn, wordBefore, wordBeforeChars, hneg, hlong, Value.whole?, mapError_ok, bind,
        Except.bind, pure, Except.pure]

/-- A value that is compared with a word: both have to be texts. -/
def comparedTo (word value : Value) : Except Fault String := do
  let w ← value.textOr .notAWord
  let _ ← word.textOr (.misfit .notText)
  return w

/-- The words among some values that start with a word. As soon as there is one
to compare it with, the word has to be a text. -/
def startingAmong (word : Value) (values : List Value) : Except Fault (List String) :=
  (values.mapM (comparedTo word)).map (startingWith (word.text?.getD ""))

theorem mapM_comparedTo_text (start : String) (words : List String) :
    (words.map Value.text).mapM (comparedTo (.text start)) = .ok words := by
  induction words with
  | nil => rfl
  | cons w words ih => rw [List.map_cons, List.mapM_cons, ih]; rfl

theorem startingAmong_text (start : String) (words : List String) :
    startingAmong (.text start) (words.map .text) = .ok (startingWith start words) := by
  rw [startingAmong, mapM_comparedTo_text]
  rfl

end Typeahead
