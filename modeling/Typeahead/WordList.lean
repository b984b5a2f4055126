import Typeahead.Config
import Typeahead.Fault
import Typeahead.Resource.Loader
import Typeahead.Text.Character
import Typeahead.Text.Encoding
import Typeahead.Text.Lines

/-!
# Word lists

A word list holds one word on each line. Blanks around the whole list do not
count; inside it, every line is a word as it stands, and lines end at line
feeds only.
-/

namespace Typeahead

/-! ## Lists -/

namespace WordList

open Typeahead.Text

def ofChars (cs : List Char) : List String :=
  let text := trim cs
  if text = [] then [] else (splitOn '\n' text).map String.ofList

/-- Blank lines inside a list are words, and carriage returns belong to theirs. -/
example : ofChars [' ', 'a', '\r', '\n', '\n', 'b', '\n'] = ["a\r", "", "b"] := by decide

/-- The words of a file. A file without octets has none in any encoding that has
a name at all. -/
def ofOctets (encoding : String) (octets : Octets) : Except Fault (List String) :=
  if encoding.toList.contains '\x00' then .error .nullInEncoding
  else if octets = [] then .ok []
  else match Encoding.ofName? encoding with
    | none => .error (.unknownEncoding encoding)
    | some e => .ok (ofChars (e.decode octets))

/-- Whether a text is a language code that may name a word list: ASCII letters
and hyphens, at least one. -/
def isCode (code : String) : Bool :=
  code.toList ≠ [] && code.toList.all fun c => c.isAlpha || c == '-'

end WordList

/-! ## The cache of word lists

The list of a language is read when it is first asked for, and kept. A list
that is missing, blank or unreadable is kept as the empty list. A fault that
does not come from reading is passed on, and leaves the cache as it was.
-/

open Typeahead.Resource
open Typeahead.Text

/-- The lists that were read through one loader. -/
structure Cache (σ : Type) where
  loader : Loader σ
  /-- The list of each language code, newest first. -/
  lists : List (String × List String) := []

instance {σ : Type} : Inhabited (Cache σ) := ⟨{ loader := default }⟩

namespace Cache

variable {σ : Type}

def find? (cache : Cache σ) (code : String) : Option (List String) :=
  cache.lists.lookup code

def contains (cache : Cache σ) (code : String) : Bool :=
  (cache.find? code).isSome

def size (cache : Cache σ) : Nat :=
  cache.lists.length

def keep (cache : Cache σ) (code : String) (words : List String) : Cache σ :=
  { cache with lists := (code, words) :: cache.lists }

def clear (cache : Cache σ) : Cache σ :=
  { cache with lists := [] }

def wordsOf (config : Config) (code name : String) (loaded : Except Fault (Option Octets)) :
    Action (Surroundings σ) (List String) :=
  match loaded with
  | .error fault =>
    if fault.isReadFailure then do
      Action.log .warning .wordLists
        ("Could not read word list " ++ name ++ ": " ++ fault.message)
      return []
    else Action.fail fault
  | .ok none => do
    Action.log .info .wordLists ("No word list for language " ++ quoted code)
    return []
  | .ok (some octets) => do
    let encoding ← Action.ofExcept (config.encoding.textOr (.misfit .notText))
    let words ← Action.ofExcept (WordList.ofOctets encoding octets)
    if words ≠ [] then
      Action.log .info .wordLists
        ("Loaded word list " ++ name ++ ": " ++ toString words.length ++ " words")
    return words

/-- Reads the list of a code. Its resource is named before anything is loaded. -/
def readList (config : Config) (loader : Loader σ) (code : String) :
    Action (Surroundings σ) (List String) := do
  let template ← Action.ofExcept (config.resourceTemplate.textOr .notATemplate)
  let name ← Action.ofExcept ((Template.fill template code).mapError .template)
  let loaded ← (loader.load (.text name)).attempt
  wordsOf config code name loaded

/-- The list of a code, and the cache from then on. A malformed code has no
words, and nothing is kept for it. -/
def get (config : Config) (cache : Cache σ) (code : String) :
    Action (Surroundings σ) (List String × Cache σ) :=
  if WordList.isCode code then
    match cache.find? code with
    | some words => return (words, cache)
    | none => do
      let words ← readList config cache.loader code
      return (words, cache.keep code words)
  else return ([], cache)

end Cache

end Typeahead
