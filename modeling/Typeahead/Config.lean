import Typeahead.Value

/-!
# Settings and configuration

What a user configures for a text, and what holds for the whole process.
-/

namespace Typeahead

/-! ## Settings

The settings of a document or of a fragment: the language of its text, and the
words that the user has approved. Neither is checked before it is used.
-/

structure Settings where
  /-- The language code, or the code that asks for detection. -/
  language : Value := .text "en"
  /-- The approved words, in the order they were configured. -/
  dictionary : List Value := []
  deriving Repr, Inhabited

namespace Settings

def equals (a b : Settings) : Bool :=
  a.language == b.language && Value.allEqual a.dictionary b.dictionary

def of (language : String) (dictionary : List String) : Settings :=
  ⟨.text language, dictionary.map .text⟩

def set (settings : Settings) (name : String) (value : Value) : Except Misfit Settings :=
  match name with
  | "language_short_code" => .ok { settings with language := value }
  | "dictionary" => value.items.map fun words => { settings with dictionary := words }
  | other => .error (.unknownName other)

/-- Settings from a table of named entries. What is not named keeps its default. -/
def ofValue : Value → Except Misfit Settings
  | .table entries => entries.foldlM (fun s entry => s.set entry.1 entry.2) {}
  | _ => .error .notTable

def toValue (settings : Settings) : Value :=
  .table [("dictionary", .list settings.dictionary), ("language_short_code", settings.language)]

end Settings

/-! ## The configuration

The configuration is made from two variables of the environment. Its constants
may be overridden while the library is in use, until it is made again. Nobody
checks what overrides them before it is used.
-/

/-- The dialect of documents without markup. -/
def plaintext : String := "plaintext"

structure Variables where
  /-- Where the lists of the process-wide cache come from. -/
  address : Option String := none
  verbose : Option String := none
  deriving DecidableEq, Repr

inductive Variable where
  | address
  | verbose
  deriving DecidableEq, Repr

/-- Sets a variable, or makes it unset. -/
def Variables.set (vars : Variables) (name : Variable) (value : Option String) : Variables :=
  match name with
  | .address => { vars with address := value }
  | .verbose => { vars with verbose := value }

structure Config where
  /-- The language code that asks for detection. -/
  autoLanguage : Value := .text "auto"
  /-- The language of settings that name none. Settings carry it themselves, so
  overriding it changes none of them. -/
  defaultLanguage : Value := .text "en"
  /-- How log records call the dialect that stands in for unknown ones. -/
  defaultDialect : Value := .text plaintext
  /-- How the resource of a language code is named. -/
  resourceTemplate : Value := .text "completionList.\x7bcode\x7d.txt"
  encoding : Value := .text "utf-8"
  /-- Where the lists of the process-wide cache come from. -/
  address : Value
  /-- Whether a new engine configures logging. -/
  verbose : Bool := false
  deriving Repr

/-- Whether a language is the one that asks for detection. What stands where a
number is missing never is. -/
def Config.asksForDetection (config : Config) (language : Value) : Bool :=
  match language with
  | .nan => false
  | language => language.equals config.autoLanguage

/-- The configuration of a library whose bundled lists are in the package `bundled`. -/
def Config.ofVariables (bundled : String) (vars : Variables) : Config :=
  { address := .text (vars.address.getD ("package://" ++ bundled))
    verbose := vars.verbose == some "1" }

end Typeahead
