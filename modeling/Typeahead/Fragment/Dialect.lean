import Typeahead.Action
import Typeahead.Config
import Typeahead.Table
import Typeahead.Value

/-!
# Dialects

Fragmentizers and builders are registered by dialect. Plain text is known from the
beginning, and stands in for dialects that are not.
-/

namespace Typeahead

/-! ## Splitting documents

Fragmentizers are registered by dialect. A document of an unknown dialect is
taken as plain text, which is one fragment.
-/

namespace Fragmentizer

variable {σ : Type}

abbrev Factory (σ : Type) := Host σ (Fragmentizer σ)

/-- The registry before anything is registered: it knows plain text. -/
def initial : Registry (Factory σ) :=
  ⟨[(.text plaintext, Host.pure (.plain (.text plaintext)))]⟩

def make (config : Config) (registry : Registry (Factory σ)) (languageId : Value) :
    Action σ (Fragmentizer σ) := do
  match ← Action.ofExcept ((registry.lookUp languageId).mapError .misfit) with
  | some factory => Action.ask (.makeFragmentizer languageId) factory
  | none =>
    Action.log .debug .fragments
      ("No fragmentizer for " ++ languageId.quoted ++ ", falling back to " ++
        config.defaultDialect.shown)
    return .plain (.text plaintext)

def fragmentize (text : String) (settings : Settings) : Fragmentizer σ → Action σ (List Draft)
  | .plain languageId =>
    Action.ask (.fragmentize text settings)
      (Host.pure [Fragment.draft ⟨languageId, text, 0, settings⟩])
  | .custom f => Action.ask (.fragmentize text settings) (f text settings)

end Fragmentizer

def Document.fragments {σ : Type} (doc : Document) (config : Config)
    (registry : Registry (Fragmentizer.Factory σ)) : Action σ (List Draft) := do
  let fragmentizer ← Fragmentizer.make config registry doc.languageId
  fragmentizer.fragmentize doc.text doc.settings

/-! ## Plain text

Builders are registered by dialect. A builder is told the settings of a
fragment, is fed its code and builds plain text from it. Fragments of unknown
dialects are taken as plain text already.
-/

namespace Builder

variable {σ : Type}

abbrev Factory (σ : Type) := Host σ (Builder σ)

def initial : Registry (Factory σ) :=
  ⟨[(.text plaintext, Host.pure .plain)]⟩

def make (config : Config) (registry : Registry (Factory σ)) (languageId : Value) :
    Action σ (Builder σ) := do
  match ← Action.ofExcept ((registry.lookUp languageId).mapError .misfit) with
  | some factory => Action.ask (.makeBuilder languageId) factory
  | none =>
    Action.log .debug .markup
      ("No annotation builder for " ++ languageId.quoted ++ ", falling back to " ++
        config.defaultDialect.shown)
    return .plain

/-- Tells a builder the settings of the code to come. -/
def tell (settings : Settings) : Builder σ → Action σ Unit
  | .plain => Action.ask (.configure settings) (Host.pure ())
  | .custom configure _ _ => Action.ask (.configure settings) (configure settings)

def give (code : Value) : Builder σ → Action σ Unit
  | .plain => Action.ask (.feed code) (Host.pure ())
  | .custom _ feed _ => Action.ask (.feed code) (feed code)

/-- What a builder makes after it was fed `code`. Plain text is made of texts only. -/
def finish (code : Value) : Builder σ → Action σ Value
  | .plain => do
    Action.ask .build (Host.pure ())
    let text ← Action.ofExcept (code.textOr (.misfit .notText))
    return .text text
  | .custom _ _ build => Action.ask .build build

end Builder

def Draft.plainText {σ : Type} (d : Draft) (config : Config)
    (registry : Registry (Builder.Factory σ)) : Action σ Value := do
  let builder ← Builder.make config registry d.languageId
  builder.tell d.settings
  builder.give d.code
  builder.finish d.code

/-- A fragment of a document with its plain text. -/
structure Annotated where
  /-- What the builder made; nobody has checked it. -/
  plainText : Value
  fragment : Draft
  document : Document
  deriving Repr

end Typeahead
