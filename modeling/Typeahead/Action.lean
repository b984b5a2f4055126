import Typeahead.Event
import Typeahead.Fault
import Typeahead.Fragment
import Typeahead.Language.Detected
import Typeahead.Text.Encoding

/-!
# Actions and collaborators

An action runs from a state. It answers or ends in a fault, and either way it
leaves a state and the events that happened, in order. An action that ends in
a fault has still done what it did before.
-/

namespace Typeahead

/-! ## Actions -/

/-- What a run of an action leaves behind. -/
structure Outcome (σ α : Type) where
  result : Except Fault α
  state : σ
  events : List Event

/-- A computation over a state `σ`. -/
def Action (σ α : Type) := σ → Outcome σ α

namespace Action

variable {σ τ α β : Type}

def pure (a : α) : Action σ α := fun s =>
  ⟨.ok a, s, []⟩

def bind (first : Action σ α) (next : α → Action σ β) : Action σ β := fun s =>
  let o := first s
  match o.result with
  | .error fault => ⟨.error fault, o.state, o.events⟩
  | .ok a =>
    let rest := next a o.state
    ⟨rest.result, rest.state, o.events ++ rest.events⟩

instance : Monad (Action σ) where
  pure := Action.pure
  bind := Action.bind

def fail (fault : Fault) : Action σ α := fun s =>
  ⟨.error fault, s, []⟩

def ofExcept (result : Except Fault α) : Action σ α := fun s =>
  ⟨result, s, []⟩

def read (view : σ → α) : Action σ α := fun s =>
  ⟨.ok (view s), s, []⟩

def modify (change : σ → σ) : Action σ Unit := fun s =>
  ⟨.ok (), change s, []⟩

def emit (event : Event) : Action σ Unit := fun s =>
  ⟨.ok (), s, [event]⟩

def log (level : Level) (topic : Topic) (message : String) : Action σ Unit :=
  emit (.record ⟨level, topic, message⟩)

/-- Answers with the result of an action, be it a fault. -/
def attempt (action : Action σ α) : Action σ (Except Fault α) := fun s =>
  let o := action s
  ⟨.ok o.result, o.state, o.events⟩

/-- Runs an action on a part of a larger state. -/
def zoom (view : τ → σ) (put : σ → τ → τ) (action : Action σ α) : Action τ α := fun t =>
  let o := action (view t)
  ⟨o.result, put o.state t, o.events⟩

/-- Runs an action and keeps what it prints to itself. A text that was printed
is passed to `note`, also when the action ends in a fault. -/
def quietly (note : String → Event) (action : Action σ α) : Action σ α := fun s =>
  let o := action s
  let text := Event.printedText o.events
  ⟨o.result, o.state,
    o.events.filter (fun e => !e.isPrinted) ++ if text = "" then [] else [note text]⟩

/-! ## Equations -/

@[simp] theorem pure_apply (a : α) (s : σ) : (Pure.pure a : Action σ α) s = ⟨.ok a, s, []⟩ := rfl

@[simp] theorem fail_apply (fault : Fault) (s : σ) :
    (fail fault : Action σ α) s = ⟨.error fault, s, []⟩ := rfl

@[simp] theorem ofExcept_apply (result : Except Fault α) (s : σ) :
    ofExcept result s = ⟨result, s, []⟩ := rfl

@[simp] theorem read_apply (view : σ → α) (s : σ) : read view s = ⟨.ok (view s), s, []⟩ := rfl

@[simp] theorem modify_apply (change : σ → σ) (s : σ) :
    modify change s = ⟨.ok (), change s, []⟩ := rfl

@[simp] theorem log_apply (level : Level) (topic : Topic) (message : String) (s : σ) :
    log level topic message s = ⟨.ok (), s, [.record ⟨level, topic, message⟩]⟩ := rfl

theorem bind_apply (first : Action σ α) (next : α → Action σ β) (s : σ) :
    (first >>= next) s =
      match (first s).result with
      | .error fault => ⟨.error fault, (first s).state, (first s).events⟩
      | .ok a => ⟨(next a (first s).state).result, (next a (first s).state).state,
          (first s).events ++ (next a (first s).state).events⟩ := rfl

theorem bind_of_ok {first : Action σ α} {next : α → Action σ β} {s : σ} {a : α}
    (h : (first s).result = .ok a) :
    (first >>= next) s = ⟨(next a (first s).state).result, (next a (first s).state).state,
      (first s).events ++ (next a (first s).state).events⟩ := by
  rw [bind_apply, h]

theorem bind_of_error {first : Action σ α} {next : α → Action σ β} {s : σ} {fault : Fault}
    (h : (first s).result = .error fault) :
    (first >>= next) s = ⟨.error fault, (first s).state, (first s).events⟩ := by
  rw [bind_apply, h]

end Action

/-! ## Collaborators of the host

The host of this library supplies fragmentizers, builders, detectors and
loaders of its own. Each of their calls may change the host's state, print and
end in trouble, and does nothing else. What they hand over is checked only
where it is used.
-/

open Typeahead.Text

/-- What a call of a collaborator leaves behind. -/
structure Reply (σ α : Type) where
  answer : Except Trouble α
  state : σ
  /-- What it printed to the standard output. -/
  printed : String := ""

/-- A call of a collaborator whose host has the state `σ`. -/
def Host (σ α : Type) := σ → Reply σ α

def Host.pure {σ α : Type} (a : α) : Host σ α := fun s =>
  ⟨.ok a, s, ""⟩

def Action.ask {σ α : Type} (call : Call) (host : Host σ α) : Action σ α := fun s =>
  let r := host s
  ⟨r.answer.mapError .collaborator, r.state,
    .call call :: if r.printed = "" then [] else [.printed r.printed]⟩

inductive Fragmentizer (σ : Type) where
  /-- Makes one fragment of the whole document, in a given dialect. -/
  | plain (languageId : Value)
  | custom (fragmentize : String → Settings → Host σ (List Draft))

/-- Makes plain text of the code that it is fed. -/
inductive Builder (σ : Type) where
  /-- Plain text has no markup. -/
  | plain
  | custom (configure : Settings → Host σ Unit) (feed : Value → Host σ Unit)
      (build : Host σ Value)

/-- Recognises the language of a text. -/
structure Detector (σ : Type) where
  /-- Makes a text fit for detection. -/
  clean : Value → Host σ Value
  detect : Value → List String → List String → Host σ (Option Detected)

end Typeahead
