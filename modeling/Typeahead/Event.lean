import Typeahead.Config

/-!
# Events

What an action does besides answering: it calls collaborators, it writes log
records, and its collaborators print.
-/

namespace Typeahead

inductive Level where
  | debug
  | info
  | warning
  deriving DecidableEq, Repr

inductive Topic where
  | wordLists
  | engine
  | fragments
  | markup
  | language
  deriving DecidableEq, Repr

structure Record where
  level : Level
  topic : Topic
  message : String
  deriving DecidableEq, Repr

/-- A call of a collaborator, with what it is given. -/
inductive Call where
  | makeFragmentizer (languageId : Value)
  | fragmentize (text : String) (settings : Settings)
  | makeBuilder (languageId : Value)
  | configure (settings : Settings)
  | feed (code : Value)
  | build
  | makeDetector
  | clean (text : Value)
  | detect (text : Value) (allow disallow : List String)
  | load (name : Value)
  deriving Repr

/-- Something that an action does besides answering. -/
inductive Event where
  | call (c : Call)
  | record (r : Record)
  | printed (text : String)
  deriving Repr

namespace Event

def call? : Event → Option Call
  | .call c => some c
  | _ => none

def record? : Event → Option Record
  | .record r => some r
  | _ => none

def text : Event → String
  | .printed text => text
  | _ => ""

def isPrinted : Event → Bool
  | .printed _ => true
  | _ => false

def calls (events : List Event) : List Call :=
  events.filterMap call?

def records (events : List Event) : List Record :=
  events.filterMap record?

def printedText (events : List Event) : String :=
  String.join (events.map text)

end Event

end Typeahead
