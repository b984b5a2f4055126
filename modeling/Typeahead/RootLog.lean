import Typeahead.Action
import Typeahead.Value

/-!
# The root log

The root log has a level and handlers. It is configured by the first who asks:
a handler on the standard error stream is added, and then the level is set.
Once there is a handler, configuring does nothing. A level that cannot be set
is noticed only after the handler was added.
-/

namespace Typeahead

inductive Stream where
  | output
  | error
  deriving DecidableEq, Repr

/-- The level and the handlers of the root log. -/
structure RootLog where
  /-- A whole number, or a truth value that stands for one. -/
  level : Value := .int 30
  /-- The stream that each handler writes to. -/
  handlers : List Stream := []
  deriving Repr, Inhabited

namespace RootLog

def info : Int := 20

def levelNames : List (String × Int) :=
  [("CRITICAL", 50), ("FATAL", 50), ("ERROR", 40), ("WARNING", 30), ("WARN", 30), ("INFO", 20),
    ("DEBUG", 10), ("NOTSET", 0)]

/-- The level that a value stands for: a number as it is, or the number of a
name. There is none to set for an empty value. -/
def levelOf? : Value → Except Fault (Option Value)
  | .null => .ok none
  | .int n => .ok (some (.int n))
  | .bool b => .ok (some (.bool b))
  | .text name => match levelNames.lookup name with
    | some n => .ok (some (.int n))
    | none => .error (.unknownLevel name)
  | .real _ | .nan | .list _ | .table _ => .error (.misfit .notLevel)

/-- Configures the root log, unless it has a handler. -/
def setup (level : Value) : Action RootLog Unit := do
  if (← Action.read handlers) = [] then
    Action.modify fun log => { log with handlers := [.error] }
    match ← Action.ofExcept (levelOf? level) with
    | some level => Action.modify fun log => { log with level }
    | none => pure ()

/-! ## Lines -/

/-- The name of a level. The name of one that has none is made of the level
itself, and where a name stands already its number is shown. -/
def levelName : Value → Except Fault String
  | .list _ | .table _ => .error (.misfit .notLevel)
  | .text name => match levelNames.lookup name with
    | some n => .ok (toString n)
    | none => .ok ("Level " ++ name)
  | level => match levelNames.find? (fun entry => level.equals (.int entry.2)) with
    | some entry => .ok entry.1
    | none => .ok ("Level " ++ level.shown)

def padded (width : Nat) (text : String) : String :=
  text ++ String.ofList (List.replicate (width - text.length) ' ')

/-- The line that a handler writes for a record, which is made at a moment and
whose level has the name `level`. -/
def line (logger : Value) (level : String) (message moment : Value) : Except Fault String := do
  let time ← (Moment.timeOfDay moment).mapError .moment
  return time ++ "  " ++ padded 8 level ++ "  " ++ logger.shown ++ ": " ++ message.shown

example : line (.text "x.y") "Level 25" (.text "custom") (.int 3661) =
    .ok "01:01:01  Level 25  x.y: custom" := by rfl

/-- The lines that the handlers write for a record. Its level is named before
any of them writes. -/
def lines (log : RootLog) (logger level message moment : Value) : Except Fault (List String) := do
  let name ← levelName level
  log.handlers.mapM fun _ => line logger name message moment

end RootLog

end Typeahead
