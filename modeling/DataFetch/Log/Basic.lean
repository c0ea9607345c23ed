import DataFetch.Value.Basic

/-! # Log events

Levels, the context that is bound around events, and events as a connection emits them.
-/
namespace DataFetch

inductive LogLevel where
  | notset
  | debug
  | info
  | warning
  | error
  | critical
  deriving DecidableEq, Repr, Inhabited

namespace LogLevel

def name : LogLevel → String
  | notset => "notset"
  | debug => "debug"
  | info => "info"
  | warning => "warning"
  | error => "error"
  | critical => "critical"

/-- Levels grow in steps of ten. -/
def rank : LogLevel → Nat
  | notset => 0
  | debug => 10
  | info => 20
  | warning => 30
  | error => 40
  | critical => 50

/-- The names of levels in a configuration, two of which have a second name. -/
def vocabulary : List (String × LogLevel) :=
  [("NOTSET", notset), ("DEBUG", debug), ("INFO", info), ("WARN", warning), ("WARNING", warning),
    ("ERROR", error), ("FATAL", critical), ("CRITICAL", critical)]

def passes (threshold l : LogLevel) : Bool :=
  threshold.rank ≤ l.rank

end LogLevel

/-- What is bound around events: named values. -/
abbrev LogContext := Record

namespace LogContext

/-- The context with further values bound, each in the place of an earlier one of its name. -/
def bind (c : LogContext) (entries : Record) : LogContext :=
  Record.putAll c entries

def unbind (c : LogContext) (keys : List String) : LogContext :=
  Record.eraseAll c keys

end LogContext

/-- An event with the context that was bound when it was emitted. -/
structure LogEvent where
  level : LogLevel
  name : String
  fields : Record
  context : LogContext
  deriving Repr, Inhabited

end DataFetch
