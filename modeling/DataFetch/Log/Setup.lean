import DataFetch.Log.Line

/-! # Setting up the log

The service name, the bound context and the configuration in force. A configuration with an unknown
level is refused, but its service name is already in force by then. The root logger, through which all
lines go, gets its handler and its level from the first configuration and keeps them in later ones. Only
lines of one object each are modelled: those for people, and those that loggers write before any
configuration, are left out.
-/
namespace DataFetch

structure LogState where
  service : Value := .text "quarry"
  context : LogContext := []
  config : Option LogConfig := none
  /-- The level of the root logger, once it has a handler. -/
  root : Option LogLevel := none
  deriving Repr, Inhabited

structure LogRequest where
  level : Value := .text "INFO"
  /-- Objects or lines for people; null decides by the output, which is no terminal here. -/
  format : Value := .null
  service : Value := .text "quarry"
  addTimestamp : Value := .bool true
  deriving Repr, Inhabited

namespace LogRequest

def fieldNames : List String := ["level", "json_format", "service", "add_timestamp"]

def signature : Signature :=
  { callee := "configure_logging", ordered := fieldNames, optional := 4 }

def ofArguments (arguments : Record) : Except Misuse LogRequest :=
  (signature.check 0 arguments.keys).map fun _ =>
    let base : LogRequest := {}
    { level := arguments.getD "level" base.level
      format := arguments.getD "json_format" base.format
      service := arguments.getD "service" base.service
      addTimestamp := arguments.getD "add_timestamp" base.addTimestamp }

/-- What a request configures if its level is one. -/
def config (r : LogRequest) (threshold : LogLevel) : LogConfig where
  service := r.service
  threshold := threshold
  asObjects := r.format.isNull || r.format.isTruthy
  addTimestamp := r.addTimestamp.isTruthy

end LogRequest

namespace LogState

def bind (s : LogState) (entries : Record) : LogState :=
  { s with context := s.context.bind entries }

def unbind (s : LogState) (keys : List String) : LogState :=
  { s with context := s.context.unbind keys }

def scopeSignature : Signature :=
  { callee := "LogContext.__init__", ordered := ["self"], takesNames := true }

/-- The context inside a scope that binds `entries`, and the state after it: the names of the scope
are no longer bound then, whether the scope ends well or not. One name belongs to the scope itself. -/
def scope (s : LogState) (entries : Record) : Except Misuse (LogContext × LogState) :=
  (scopeSignature.check 1 entries.keys).map fun _ =>
    let inside := s.bind entries
    (inside.context, inside.unbind entries.keys)

def configure (s : LogState) (r : LogRequest) : LogState × Except Misuse Unit :=
  let named := { s with service := r.service }
  match LogLevel.find r.level with
  | .error m => (named, .error m)
  | .ok threshold =>
    ({ named with
        config := some (r.config threshold)
        root := some (s.root.getD threshold) }, .ok ())

/-- The lines that come out where one is handed on: the root logger has a level of its own. -/
def shown (s : LogState) : Option (LogLevel × Record) → List Record
  | none => []
  | some (level, line) => if s.root.any (·.passes level) then [line] else []

/-- The lines that a call of a new logger writes. Before a configuration every level passes and all
loggers are one. -/
def lines (s : LogState) (now : Value) (call : LogCall) : Except Misuse (List Record) :=
  match s.config with
  | none => (call.outcome .notset false).map fun _ => []
  | some config =>
    (LogLine.ofCall { config with service := s.service } s.context now call).map s.shown

end LogState

end DataFetch
