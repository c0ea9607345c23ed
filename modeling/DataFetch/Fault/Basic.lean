import DataFetch.Fault.Context
import DataFetch.Fault.Kind

/-! # Faults

The failures that a connection reports: a kind, a message, a category, a hint whether trying again can
help, the fault beneath it and a context that callers may add to.
-/
namespace DataFetch

/-- What lies beneath a fault: the name of its kind and its text. -/
structure Cause where
  kind : String
  text : String
  deriving DecidableEq, Repr, Inhabited

structure Fault where
  kind : FaultKind
  message : Value
  category : FaultCategory
  retryable : Value
  context : FaultContext := {}
  cause : Option Cause := none
  deriving Repr, Inhabited

namespace Fault

/-- A fault with the category and the hint of its kind, where nothing else is stated. -/
def ofMessage (kind : FaultKind) (message : Value) (cause : Option Cause := none)
    (category : Option FaultCategory := none) (retryable : Option Value := none)
    (context : FaultContext := {}) : Fault :=
  { kind, message, cause, context
    category := category.getD kind.category
    retryable := retryable.getD (.bool kind.retryable) }

def make (kind : FaultKind) (message : String) (cause : Option Cause := none) : Fault :=
  ofMessage kind (.text message) cause

/-- The stated message, unless it counts as absent. -/
def messageOr (message : Value) (default : String) : Value :=
  if message.isTruthy then message else .text default

def missingConfig (key : Value) (message : Value := .null) : Fault :=
  ofMessage .missingConfig
    (messageOr message ("Missing required configuration: " ++ key.display))

def invalidConfig (key value : Value) (message : Value := .null) : Fault :=
  ofMessage .invalidConfig
    (messageOr message ("Invalid configuration for " ++ key.display ++ ": " ++ value.literal))

/-- The call that makes a fault of a kind; kinds without a form of their own share the most general. -/
def signature : FaultKind → Signature
  | .missingConfig =>
    { callee := "MissingConfigError.__init__", ordered := ["self", "key", "message"], optional := 1 }
  | .invalidConfig =>
    { callee := "InvalidConfigError.__init__", ordered := ["self", "key", "value", "message"]
      optional := 1 }
  | _ =>
    { callee := "QuarryError.__init__", ordered := ["self", "message"]
      named := ["category", "retryable", "context", "cause"] }

def ofArguments (kind : FaultKind) (arguments : List Value) : Except Misuse Fault :=
  ((signature kind).check (arguments.length + 1) []).map fun _ =>
    match kind, arguments with
    | .missingConfig, key :: rest => missingConfig key (rest.headD .null)
    | .invalidConfig, key :: value :: rest => invalidConfig key value (rest.headD .null)
    | _, _ => ofMessage kind (arguments.headD .null)

def text (f : Fault) : String :=
  f.message.display

def contextSignature : Signature :=
  { callee := "QuarryError.with_context", ordered := ["self"], takesNames := true }

/-- The fault with entries added to its context; one name belongs to the call itself. -/
def withContext (f : Fault) (entries : Record) : Except Misuse Fault :=
  (contextSignature.check 1 entries.keys).bind fun _ =>
    (f.context.putAll entries).map fun context => { f with context }

/-- The fault with one field of its context set. -/
def note (f : Fault) (key : String) (v : Value) : Fault :=
  { f with context := f.context.set key v }

def summary (f : Fault) : String :=
  f.kind.name ++ "(" ++ f.message.literal ++ ", category=" ++ f.category.name ++ ")"

def report (f : Fault) : Except Misuse Record :=
  f.context.view.map fun context =>
    [("error_type", .text f.kind.name), ("message", f.message),
      ("category", .text f.category.name), ("retryable", f.retryable)] ++
    (if context.isEmpty then [] else [("context", .object context)]) ++
    (f.cause.map fun c => ("cause", Value.text c.text)).toList

def asCause (f : Fault) : Cause :=
  ⟨f.kind.name, f.text⟩

end Fault

end DataFetch
