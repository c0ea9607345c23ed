import DataFetch.Attribute
import DataFetch.Log.Basic
import DataFetch.Signature
import DataFetch.Text.CaseMap
import DataFetch.Value.Entries

/-! # Logger calls

What a call of a logger states, what its methods do, and the calls that cannot be made: by a method
that no logger has, to a logger whose name is no text, with a field that the call uses for itself, or at
a level that is none.
-/
namespace DataFetch

structure LogCall where
  /-- The name of the logger; one that counts as absent stands for the root. -/
  logger : Value
  method : Value
  /-- The first value of the call: the event, or what the method takes in its place. -/
  event : Value
  fields : Record
  deriving Repr, Inhabited

namespace LogLevel

/-- Names that are not those of levels but of what the format of lines is made from. -/
def unsuitable : List (String × Misuse) :=
  [("BASIC_FORMAT", .missingKey "'%(levelname)s:%(name)s:%(message)s'"),
    ("_STYLES", .unhashable "dict")]

def find (name : Value) : Except Misuse LogLevel :=
  match name, name.asText? with
  | .bytes _, _ => .error (.memberName name.kindName)
  | _, none => .error (.noMember name.kindName "upper")
  | _, some s =>
    match vocabulary.lookup (Text.upper s), unsuitable.lookup (Text.upper s) with
    | some l, _ => .ok l
    | none, some m => .error m
    | none, none => .error (.noLevel (Text.upper s))

def ofEvents : List LogLevel := [debug, info, warning, error, critical]

/-- Does a level exceed a number? No other value can be compared with one. -/
def exceeds (l : LogLevel) (v : Value) (sign : String) : Except Misuse Bool :=
  match v, v.asInt? with
  | .float x, _ => (Value.asFloat l.rank).map fun y => (x.sub y).isBelowZero
  | _, some n => .ok (decide (n < l.rank))
  | _, none => .error (.incomparable sign v.kindName "int")

def ofRank (v : Value) : Except Misuse LogLevel :=
  match ofEvents.find? fun l => v.same (.int l.rank) with
  | some l => .ok l
  | none => .error (.missingKey v.literal)

end LogLevel

/-- What the methods of a logger do. Those that are deferred only prepare what they do. -/
inductive LogMethod where
  | fixed (level : LogLevel) (deferred : Bool)
  | failure (deferred : Bool)
  /-- Logs at the level that the call states. -/
  | stated (deferred : Bool)
  | isEnabled
  | threshold
  | bind
  | renew
  /-- Makes a logger without a value, which has to be there. -/
  | unbind
  | tryUnbind
  deriving DecidableEq, Repr, Inhabited

namespace LogMethod

/-- The methods that write, each of which is deferred under a second name. -/
def writing : List (String × (Bool → LogMethod)) :=
  [("debug", fixed .debug), ("info", fixed .info), ("msg", fixed .info),
    ("warning", fixed .warning), ("warn", fixed .warning), ("error", fixed .error),
    ("critical", fixed .critical), ("fatal", fixed .critical), ("exception", failure),
    ("log", stated)]

/-- The methods of every logger, set up or not. -/
def early : List (String × LogMethod) :=
  [("bind", bind), ("new", renew), ("unbind", unbind), ("try_unbind", tryUnbind)]

def late : List (String × LogMethod) :=
  writing.flatMap (fun (name, make) => [(name, make false), ("a" ++ name, make true)]) ++
    [("is_enabled_for", isEnabled), ("get_effective_level", threshold)]

def find (least : LogLevel) (method : String) : Except Misuse LogMethod :=
  match late.lookup method with
  | some m => .ok m
  | none => .error (.noMember ("BoundLoggerFilteringAt" ++ least.name.capitalize) method)

def scope : String := "_make_filtering_bound_logger.<locals>."

def writer (callee : String) (before : List String := []) : Signature :=
  { callee, ordered := "self" :: before ++ ["event"], takesValues := true, takesNames := true }

/-- What a method takes, which depends on whether its level passes. -/
def signature (least : LogLevel) : LogMethod → Signature
  | fixed level deferred =>
    let mark := if deferred then "a" else ""
    writer (if least.passes level then scope ++ "make_method.<locals>." ++ mark ++ "meth"
      else "_" ++ mark ++ "nop")
  | failure deferred => writer (if deferred then "aexception" else "exception")
  | stated deferred => writer (scope ++ (if deferred then "alog" else "log")) ["level"]
  | isEnabled => { callee := scope ++ "<lambda>", ordered := ["self", "level"] }
  | threshold => { callee := scope ++ "<lambda>", ordered := ["self"] }
  | bind => { callee := "BoundLoggerLazyProxy.bind", ordered := ["self"], takesNames := true }
  | renew => { callee := "BoundLoggerLazyProxy.new", ordered := ["self"], takesNames := true }
  | unbind => { callee := "BoundLoggerLazyProxy.unbind", ordered := ["self"], takesValues := true }
  | tryUnbind =>
    { callee := "BoundLoggerLazyProxy.try_unbind", ordered := ["self"], takesValues := true }

end LogMethod

namespace LogCall

def checkLogger (c : LogCall) : Except Misuse Unit :=
  if !c.logger.isTruthy || c.logger.asText?.isSome then .ok () else .error .loggerName

def loggerName (c : LogCall) : Value :=
  if c.logger.isTruthy then c.logger else .text "root"

/-- An event of some level with the fields of a line, if the level passes. One field belongs to what
hands the event on; no event is none. -/
def emit (least level : LogLevel) (event : Value) (fields : Record) :
    Except Misuse (Option (LogLevel × Record)) :=
  if !least.passes level then .ok none
  else if fields.has "method_name" then
    .error (.repeatedArgument "BoundLoggerBase._proxy_to_logger" "method_name")
  else .ok (some (level, if event.isNull then fields else fields.put "event" event))

def effect (c : LogCall) (least : LogLevel) :
    LogMethod → Except Misuse (Option (LogLevel × Record))
  | .fixed level false => emit least level c.event c.fields
  | .failure false => emit least .error c.event (c.fields.putNew "exc_info" (.bool true))
  | .stated false => do
    if ← least.exceeds c.event "<" then return none
    let level ← LogLevel.ofRank c.event
    emit least level (c.fields.getD "event" .null) (c.fields.erase "event")
  | .isEnabled => (least.exceeds c.event ">=").map fun _ => none
  | .unbind => do
    c.event.checkName
    .error (.missingKey c.event.literal)
  | _ => .ok none

/-- What a call leads to: the level and the fields of a line, if it writes one. A logger is set up
before its methods are looked up, except those that every logger has; when `checksName` holds, its name
has to be a text. -/
def outcome (c : LogCall) (least : LogLevel) (checksName : Bool) :
    Except Misuse (Option (LogLevel × Record)) := do
  let method ← Attribute.nameOf c.method
  let setUp : Except Misuse Unit := if checksName then c.checkLogger else .ok ()
  match LogMethod.early.lookup method with
  | some m =>
    (m.signature least).check 2 c.fields.keys
    setUp
    c.effect least m
  | none =>
    setUp
    let m ← LogMethod.find least method
    (m.signature least).check 2 c.fields.keys
    c.effect least m

end LogCall

end DataFetch
