import DataFetch.Connection.Basic
import DataFetch.Engine.Rows
import DataFetch.Engine.Session

/-! # The SQLite engine

One driver connection per connection, set up before any statement of the caller.
-/
namespace DataFetch.Sqlite

def foreignKeysPragma : String := "PRAGMA foreign_keys = ON"

def queryOnlyPragma : String := "PRAGMA query_only = ON"

def hasQuery (path : String) : Bool :=
  path.toList.contains '?'

/-- Is a path an address with options? -/
def isAddress (path : String) : Bool :=
  "file:".toList.isPrefixOf path.toList || hasQuery path

/-- Whether a path is an address, for a path that is a text. -/
def addressFlag (path : Value) : Except Misuse Bool :=
  match path, path.asText? with
  | _, some s => .ok (isAddress s)
  | .bytes _, none =>
    .error (.unsuitable "startswith first arg must be bytes or a tuple of bytes, not str")
  | _, none => .error (.noMember path.kindName "startswith")

def openKeywords (timeout : Value) (address : Bool) : Record :=
  [("timeout", timeout), ("check_same_thread", .bool false), ("isolation_level", .null),
    ("uri", .bool address)]

/-- Opens the driver connection and sets it up. The connection is held as soon as it is there, also
when setting it up fails. -/
def openEngine (cn : Connection) : Run Unit := do
  let path := Config.openPath cn.config.path
  let address ← Run.liftMisuse (addressFlag path)
  Run.mapEngineError (Failure.wrapDriver .connection "Failed to connect to SQLite: ") do
    let reply ← Run.nextOpening
    let number ← Run.nextNumber
    Run.exchange number (.connect path (openKeywords cn.timeout address)) reply.opening
    modify fun s => { s with handle := some number, made := number }
    Run.exchange number (.pragma foreignKeysPragma) reply.foreignKeys
    if cn.config.readonly.isTruthy then
      Run.exchange number (.pragma queryOnlyPragma) reply.queryOnly

def closeEngine : Run Unit := do
  match (← get).handle with
  | none => pure ()
  | some number =>
    let reply ← Run.nextClosing
    Run.mapEngineError Failure.ofEngine (Run.exchange number .close reply)
    modify fun s => { s with handle := none }

def execute (text : Value) (params : List Value) : Run StatementResult := do
  match (← get).handle with
  | none => Run.fail (.fault (Fault.make .connection "SQLite connection is closed"))
  | some number =>
    Run.mapEngineError Failure.ofStatement do
      let reply ← Run.nextStatement
      Run.exchange number (.execute text (some params)) reply.execute
      match reply.fetch with
      | some e => Run.fail (.engine e)
      | none => return reply.result (← Run.liftMisuse reply.rowsByName)

end DataFetch.Sqlite
