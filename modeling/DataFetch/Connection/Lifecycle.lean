import DataFetch.Engine.Custom
import DataFetch.Engine.Mysql
import DataFetch.Engine.Sqlite

/-! # Opening and closing

A connection is opened at most once at a time and closed only when it is open; both are logged once
they have succeeded, and a failure leaves the connection as open or closed as it was.
-/
namespace DataFetch.Connection

def openEngine (cn : Connection) : Run Unit :=
  match cn.kind.engine with
  | .sqlite => Sqlite.openEngine cn
  | .mysql => Mysql.openEngine cn
  | .custom => Custom.openEngine

def closeEngine (cn : Connection) : Run Unit :=
  match cn.kind.engine with
  | .sqlite => Sqlite.closeEngine
  | .mysql => Mysql.closeEngine
  | .custom => Custom.closeEngine

def executeOn (cn : Connection) (text : Value) (params : List Value) : Run StatementResult :=
  match cn.kind.engine with
  | .sqlite => Sqlite.execute text params
  | .mysql => Mysql.execute text params
  | .custom => Custom.execute text params

/-- Where the connection leads. -/
def target (cn : Connection) : Run Value :=
  match cn.config.target with
  | .ok v => pure v
  | .error f => Run.fail (.fault f)

def connect (cn : Connection) : Run Unit := do
  if (← get).connected then return
  cn.openEngine
  modify fun s => { s with connected := true }
  Run.emit .debug "connection_opened"
    [("backend", .text cn.backend.name), ("target", ← cn.target)]

def close (cn : Connection) : Run Unit := do
  if !(← get).connected then return
  cn.closeEngine
  modify fun s => { s with connected := false }
  Run.emit .debug "connection_closed" [("backend", .text cn.backend.name)]

end DataFetch.Connection
