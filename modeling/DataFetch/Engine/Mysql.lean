import DataFetch.Connection.Basic
import DataFetch.Engine.Rows
import DataFetch.Engine.Session

/-! # The MySQL engine

A pool of server connections. Each statement takes a connection out of the pool and gives it back
afterwards, whatever happens in between.
-/
namespace DataFetch.Mysql

def notInstalled : Fault :=
  Fault.make .config
    ("mysql-connector-python is required for MySQL. " ++
      "Install with: pip install mysql-connector-python")

def ownKeywords (c : Config) : Record :=
  [("pool_size", c.poolSize), ("host", c.host), ("port", c.port), ("database", c.database),
    ("user", c.username), ("password", c.password),
    ("charset", c.optionEntries.getD "charset" Connection.defaultCharset),
    ("connection_timeout", c.connectTimeout), ("autocommit", .bool true)]

def extraKeywords (c : Config) : Record :=
  c.optionEntries.erase "charset"

/-- What the pool is opened with, besides its name. No option may have the name of another keyword. -/
def poolKeywords (c : Config) : Except Misuse Record :=
  match (extraKeywords c).keys.find? fun k => k = "pool_name" || (ownKeywords c).has k with
  | some k => .error (.repeatedKeyword "mysql.connector.pooling.MySQLConnectionPool" k)
  | none => .ok (ownKeywords c ++ extraKeywords c)

def openEngine (cn : Connection) : Run Unit := do
  if (← get).script.installed then
    let keywords ← Run.liftMisuse (poolKeywords cn.config)
    let reply ← Run.nextOpening
    let number ← Run.nextNumber
    Run.mapEngineError (Failure.wrapDriver .connection "Failed to connect to MySQL: ") do
      Run.exchange number (.pool keywords) reply.opening
    modify fun s => { s with handle := some number, made := number }
  else Run.fail (.fault notInstalled)

/-- Lets go of the pool; its connections close with it. -/
def closeEngine : Run Unit :=
  modify fun s => { s with handle := none }

def checkout : Run Nat := do
  match (← get).handle with
  | none => Run.fail (.fault (Fault.make .connection "MySQL connection pool is closed"))
  | some _ =>
    let reply ← Run.nextCheckout
    let number ← Run.nextNumber
    Run.mapEngineError (Failure.wrapDriver .connection "Failed to check out a MySQL connection: ") do
      Run.exchange number .checkout reply
    modify fun s => { s with made := number }
    return number

/-- A cursor is prepared when there is something to bind. -/
def cursorKeywords (params : List Value) : Record :=
  if params.isEmpty then [] else [("prepared", .bool true)]

def boundParams (params : List Value) : Option (List Value) :=
  if params.isEmpty then none else some params

/-- Runs a statement on an open cursor and fetches its rows, if it has columns. -/
def runCursor (object : Nat) (reply : StatementReply) (text : Value) (params : List Value) :
    Run StatementResult := do
  Run.exchange object (.execute text (boundParams params)) reply.execute
  if reply.hasColumns then
    Run.exchange object .fetchAll reply.fetch
    return reply.result reply.rowsInTurn
  else return reply.result []

/-- Opens a cursor, runs a statement on it and closes it. -/
def withCursor (object : Nat) (reply : StatementReply) (text : Value) (params : List Value) :
    Run StatementResult := do
  Run.exchange object (.cursor (cursorKeywords params)) reply.cursor
  Run.andFinally (runCursor object reply text params)
    (Run.exchange object .cursorClose reply.cursorClose)

def execute (text : Value) (params : List Value) : Run StatementResult := do
  let object ← checkout
  let reply ← Run.nextStatement
  Run.mapEngineError Failure.ofEngine
    (Run.andFinally
      (Run.mapEngineError Failure.ofStatement (withCursor object reply text params))
      (Run.exchange object .release reply.release))

end DataFetch.Mysql
