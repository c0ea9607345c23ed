import DataFetch.Connection.Lifecycle
import DataFetch.Request.Draft
import DataFetch.Statement.Dialect

/-! # Running statements

A statement opens the connection first if need be. It is logged once, whether it succeeds or ends in a
fault, and a fault carries the statement in its context. The ways to run one differ in what they
return of the result. A fetch runs the statement of a request with the table bound in the log context.
-/
namespace DataFetch.Connection

def annotate (cn : Connection) (text : Value) (count : Nat) (f : Fault) : Fault :=
  ((f.note "backend" (.text cn.backend.name)).note "statement" text).note "param_count"
    (.int count)

def failedFields (cn : Connection) (text : Value) (f : Fault) : Record :=
  [("backend", .text cn.backend.name), ("statement", text), ("error", .text f.text),
    ("error_type", .text f.kind.name), ("retryable", f.retryable)]

def executedFields (cn : Connection) (text : Value) (count rows : Nat) : Record :=
  [("backend", .text cn.backend.name), ("statement", text), ("param_count", .int count),
    ("rows", .int rows)]

def statement (cn : Connection) (text : Value) (params : List Value) : Run StatementResult := do
  let result ← Run.onFault (cn.executeOn text params) fun f => do
    Run.emit .warning "statement_failed" (cn.failedFields text f)
    Run.fail (.fault (cn.annotate text params.length f))
  Run.emit .debug "statement_executed"
    (cn.executedFields text params.length result.rows.length)
  return result

def run (cn : Connection) (text params : Value) : Run StatementResult := do
  if !(← get).connected then cn.connect
  cn.statement text (← Run.liftMisuse params.elements)

def executeArray (cn : Connection) (text params : Value) : Run (List Record) := do
  return (← cn.run text params).rows

def executeSingle (cn : Connection) (text params : Value) : Run (Option Record) := do
  return (← cn.run text params).rows.head?

/-- The first value of a row; null for no row and for a row without columns. -/
def firstValue : Option Record → Value
  | some ((_, v) :: _) => v
  | _ => .null

def executeScalar (cn : Connection) (text params : Value) : Run Value := do
  return firstValue (← cn.executeSingle text params)

/-- The number of rows that were touched, zero when the engine cannot tell. -/
def executeNonQuery (cn : Connection) (text params : Value) : Run Value := do
  Run.liftMisuse (← cn.run text params).rowcount.atLeastZero

def layout (cn : Connection) : Layout :=
  { columns := cn.kind.fetchColumns, unboundedLimit := cn.backend.unboundedLimit }

def fetch (cn : Connection) (r : FetchRequest) : Run (List Record) := do
  let command ← Run.liftMisuse (cn.layout.compile r)
  Run.inScope [("table", .text r.table)]
    (cn.executeArray (.text command.text) (.list command.params))

def liftRefusal {α : Type} : Except Refusal α → Run α
  | .ok a => pure a
  | .error r => Run.fail (.refused r)

def fetchPayload (cn : Connection) (payload : Value) : Run (List Record) := do
  cn.fetch (← liftRefusal ((FetchRequest.read payload).mapError .invalid))

def fetchDraft (cn : Connection) (d : Draft) : Run (List Record) := do
  cn.fetch (← liftRefusal (d.build.mapError .invalid))

end DataFetch.Connection
