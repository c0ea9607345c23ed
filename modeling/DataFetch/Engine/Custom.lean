import DataFetch.Engine.Rows
import DataFetch.Engine.Session

/-! # Engines of the caller's own

An engine that only opens, closes and runs statements, and whose failures are passed on.
-/
namespace DataFetch.Custom

def openEngine : Run Unit := do
  let reply ← Run.nextOpening
  let number ← Run.nextNumber
  Run.mapEngineError Failure.ofEngine (Run.exchange number .openEngine reply.opening)
  modify fun s => { s with handle := some number, made := number }

/-- The number of the object that is in use, or was last. -/
def currentNumber : Run Nat := do
  return (← get).made

def closeEngine : Run Unit := do
  let reply ← Run.nextClosing
  Run.mapEngineError Failure.ofEngine (Run.exchange (← currentNumber) .close reply)
  modify fun s => { s with handle := none }

def execute (text : Value) (params : List Value) : Run StatementResult := do
  let reply ← Run.nextStatement
  Run.mapEngineError Failure.ofEngine
    (Run.exchange (← currentNumber) (.execute text (some params)) reply.execute)
  return reply.result reply.rowsInTurn

end DataFetch.Custom
