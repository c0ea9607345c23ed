import DataFetch.Failure
import DataFetch.Log.Basic

/-! # Sessions

The state of one connection in use: whether it is connected, the driver object it holds, how the engine
will answer, the calls made so far, the events logged so far and the context bound around them. An
operation changes the state also when it fails.
-/
namespace DataFetch

structure Session where
  connected : Bool := false
  /-- The number of the driver object that is held: an SQLite connection or a pool. -/
  handle : Option Nat := none
  script : Script := {}
  transcript : List Exchange := []
  events : List LogEvent := []
  context : LogContext := []
  /-- How many driver objects were made so far. -/
  made : Nat := 0
  deriving Repr, Inhabited

abbrev Run := ExceptT Failure (StateM Session)

namespace Run

def fail {α : Type} (f : Failure) : Run α :=
  throw f

/-- The result of an operation in a session, with the session after it. -/
def onSession {α : Type} (body : Run α) (s : Session) : Except Failure α × Session :=
  (ExceptT.run body).run s

def ofFunction {α : Type} (f : Session → Except Failure α × Session) : Run α :=
  ExceptT.mk (fun s => f s : StateM Session (Except Failure α))

@[simp]
theorem onSession_pure {α : Type} (a : α) (s : Session) :
    (pure a : Run α).onSession s = (.ok a, s) := rfl

@[simp]
theorem onSession_fail {α : Type} (f : Failure) (s : Session) :
    (fail f : Run α).onSession s = (.error f, s) := rfl

@[simp]
theorem onSession_get (s : Session) : (get : Run Session).onSession s = (.ok s, s) := rfl

@[simp]
theorem onSession_set (s t : Session) : (set t : Run PUnit).onSession s = (.ok (), t) := rfl

@[simp]
theorem onSession_modify (f : Session → Session) (s : Session) :
    (modify f : Run PUnit).onSession s = (.ok (), f s) := rfl

@[simp]
theorem onSession_ofFunction {α : Type} (f : Session → Except Failure α × Session)
    (s : Session) : (ofFunction f).onSession s = f s := rfl

@[simp]
theorem onSession_bind {α β : Type} (m : Run α) (f : α → Run β) (s : Session) :
    (m >>= f).onSession s = match m.onSession s with
      | (.ok a, t) => (f a).onSession t
      | (.error e, t) => (.error e, t) := by
  simp only [onSession, ExceptT.run_bind, StateT.run_bind]
  cases h : (ExceptT.run m).run s with
  | mk r t => cases r <;> rfl

/-- Records a call and raises what it raised. -/
def exchange (object : Nat) (call : Call) (raised : Option EngineError) : Run Unit := do
  modify fun s => { s with transcript := s.transcript ++ [⟨object, call, raised⟩] }
  match raised with
  | none => pure ()
  | some e => fail (.engine e)

theorem onSession_exchange (object : Nat) (call : Call) (raised : Option EngineError)
    (s : Session) :
    (exchange object call raised).onSession s =
      (match raised with
        | none => .ok ()
        | some e => .error (.engine e),
        { s with transcript := s.transcript ++ [⟨object, call, raised⟩] }) := by
  cases raised <;> simp [exchange]

/-- Turns failures of the engine inside `body` into others. -/
def mapEngineError {α : Type} (recast : EngineError → Failure) (body : Run α) : Run α :=
  ofFunction fun s =>
    match body.onSession s with
    | (.error (.engine e), t) => (.error (recast e), t)
    | outcome => outcome

/-- Runs `cleanup` after `body` in any case; a failure of the cleanup takes the place of the outcome. -/
def andFinally {α : Type} (body : Run α) (cleanup : Run Unit) : Run α :=
  ofFunction fun s =>
    let (outcome, t) := body.onSession s
    match cleanup.onSession t with
    | (.ok (), u) => (outcome, u)
    | (.error f, u) => (.error f, u)

def onFault {α : Type} (body : Run α) (handler : Fault → Run α) : Run α :=
  ofFunction fun s =>
    match body.onSession s with
    | (.error (.fault f), t) => (handler f).onSession t
    | outcome => outcome

/-- Runs `body` with values bound in the log context; their names are not bound any more after it. -/
def inScope {α : Type} (entries : Record) (body : Run α) : Run α := do
  modify fun s => { s with context := s.context.bind entries }
  andFinally body (modify fun s => { s with context := s.context.unbind entries.keys })

def nextNumber : Run Nat := do
  return (← get).made + 1

def liftMisuse {α : Type} : Except Misuse α → Run α
  | .ok a => pure a
  | .error m => fail (.refused (.misuse m))

def nextOpening : Run OpenReply := do
  let s ← get
  match s.script.openings with
  | [] => return {}
  | reply :: rest =>
    set { s with script := { s.script with openings := rest } }
    return reply

def nextCheckout : Run (Option EngineError) := do
  let s ← get
  match s.script.checkouts with
  | [] => return none
  | reply :: rest =>
    set { s with script := { s.script with checkouts := rest } }
    return reply

def nextStatement : Run StatementReply := do
  let s ← get
  match s.script.statements with
  | [] => return {}
  | reply :: rest =>
    set { s with script := { s.script with statements := rest } }
    return reply

def nextClosing : Run (Option EngineError) := do
  let s ← get
  match s.script.closings with
  | [] => return none
  | reply :: rest =>
    set { s with script := { s.script with closings := rest } }
    return reply

/-- Logs an event with the context that is bound now. -/
def emit (level : LogLevel) (name : String) (fields : Record) : Run Unit :=
  modify fun s => { s with events := s.events ++ [⟨level, name, fields, s.context⟩] }

end Run

end DataFetch
