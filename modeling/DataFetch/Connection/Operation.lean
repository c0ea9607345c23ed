import DataFetch.Connection.Records

/-! # Operations

Everything that can be asked of a connection, as data, and what it answers. A session is run by
performing operations one after another; a failed operation does not end it.
-/
namespace DataFetch

inductive Lifecycle where
  | connect
  | close
  deriving DecidableEq, Repr

inductive Operation where
  | connect
  | close
  | enter
  | leave
  /-- Several openings and closings that are started together and take turns. -/
  | gather (steps : List Lifecycle)
  | scalar (text params : Value)
  | single (text params : Value)
  | array (text params : Value)
  | nonQuery (text params : Value)
  | tableExists (table : Value)
  | columnExists (table column : Value)
  | insert (table : Value) (record : Record)
  | update (table : Value) (record : Record)
  | delete (table id : Value)
  | fetch (payload : Value)
  | fetchDraft (table : Value) (steps : List DraftStep)
  /-- One statement on the engine itself, past the connection. -/
  | engineExecute (text params : Value)
  | engineClose
  | describe
  | layout
  | bind (entries : Record)
  | unbind (keys : List String)
  deriving Repr, Inhabited

inductive Answer where
  | nothing
  | truth (b : Bool)
  | value (v : Value)
  | row (r : Option Record)
  | rows (rs : List Record)
  | result (r : StatementResult)
  | layout (l : Layout)
  deriving Repr, Inhabited

namespace Connection

def performLifecycle (cn : Connection) : Lifecycle → Run Unit
  | .connect => cn.connect
  | .close => cn.close

/-- Performs every step in turn, and fails as the first that failed. -/
def gather (cn : Connection) : List Lifecycle → Run Unit
  | [] => pure ()
  | step :: rest => Run.ofFunction fun s =>
    let (outcome, t) := (cn.performLifecycle step).onSession s
    let (others, u) := (cn.gather rest).onSession t
    (match outcome with
      | .ok () => others
      | .error f => .error f, u)

def perform (cn : Connection) : Operation → Run Answer
  | .connect => do cn.connect; return .nothing
  | .close => do cn.close; return .nothing
  | .enter => do cn.connect; return .truth true
  | .leave => do cn.close; return .nothing
  | .gather steps => do cn.gather steps; return .nothing
  | .scalar text params => return .value (← cn.executeScalar text params)
  | .single text params => return .row (← cn.executeSingle text params)
  | .array text params => return .rows (← cn.executeArray text params)
  | .nonQuery text params => return .value (← cn.executeNonQuery text params)
  | .tableExists table => return .truth (← cn.tableExists table)
  | .columnExists table column => return .truth (← cn.columnExists table column)
  | .insert table record => return .row (← cn.insert table record)
  | .update table record => return .row (← cn.update table record)
  | .delete table id => return .row (← cn.delete table id)
  | .fetch payload => return .rows (← cn.fetchPayload payload)
  | .fetchDraft table steps => do
    let d ← liftRefusal ((Draft.start table).attempt cn.layout steps)
    return .rows (← cn.fetchDraft d)
  | .engineExecute text params => do
    return .result (← cn.executeOn text (← Run.liftMisuse params.elements))
  | .engineClose => do cn.closeEngine; return .nothing
  | .describe => return .value (.text (cn.summary (← get).connected))
  | .layout => return .layout cn.layout
  | .bind entries => do
    modify fun s => { s with context := s.context.bind entries }
    return .nothing
  | .unbind keys => do
    modify fun s => { s with context := s.context.unbind keys }
    return .nothing

/-- The outcomes of operations one after another, each with the session after it. -/
def performAll (cn : Connection) (s : Session) :
    List Operation → List (Except Failure Answer × Session)
  | [] => []
  | op :: rest =>
    let step := (cn.perform op).onSession s
    step :: cn.performAll step.2 rest

def sessionAfter (cn : Connection) (s : Session) (ops : List Operation) : Session :=
  ops.foldl (fun s op => ((cn.perform op).onSession s).2) s

end Connection

end DataFetch
