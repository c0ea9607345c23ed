import DataFetch.Fault.Basic

/-! # Engines

The drivers of database engines as connections see them: the calls that are made, what each may raise,
and a script that says how an engine answers. Each queue of a script is answered from the front; a
queue that has run out answers with success and nothing else.
-/
namespace DataFetch

inductive EngineErrorKind where
  /-- A failure of the driver's own family. -/
  | driver (name : String)
  | integrity
  | foreign (name : String)
  | library (kind : FaultKind)
  deriving DecidableEq, Repr, Inhabited

namespace EngineErrorKind

def name : EngineErrorKind → String
  | driver name => name
  | integrity => "IntegrityError"
  | foreign name => name
  | library kind => kind.name

def isDriver : EngineErrorKind → Bool
  | driver _ | integrity => true
  | foreign _ | library _ => false

end EngineErrorKind

structure EngineError where
  kind : EngineErrorKind
  message : String
  deriving DecidableEq, Repr, Inhabited

namespace EngineError

def asCause (e : EngineError) : Cause :=
  ⟨e.kind.name, e.message⟩

end EngineError

inductive Call where
  | connect (path : Value) (keywords : Record)
  | pragma (text : String)
  | pool (keywords : Record)
  | checkout
  | cursor (keywords : Record)
  /-- Runs a statement; a server's plain cursor is given no parameters. -/
  | execute (text : Value) (params : Option (List Value))
  | fetchAll
  | cursorClose
  | release
  /-- Opens an engine of the caller's own. -/
  | openEngine
  | close
  deriving Repr, Inhabited

/-- A call with the number of the driver object that it was made on, and what it raised. -/
structure Exchange where
  object : Nat
  call : Call
  raised : Option EngineError
  deriving Repr, Inhabited

/-- What an attempt to open an engine raises: at the first call, or at one of the two that set up an
SQLite connection. -/
structure OpenReply where
  opening : Option EngineError := none
  foreignKeys : Option EngineError := none
  queryOnly : Option EngineError := none
  deriving Repr, Inhabited

structure StatementReply where
  cursor : Option EngineError := none
  execute : Option EngineError := none
  fetch : Option EngineError := none
  cursorClose : Option EngineError := none
  release : Option EngineError := none
  /-- The names of the columns, when the statement yields rows. -/
  columns : Option (List String) := none
  rows : List (List Value) := []
  rowcount : Value := .int (-1)
  lastrowid : Value := .null
  deriving Repr, Inhabited

structure Script where
  installed : Bool := true
  openings : List OpenReply := []
  checkouts : List (Option EngineError) := []
  statements : List StatementReply := []
  closings : List (Option EngineError) := []
  deriving Repr, Inhabited

end DataFetch
