import DataFetch.Engine.Basic

/-! # Failures of operations

What an operation of a connection can end in: a fault of this library, a failure of the engine that is
passed on as it is, or a refusal of what it was given.
-/
namespace DataFetch

inductive Failure where
  | fault (f : Fault)
  | engine (e : EngineError)
  | refused (r : Refusal)
  deriving Repr, Inhabited

namespace Failure

/-- A failure of the engine as a failure of the operation. A fault of this library is made from the
message alone, which not every kind of fault allows. -/
def ofEngine (e : EngineError) : Failure :=
  match e.kind with
  | .library kind =>
    match Fault.ofArguments kind [.text e.message] with
    | .ok f => .fault f
    | .error m => .refused (.misuse m)
  | _ => .engine e

def wrapped (kind : FaultKind) (before : String) (e : EngineError) : Failure :=
  .fault (Fault.make kind (before ++ e.message) (some e.asCause))

/-- A failure of the driver's own family becomes a fault of `kind`; any other is passed on. -/
def wrapDriver (kind : FaultKind) (before : String) (e : EngineError) : Failure :=
  if e.kind.isDriver then wrapped kind before e else ofEngine e

/-- The failure of a statement: a violated constraint has a fault of its own. -/
def ofStatement (e : EngineError) : Failure :=
  match e.kind with
  | .integrity => wrapped .integrity "" e
  | _ => wrapDriver .query "" e

end Failure

end DataFetch
