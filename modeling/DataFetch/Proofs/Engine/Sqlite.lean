import DataFetch.Engine.Sqlite
import DataFetch.Proofs.Engine.Session

/-! # Opening, closing and running statements on SQLite

What each does to a session as one equation: how it ends, which calls it makes and which driver
connection is held after it.
-/
namespace DataFetch.Sqlite

def openFailure (e : EngineError) : Failure :=
  Failure.wrapDriver .connection "Failed to connect to SQLite: " e

def setUpError? (readonly : Bool) (reply : OpenReply) : Option EngineError :=
  reply.foreignKeys.or (if readonly then reply.queryOnly else none)

/-- The calls that set up a driver connection, as far as they come. -/
def setUpCalls (number : Nat) (readonly : Bool) (reply : OpenReply) : List Exchange :=
  ⟨number, .pragma foreignKeysPragma, reply.foreignKeys⟩ ::
    if reply.foreignKeys.isNone && readonly then
      [⟨number, .pragma queryOnlyPragma, reply.queryOnly⟩]
    else []

theorem mem_raises_of_setUpError? {readonly : Bool} {reply : OpenReply} {e : EngineError}
    (h : setUpError? readonly reply = some e) : e ∈ reply.raises := by
  rw [setUpError?, Option.or_eq_some_iff] at h
  rcases h with h | ⟨-, h⟩
  · simp [OpenReply.raises, h]
  · cases readonly with
    | false => cases h
    | true =>
      rw [if_pos rfl] at h
      simp [OpenReply.raises, h]

def setUpOutcome : Option EngineError → Except Failure Unit
  | none => .ok ()
  | some e => .error (openFailure e)

theorem onSession_openEngine (cn : Connection) (s : Session) :
    (openEngine cn).onSession s =
      match addressFlag (Config.openPath cn.config.path) with
      | .error m => (.error (.refused (.misuse m)), s)
      | .ok address =>
        let reply := s.script.opening
        let number := s.made + 1
        let call : Call := .connect (Config.openPath cn.config.path) (openKeywords cn.timeout address)
        match reply.opening with
        | some e =>
          (.error (openFailure e),
            { s with
              script := s.script.afterOpening
              transcript := s.transcript ++ [⟨number, call, some e⟩] })
        | none =>
          (setUpOutcome (setUpError? cn.config.readonly.isTruthy reply),
            { s with
              script := s.script.afterOpening
              transcript := s.transcript ++
                ⟨number, call, none⟩ :: setUpCalls number cn.config.readonly.isTruthy reply
              handle := some number
              made := number }) := by
  simp only [openEngine, Run.onSession_bind]
  cases addressFlag (Config.openPath cn.config.path) with
  | error m => rfl
  | ok address =>
    simp only [Run.onSession_liftMisuse_ok, Run.onSession_mapEngineError, Run.onSession_bind,
      Run.onSession_nextOpening, Run.onSession_nextNumber, Run.onSession_exchange,
      Run.onSession_modify]
    cases s.script.opening.opening with
    | some e => rfl
    | none =>
      cases hk : s.script.opening.foreignKeys with
      | some e => simp [setUpError?, setUpCalls, setUpOutcome, openFailure, hk]
      | none =>
        cases hr : cn.config.readonly.isTruthy with
        | false => simp [setUpError?, setUpCalls, setUpOutcome, hk]
        | true =>
          cases hq : s.script.opening.queryOnly with
          | some e =>
            simp [setUpError?, setUpCalls, setUpOutcome, openFailure, hk, hq, Run.onSession_exchange]
          | none => simp [setUpError?, setUpCalls, setUpOutcome, hk, hq, Run.onSession_exchange]

theorem onSession_closeEngine (s : Session) :
    closeEngine.onSession s =
      match s.handle with
      | none => (.ok (), s)
      | some number =>
        match s.script.closing with
        | some e =>
          (.error (Failure.ofEngine e),
            { s with
              script := s.script.afterClosing
              transcript := s.transcript ++ [⟨number, .close, some e⟩] })
        | none =>
          (.ok (),
            { s with
              script := s.script.afterClosing
              transcript := s.transcript ++ [⟨number, .close, none⟩]
              handle := none }) := by
  simp only [closeEngine, Run.onSession_bind, Run.onSession_get]
  cases hs : s.handle with
  | none => rfl
  | some number =>
    simp only [Run.onSession_bind, Run.onSession_nextClosing, Run.onSession_mapEngineError,
      Run.onSession_exchange]
    cases s.script.closing <;> simp [hs]

/-- What a statement raises at the driver, running it or fetching its rows. -/
def statementError? (reply : StatementReply) : Option EngineError :=
  reply.execute.or reply.fetch

theorem mem_raises_of_statementError? {reply : StatementReply} {e : EngineError}
    (h : statementError? reply = some e) : e ∈ reply.raises := by
  rw [statementError?, Option.or_eq_some_iff] at h
  rcases h with h | ⟨-, h⟩ <;> simp [StatementReply.raises, h]

/-- How a statement ends that raises nothing: every column of every row must have a value. -/
def rowsOutcome (reply : StatementReply) : Except Failure StatementResult :=
  match reply.rowsByName with
  | .ok rows => .ok (reply.result rows)
  | .error m => .error (.refused (.misuse m))

def statementOutcome (reply : StatementReply) : Except Failure StatementResult :=
  match statementError? reply with
  | some e => .error (Failure.ofStatement e)
  | none => rowsOutcome reply

def closedFault : Fault :=
  Fault.make .connection "SQLite connection is closed"

theorem onSession_execute (text : Value) (params : List Value) (s : Session) :
    (execute text params).onSession s =
      match s.handle with
      | none => (.error (.fault closedFault), s)
      | some number =>
        (statementOutcome s.script.statement,
          { s with
            script := s.script.afterStatement
            transcript := s.transcript ++
              [⟨number, .execute text (some params), s.script.statement.execute⟩] }) := by
  simp only [execute, Run.onSession_bind, Run.onSession_get]
  cases hh : s.handle with
  | none => rfl
  | some number =>
    simp only [Run.onSession_mapEngineError, Run.onSession_bind, Run.onSession_nextStatement,
      Run.onSession_exchange]
    cases hr : s.script.statement.execute with
    | some e => simp [statementOutcome, statementError?, hr, hh]
    | none =>
      cases hf : s.script.statement.fetch with
      | some e => simp [statementOutcome, statementError?, hr, hf, hh]
      | none =>
        cases hn : s.script.statement.rowsByName with
        | error m =>
          simp [statementOutcome, statementError?, rowsOutcome, hr, hf, hn, hh,
            Run.onSession_liftMisuse_error, Except.map]
        | ok rows =>
          simp [statementOutcome, statementError?, rowsOutcome, hr, hf, hn, hh,
            Run.onSession_liftMisuse_ok, Except.map]

end DataFetch.Sqlite
