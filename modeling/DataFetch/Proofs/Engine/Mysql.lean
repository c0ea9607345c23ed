import DataFetch.Engine.Mysql
import DataFetch.Proofs.Engine.Failure
import DataFetch.Proofs.Engine.Session

/-! # Opening, closing and running statements on MySQL

What each does to a session as one equation. A statement that gets a connection out of the pool makes
the calls of its cursor and then gives the connection back; what leaves the cursor is decided by the
last of the calls that raised.
-/
namespace DataFetch.Mysql

def openFailure (e : EngineError) : Failure :=
  Failure.wrapDriver .connection "Failed to connect to MySQL: " e

theorem onSession_openEngine (cn : Connection) (s : Session) :
    (openEngine cn).onSession s =
      if s.script.installed then
        match poolKeywords cn.config with
        | .error m => (.error (.refused (.misuse m)), s)
        | .ok keywords =>
          match s.script.opening.opening with
          | some e =>
            (.error (openFailure e),
              { s with
                script := s.script.afterOpening
                transcript := s.transcript ++ [⟨s.made + 1, .pool keywords, some e⟩] })
          | none =>
            (.ok (),
              { s with
                script := s.script.afterOpening
                transcript := s.transcript ++ [⟨s.made + 1, .pool keywords, none⟩]
                handle := some (s.made + 1)
                made := s.made + 1 })
      else (.error (.fault notInstalled), s) := by
  simp only [openEngine, Run.onSession_bind, Run.onSession_get]
  cases s.script.installed with
  | false => rfl
  | true =>
    simp only [if_true, Run.onSession_bind]
    cases poolKeywords cn.config with
    | error m => rfl
    | ok keywords =>
      simp only [Run.onSession_liftMisuse_ok, Run.onSession_nextOpening, Run.onSession_nextNumber,
        Run.onSession_mapEngineError, Run.onSession_exchange]
      cases s.script.opening.opening <;> rfl

theorem onSession_closeEngine (s : Session) :
    closeEngine.onSession s = (.ok (), { s with handle := none }) := rfl

def checkoutFailure (e : EngineError) : Failure :=
  Failure.wrapDriver .connection "Failed to check out a MySQL connection: " e

def closedFault : Fault :=
  Fault.make .connection "MySQL connection pool is closed"

theorem onSession_checkout (s : Session) :
    checkout.onSession s =
      match s.handle with
      | none => (.error (.fault closedFault), s)
      | some _ =>
        match s.script.checkout with
        | some e =>
          (.error (checkoutFailure e),
            { s with
              script := s.script.afterCheckout
              transcript := s.transcript ++ [⟨s.made + 1, .checkout, some e⟩] })
        | none =>
          (.ok (s.made + 1),
            { s with
              script := s.script.afterCheckout
              transcript := s.transcript ++ [⟨s.made + 1, .checkout, none⟩]
              made := s.made + 1 }) := by
  simp only [checkout, Run.onSession_bind, Run.onSession_get]
  cases hh : s.handle with
  | none => rfl
  | some h =>
    simp only [Run.onSession_bind, Run.onSession_nextCheckout, Run.onSession_nextNumber,
      Run.onSession_mapEngineError, Run.onSession_exchange]
    cases s.script.checkout <;> simp [hh, checkoutFailure]

/-! ## The cursor -/

/-- What running a statement on an open cursor raises. -/
def runError? (reply : StatementReply) : Option EngineError :=
  reply.execute.or (if reply.hasColumns then reply.fetch else none)

/-- What leaves the cursor: closing it decides over running the statement. -/
def cursorError? (reply : StatementReply) : Option EngineError :=
  reply.cursor.or (reply.cursorClose.or (runError? reply))

theorem mem_raises_of_cursorError? {reply : StatementReply} {e : EngineError}
    (h : cursorError? reply = some e) : e ∈ reply.raises := by
  simp only [cursorError?, runError?, Option.or_eq_some_iff] at h
  rcases h with h | ⟨-, h | ⟨-, h | ⟨-, h⟩⟩⟩
  · simp [StatementReply.raises, h]
  · simp [StatementReply.raises, h]
  · simp [StatementReply.raises, h]
  · split at h
    · simp [StatementReply.raises, h]
    · cases h

def rowsOf (reply : StatementReply) : List Record :=
  if reply.hasColumns then reply.rowsInTurn else []

def runCalls (object : Nat) (reply : StatementReply) (text : Value) (params : List Value) :
    List Exchange :=
  ⟨object, .execute text (boundParams params), reply.execute⟩ ::
    if reply.execute.isNone && reply.hasColumns then [⟨object, .fetchAll, reply.fetch⟩] else []

def cursorCalls (object : Nat) (reply : StatementReply) (text : Value) (params : List Value) :
    List Exchange :=
  ⟨object, .cursor (cursorKeywords params), reply.cursor⟩ ::
    if reply.cursor.isNone then
      runCalls object reply text params ++ [⟨object, .cursorClose, reply.cursorClose⟩]
    else []

/-- What a call ends in that has a result unless it raises something. -/
def outcomeOf {α : Type} (raised : Option EngineError) (a : α) : Except Failure α :=
  match raised with
  | some e => .error (.engine e)
  | none => .ok a

theorem onSession_runCursor (object : Nat) (reply : StatementReply) (text : Value)
    (params : List Value) (s : Session) :
    (runCursor object reply text params).onSession s =
      (outcomeOf (runError? reply) (reply.result (rowsOf reply)),
        { s with transcript := s.transcript ++ runCalls object reply text params }) := by
  simp only [runCursor, Run.onSession_bind, Run.onSession_exchange]
  cases he : reply.execute with
  | some e => simp [runError?, runCalls, outcomeOf, he]
  | none =>
    cases hc : reply.hasColumns with
    | false => simp [runError?, runCalls, outcomeOf, rowsOf, he, hc]
    | true =>
      cases hf : reply.fetch <;>
        simp [runError?, runCalls, outcomeOf, rowsOf, he, hc, hf, Run.onSession_exchange, Except.map]

theorem onSession_withCursor (object : Nat) (reply : StatementReply) (text : Value)
    (params : List Value) (s : Session) :
    (withCursor object reply text params).onSession s =
      (outcomeOf (cursorError? reply) (reply.result (rowsOf reply)),
        { s with transcript := s.transcript ++ cursorCalls object reply text params }) := by
  simp only [withCursor, Run.onSession_bind, Run.onSession_exchange]
  cases hc : reply.cursor with
  | some e => simp [cursorError?, cursorCalls, outcomeOf, hc]
  | none =>
    simp only [Run.onSession_andFinally, onSession_runCursor, Run.onSession_exchange]
    cases hl : reply.cursorClose <;> simp [cursorError?, cursorCalls, outcomeOf, hc, hl]

/-! ## Whole statements -/

/-- How the part of a statement ends that is followed by giving the connection back. -/
def statementOutcome (reply : StatementReply) : Except Failure StatementResult :=
  match cursorError? reply with
  | some e => .error (Failure.ofStatement e)
  | none => .ok (reply.result (rowsOf reply))

/-- How a statement ends that got a connection. -/
def releasedOutcome (reply : StatementReply) : Except Failure StatementResult :=
  match reply.release with
  | some e => .error (Failure.ofEngine e)
  | none => statementOutcome reply

theorem onSession_recast_withCursor (object : Nat) (reply : StatementReply) (text : Value)
    (params : List Value) (s : Session) :
    (Run.mapEngineError Failure.ofStatement (withCursor object reply text params)).onSession s =
      (statementOutcome reply,
        { s with transcript := s.transcript ++ cursorCalls object reply text params }) := by
  rw [Run.onSession_mapEngineError, onSession_withCursor, statementOutcome]
  cases cursorError? reply <;> rfl

/-- What the cursor's failures are recast to is not recast again. -/
theorem ofEngine_of_statementOutcome {reply : StatementReply} {e : EngineError}
    (h : statementOutcome reply = .error (.engine e)) : Failure.ofEngine e = .engine e := by
  rw [statementOutcome] at h
  split at h
  · rename_i d hd
    obtain ⟨rfl, name, hn⟩ := Failure.ofStatement_eq_engine_iff.mp (Except.error.inj h)
    rw [Failure.ofEngine_eq_engine_iff]
    exact ⟨rfl, fun k hk => by rw [hn] at hk; cases hk⟩
  · cases h

theorem onSession_execute (text : Value) (params : List Value) (s : Session) :
    (execute text params).onSession s =
      match s.handle with
      | none => (.error (.fault closedFault), s)
      | some _ =>
        match s.script.checkout with
        | some e =>
          (.error (checkoutFailure e),
            { s with
              script := s.script.afterCheckout
              transcript := s.transcript ++ [⟨s.made + 1, .checkout, some e⟩] })
        | none =>
          let reply := s.script.afterCheckout.statement
          (releasedOutcome reply,
            { s with
              script := s.script.afterCheckout.afterStatement
              transcript := s.transcript ++ (⟨s.made + 1, .checkout, none⟩ ::
                cursorCalls (s.made + 1) reply text params ++
                  [⟨s.made + 1, .release, reply.release⟩])
              made := s.made + 1 }) := by
  simp only [execute, Run.onSession_bind, onSession_checkout]
  cases s.handle with
  | none => rfl
  | some h =>
    cases s.script.checkout with
    | some e => rfl
    | none =>
      simp only [Run.onSession_nextStatement, Run.onSession_mapEngineError]
      rw [Run.onSession_andFinally, onSession_recast_withCursor]
      simp only [Run.onSession_exchange]
      cases hr : s.script.afterCheckout.statement.release with
      | some e => simp [releasedOutcome, hr]
      | none =>
        cases hs : statementOutcome s.script.afterCheckout.statement with
        | ok result => simp [releasedOutcome, hr, hs]
        | error f =>
          cases f with
          | engine e => simp [releasedOutcome, hr, hs, ofEngine_of_statementOutcome hs]
          | fault f | refused r => simp [releasedOutcome, hr, hs]

end DataFetch.Mysql
