import DataFetch.Proofs.Connection.Lifecycle
import DataFetch.Proofs.Engine.Rows

/-! # What is reported of a statement

A statement on an open connection ends in what the driver raised last, at taking a connection out of the
pool or between opening a cursor and closing it, or yields rows. Main statement: its outcome and exactly
one event tell which, with the statement and the number of bound values.
-/
namespace DataFetch

/-- Where the driver raises what ends a statement. -/
inductive Site where
  /-- Taking a connection out of the pool. -/
  | checkout
  /-- Opening a cursor, running the statement, fetching rows and closing the cursor. -/
  | cursor
  deriving DecidableEq, Repr

namespace Site

/-- The kind of fault that a failure of the driver's own family becomes. -/
def faultKind : Site → EngineErrorKind → FaultKind
  | checkout, _ => .connection
  | cursor, .integrity => .integrity
  | cursor, _ => .query

def message : Site → EngineError → String
  | checkout, e => "Failed to check out a MySQL connection: " ++ e.message
  | cursor, e => e.message

def failure : Site → EngineError → Failure
  | checkout, e => Mysql.checkoutFailure e
  | cursor, e => Failure.ofStatement e

variable {site : Site} {e : EngineError}

theorem failure_of_isDriver (h : e.kind.isDriver = true) :
    site.failure e =
      .fault (Fault.make (site.faultKind e.kind) (site.message e) (some e.asCause)) := by
  cases site with
  | checkout => exact Failure.wrapDriver_of_isDriver h
  | cursor =>
    rw [failure, Failure.ofStatement_of_isDriver h, Failure.wrapped, String.empty_append]
    obtain ⟨k, message⟩ := e
    cases k with
    | integrity | driver name => rfl
    | foreign name | library k => cases h

theorem failure_of_foreign {name : String} (h : e.kind = .foreign name) :
    site.failure e = .engine e := by
  cases site with
  | checkout => exact Failure.wrapDriver_eq_engine_iff.mpr ⟨rfl, name, h⟩
  | cursor => exact Failure.ofStatement_eq_engine_iff.mpr ⟨rfl, name, h⟩

end Site

/-- The operations that run one statement of the caller's and nothing else. -/
def Operation.statement? : Operation → Option (Value × Value)
  | scalar text params | single text params | array text params | nonQuery text params =>
    some (text, params)
  | _ => none

namespace Connection

variable {cn : Connection} {s : Session}

/-- What the driver raises that ends the next statement, and where. -/
def raisedBy (cn : Connection) (s : Session) : Option (Site × EngineError) :=
  match cn.backend with
  | .sqlite =>
    (Sqlite.statementError? s.script.statement).map (Site.cursor, ·)
  | .mysql =>
    match s.script.checkout with
    | some e => some (.checkout, e)
    | none => (Mysql.cursorError? s.script.statement).map (Site.cursor, ·)

def rowsOutcome (cn : Connection) (reply : StatementReply) : Except Failure StatementResult :=
  match cn.backend with
  | .sqlite => Sqlite.rowsOutcome reply
  | .mysql => .ok (reply.result (Mysql.rowsOf reply))

theorem length_of_rowsOutcome {reply : StatementReply} {result : StatementResult}
    (h : cn.rowsOutcome reply = .ok result) : result.rows.length = reply.yielded := by
  rw [rowsOutcome] at h
  cases hb : cn.backend with
  | sqlite =>
    rw [hb] at h
    dsimp only [Sqlite.rowsOutcome] at h
    cases hrecords : reply.rowsByName with
    | error m =>
      rw [hrecords] at h
      cases h
    | ok records =>
      rw [hrecords] at h
      cases h
      exact StatementReply.length_of_rowsByName hrecords
  | mysql =>
    rw [hb] at h
    cases h
    simp only [StatementReply.result, Mysql.rowsOf, StatementReply.yielded]
    cases reply.hasColumns with
    | true => exact reply.length_rowsInTurn
    | false => rfl

theorem exists_rowsOutcome {reply : StatementReply} (h : cn.backend = .sqlite → reply.Wide) :
    ∃ result, cn.rowsOutcome reply = .ok result := by
  rw [rowsOutcome]
  cases hb : cn.backend with
  | sqlite =>
    obtain ⟨records, hrecords⟩ := StatementReply.exists_rowsByName (h hb)
    refine ⟨reply.result records, ?_⟩
    dsimp only [Sqlite.rowsOutcome]
    rw [hrecords]
  | mysql => exact ⟨_, rfl⟩

/-! ## The engine's part -/

/-- What ends a statement decides how it ends on the engine, where nothing is logged. -/
theorem Native.executeOn_eq (hn : cn.Native) (text : Value) (params : List Value)
    (hh : s.handle.isSome = true)
    (hr : cn.backend = .mysql → s.script.statement.release = none) :
    ∃ t : Session, t.events = s.events ∧ t.context = s.context ∧
      (cn.executeOn text params).onSession s =
        (match cn.raisedBy s with
          | some (site, e) => .error (site.failure e)
          | none => cn.rowsOutcome s.script.statement, t) := by
  obtain ⟨h, hh⟩ := Option.isSome_iff_exists.mp hh
  rw [executeOn, hn.engine, raisedBy, rowsOutcome]
  cases hb : cn.backend with
  | sqlite =>
    simp only [Backend.engine, Sqlite.onSession_execute, hh]
    refine ⟨_, ?_, ?_, Prod.ext ?_ rfl⟩
    · rfl
    · rfl
    · simp only [Sqlite.statementOutcome]
      cases Sqlite.statementError? s.script.statement <;> rfl
  | mysql =>
    have hrelease : s.script.afterCheckout.statement.release = none := hr hb
    simp only [Backend.engine, Mysql.onSession_execute, hh]
    cases s.script.checkout with
    | some e =>
      refine ⟨_, ?_, ?_, Prod.ext ?_ rfl⟩
      · rfl
      · rfl
      · rfl
    | none =>
      refine ⟨_, ?_, ?_, Prod.ext ?_ rfl⟩
      · rfl
      · rfl
      · simp only [Mysql.releasedOutcome, hrelease, Mysql.statementOutcome]
        have hreply : s.script.afterCheckout.statement = s.script.statement := rfl
        rw [hreply]
        cases Mysql.cursorError? s.script.statement <;> rfl

/-! ## Whole statements -/

section

variable {text : String} {bound : List Value} {site : Site} {e : EngineError}

theorem Native.statement_of_driver (hn : cn.Native) (hh : s.handle.isSome = true)
    (hr : cn.backend = .mysql → s.script.statement.release = none)
    (hraised : cn.raisedBy s = some (site, e)) (hdriver : e.kind.isDriver = true) :
    let r := (cn.statement (.text text) bound).onSession s
    ∃ f, r.1 = .error (.fault f) ∧ f.kind = site.faultKind e.kind ∧
      f.message = .text (site.message e) ∧ f.cause = some e.asCause ∧
      f.context.view = .ok [("backend", .text cn.backend.name), ("statement", .text text),
        ("param_count", .int bound.length)] ∧
      r.2.events = s.events ++ [⟨.warning, "statement_failed",
        [("backend", .text cn.backend.name), ("statement", .text text), ("error", f.message),
          ("error_type", .text f.kind.name), ("retryable", f.retryable)], s.context⟩] := by
  obtain ⟨t, hevents, hcontext, heq⟩ := hn.executeOn_eq (.text text) bound hh hr
  rw [hraised] at heq
  simp only [Site.failure_of_isDriver hdriver] at heq
  rw [onSession_statement, heq, ← hevents, ← hcontext]
  exact ⟨_, rfl, rfl, rfl, rfl, rfl, rfl⟩

theorem Native.statement_of_foreign (hn : cn.Native) (hh : s.handle.isSome = true)
    (hr : cn.backend = .mysql → s.script.statement.release = none)
    (hraised : cn.raisedBy s = some (site, e)) {name : String} (hforeign : e.kind = .foreign name) :
    let r := (cn.statement (.text text) bound).onSession s
    r.1 = .error (.engine e) ∧ r.2.events = s.events := by
  obtain ⟨t, hevents, -, heq⟩ := hn.executeOn_eq (.text text) bound hh hr
  rw [hraised] at heq
  simp only [Site.failure_of_foreign hforeign] at heq
  rw [onSession_statement, heq]
  exact ⟨rfl, hevents⟩

theorem Native.statement_fails (hn : cn.Native) (hh : s.handle.isSome = true)
    (hr : cn.backend = .mysql → s.script.statement.release = none)
    (hraised : cn.raisedBy s = some (site, e)) (result : StatementResult) :
    ((cn.statement (.text text) bound).onSession s).1 ≠ .ok result := by
  obtain ⟨t, -, -, heq⟩ := hn.executeOn_eq (.text text) bound hh hr
  rw [hraised] at heq
  rw [onSession_statement, heq]
  dsimp only
  intro h
  cases hf : site.failure e with
  | fault f | engine d | refused r =>
    rw [hf] at h
    cases h

theorem Native.statement_of_rows (hn : cn.Native) (hh : s.handle.isSome = true)
    (hr : cn.backend = .mysql → s.script.statement.release = none)
    (hraised : cn.raisedBy s = none) (result : StatementResult) :
    let r := (cn.statement (.text text) bound).onSession s
    (r.1 = .ok result ↔ cn.rowsOutcome s.script.statement = .ok result) ∧
      (r.1 = .ok result → r.2.events = s.events ++ [⟨.debug, "statement_executed",
        [("backend", .text cn.backend.name), ("statement", .text text),
          ("param_count", .int bound.length), ("rows", .int result.rows.length)], s.context⟩]) := by
  obtain ⟨t, hevents, hcontext, heq⟩ := hn.executeOn_eq (.text text) bound hh hr
  rw [hraised] at heq
  rw [onSession_statement, heq, ← hevents, ← hcontext]
  dsimp only
  cases cn.rowsOutcome s.script.statement with
  | ok rows =>
    refine ⟨Iff.rfl, fun h => ?_⟩
    cases h
    rfl
  | error f =>
    cases f with
    | fault f | engine d | refused r => simp

end

theorem onSession_run_of_connected (hc : s.connected = true) {text params : Value}
    {bound : List Value} (hp : params.elements = .ok bound) :
    (cn.run text params).onSession s = (cn.statement text bound).onSession s := by
  rw [onSession_run, ready, if_pos hc]
  dsimp only
  rw [onSession_statementWith, hp]

/-- The ways to run a statement fail as it fails and leave the session that it leaves. -/
theorem onSession_perform_of_statement? (cn : Connection) (s : Session) {op : Operation}
    {text params : Value} (h : op.statement? = some (text, params)) :
    ∃ answer : StatementResult → Except Failure Answer, (cn.perform op).onSession s =
      match (cn.run text params).onSession s with
      | (.ok result, t) => (answer result, t)
      | (.error f, t) => (.error f, t) := by
  cases op with
  | scalar _ _ =>
    cases h
    refine ⟨fun result => .ok (.value (firstValue result.rows.head?)), ?_⟩
    simp only [perform, executeScalar, executeSingle, Run.onSession_bind]
    cases (cn.run text params).onSession s with
    | mk outcome t => cases outcome <;> rfl
  | single _ _ =>
    cases h
    refine ⟨fun result => .ok (.row result.rows.head?), ?_⟩
    simp only [perform, executeSingle, Run.onSession_bind]
    cases (cn.run text params).onSession s with
    | mk outcome t => cases outcome <;> rfl
  | array _ _ =>
    cases h
    refine ⟨fun result => .ok (.rows result.rows), ?_⟩
    simp only [perform, executeArray, Run.onSession_bind]
    cases (cn.run text params).onSession s with
    | mk outcome t => cases outcome <;> rfl
  | nonQuery _ _ =>
    cases h
    refine ⟨fun result =>
      (result.rowcount.atLeastZero.map .value).mapError fun m => .refused (.misuse m), ?_⟩
    simp only [perform, executeNonQuery, Run.onSession_bind]
    cases (cn.run text params).onSession s with
    | mk outcome t =>
      cases outcome with
      | error f => rfl
      | ok result =>
        dsimp only
        cases result.rowcount.atLeastZero <;> rfl
  | _ => cases h

theorem session_and_failure_of_statement? {op : Operation} {text params : Value}
    (h : op.statement? = some (text, params)) :
    ((cn.perform op).onSession s).2 = ((cn.run text params).onSession s).2 ∧
      ∀ f, ((cn.run text params).onSession s).1 = .error f →
        ((cn.perform op).onSession s).1 = .error f := by
  obtain ⟨answer, hanswer⟩ := onSession_perform_of_statement? cn s h
  rw [hanswer]
  cases (cn.run text params).onSession s with
  | mk outcome t =>
    cases outcome with
    | ok result => simp
    | error f =>
      refine ⟨rfl, fun g hg => ?_⟩
      cases hg
      rfl

/-- Whatever the driver does, a statement on an open connection ends and is logged as it should. -/
theorem statement_reported_once (hm : cn.Made) (script : Script) (context : LogContext)
    (ops : List Operation) (hops : ∀ op ∈ ops, op.isPublic = true) (text : String)
    {params : Value} {bound : List Value} (hp : params.elements = .ok bound) :
    let s := cn.sessionAfter { script, context } ops
    s.connected = true → (cn.backend = .mysql → s.script.statement.release = none) →
    let r := (cn.run (.text text) params).onSession s
    (∀ site e, cn.raisedBy s = some (site, e) → e.kind.isDriver = true →
      ∃ f, r.1 = .error (.fault f) ∧ f.kind = site.faultKind e.kind ∧
        f.message = .text (site.message e) ∧ f.cause = some e.asCause ∧
        f.context.view = .ok [("backend", .text cn.backend.name), ("statement", .text text),
          ("param_count", .int bound.length)] ∧
        r.2.events = s.events ++ [⟨.warning, "statement_failed",
          [("backend", .text cn.backend.name), ("statement", .text text), ("error", f.message),
            ("error_type", .text f.kind.name), ("retryable", f.retryable)], s.context⟩]) ∧
    (∀ site e name, cn.raisedBy s = some (site, e) → e.kind = .foreign name →
      r.1 = .error (.engine e) ∧ r.2.events = s.events) ∧
    (∀ result, r.1 = .ok result →
      cn.raisedBy s = none ∧ result.rows.length = s.script.statement.yielded ∧
        r.2.events = s.events ++ [⟨.debug, "statement_executed",
          [("backend", .text cn.backend.name), ("statement", .text text),
            ("param_count", .int bound.length), ("rows", .int result.rows.length)], s.context⟩]) ∧
    (cn.raisedBy s = none → (cn.backend = .sqlite → s.script.statement.Wide) →
      ∃ result, r.1 = .ok result) ∧
    ∀ op, op.statement? = some (.text text, params) →
      ((cn.perform op).onSession s).2 = r.2 ∧
        ∀ f, r.1 = .error f → ((cn.perform op).onSession s).1 = .error f := by
  intro s hc hr r
  have hn := hm.native
  have hh : s.handle.isSome = true := (hn.coherent_sessionAfter script context hops).1.held hc
  have hrun : r = (cn.statement (.text text) bound).onSession s := onSession_run_of_connected hc hp
  refine ⟨?_, ?_, ?_, ?_, ?_⟩
  · intro site e hraised hdriver
    rw [hrun]
    exact hn.statement_of_driver hh hr hraised hdriver
  · intro site e name hraised hforeign
    rw [hrun]
    exact hn.statement_of_foreign hh hr hraised hforeign
  · intro result hok
    rw [hrun] at hok ⊢
    cases hraised : cn.raisedBy s with
    | some raised => exact absurd hok (hn.statement_fails hh hr hraised result)
    | none =>
      obtain ⟨hrows, hlogged⟩ := hn.statement_of_rows hh hr hraised result
      exact ⟨rfl, length_of_rowsOutcome (hrows.mp hok), hlogged hok⟩
  · intro hraised hwide
    obtain ⟨result, hresult⟩ := exists_rowsOutcome hwide
    rw [hrun]
    exact ⟨result, (hn.statement_of_rows hh hr hraised result).1.mpr hresult⟩
  · intro op hop
    exact session_and_failure_of_statement? hop

/-- Where a statement fails and closing its cursor fails too, the latter is what is reported. -/
theorem statement_reported_once_for_cursor_close :
    let cn := ofMysqlArguments .mysql []
    let duplicate : EngineError := ⟨.integrity, "duplicate entry"⟩
    let script : Script :=
      { statements :=
          [{ execute := some ⟨.driver "DataError", "out of range"⟩, cursorClose := some duplicate }] }
    let s := cn.sessionAfter { script } [.connect]
    let r := (cn.run (.text "INSERT INTO t VALUES (?)") (.list [.int 1])).onSession s
    ∃ f, r.1 = .error (.fault f) ∧ f.kind = .integrity ∧ f.cause = some duplicate.asCause ∧
      f.context.view = .ok [("backend", .text "mysql"),
        ("statement", .text "INSERT INTO t VALUES (?)"), ("param_count", .int 1)] ∧
      r.2.events.length = 2 := by
  intro cn duplicate script s r
  have hm : cn.Made := ⟨.mysql, .inl ⟨[], rfl⟩⟩
  have hparams : (Value.list [.int 1]).elements = .ok [.int 1] := rfl
  have hreport := statement_reported_once hm script [] [.connect] (by decide)
    "INSERT INTO t VALUES (?)" hparams rfl (fun _ => rfl)
  obtain ⟨f, hf, hkind, -, hcause, hview, hevents⟩ := hreport.1 .cursor duplicate rfl rfl
  refine ⟨f, hf, hkind, hcause, hview, ?_⟩
  rw [hevents]
  rfl

end Connection

end DataFetch
