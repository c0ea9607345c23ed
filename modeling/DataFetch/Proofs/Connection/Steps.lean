import DataFetch.Connection.Operation
import DataFetch.Proofs.Engine.Session
import DataFetch.Proofs.Outcome

/-! # Opening, closing and running statements

Whatever is asked of a connection comes down to opening it, closing it and running statements on an open
one. What each of the three does to a session is said here by one equation, for connections that were
made for one of the two engines.
-/
namespace DataFetch

open Outcome

def Session.logged (s : Session) (level : LogLevel) (name : String) (fields : Record) : Session :=
  { s with events := s.events ++ [⟨level, name, fields, s.context⟩] }

/-- The engine that speaks for a backend. -/
def Backend.engine : Backend → EngineKind
  | sqlite => .sqlite
  | mysql => .mysql

namespace Connection

variable {cn : Connection}

/-! ## Connections that were made -/

/-- A connection to SQLite or MySQL, made from arguments or from a configuration. -/
def Made (cn : Connection) : Prop :=
  ∃ kind, (∃ arguments, ofArguments kind arguments = .ok cn) ∨
    kind.engine ≠ .custom ∧ ∃ c, ofConfig kind c = .ok cn

/-- The engine, the backend and the configuration of a connection speak of the same. -/
structure Native (cn : Connection) : Prop where
  engine : cn.kind.engine = cn.backend.engine
  config : cn.config.backend = .backend cn.backend

theorem native_of_ofArguments {kind : ConnectionKind} {arguments : Record}
    (h : ofArguments kind arguments = .ok cn) : cn.Native := by
  rw [ofArguments] at h
  split at h
  · rename_i he
    obtain ⟨_, _, h⟩ := bind_eq_ok_iff.mp h
    cases h
    exact ⟨he, rfl⟩
  · rename_i he
    obtain ⟨_, _, h⟩ := bind_eq_ok_iff.mp h
    cases h
    exact ⟨he, rfl⟩
  · cases h

theorem exists_arguments_of_ofConfig {kind : ConnectionKind} {c : Config}
    (hk : kind.engine ≠ .custom) (h : ofConfig kind c = .ok cn) :
    ∃ arguments, ofArguments kind arguments = .ok cn := by
  rw [ofConfig] at h
  split at h
  · rw [ofSqliteConfig] at h
    obtain ⟨arguments, _, h⟩ := bind_eq_ok_iff.mp h
    split at h
    · obtain ⟨all, _, h⟩ := bind_eq_ok_iff.mp h
      exact ⟨all, h⟩
    · cases h
  · rw [ofMysqlConfig] at h
    obtain ⟨entries, _, h⟩ := bind_eq_ok_iff.mp h
    obtain ⟨all, _, h⟩ := bind_eq_ok_iff.mp h
    split at h
    · exact ⟨all, h⟩
    · cases h
  · contradiction

theorem Made.native (h : cn.Made) : cn.Native := by
  obtain ⟨kind, ⟨arguments, ha⟩ | ⟨hk, c, hc⟩⟩ := h
  · exact native_of_ofArguments ha
  · obtain ⟨arguments, ha⟩ := exists_arguments_of_ofConfig hk hc
    exact native_of_ofArguments ha

theorem Native.exists_target (h : cn.Native) : ∃ v, cn.config.target = .ok v := by
  rw [Config.target, h.config]
  cases cn.backend <;> exact ⟨_, rfl⟩

/-! ## Opening, closing, running a statement -/

def openedFields (cn : Connection) : Record :=
  [("backend", .text cn.backend.name), ("target", cn.config.target.toOption.getD .null)]

def openedIn (cn : Connection) (t : Session) : Session :=
  { t.logged .debug "connection_opened" cn.openedFields with connected := true }

def closedIn (cn : Connection) (t : Session) : Session :=
  { t.logged .debug "connection_closed" [("backend", .text cn.backend.name)] with connected := false }

theorem onSession_connect (h : cn.Native) (s : Session) :
    cn.connect.onSession s =
      if s.connected then (.ok (), s)
      else
        match cn.openEngine.onSession s with
        | (.ok (), t) => (.ok (), cn.openedIn t)
        | (.error f, t) => (.error f, t) := by
  obtain ⟨v, hv⟩ := h.exists_target
  simp only [connect, Run.onSession_bind, Run.onSession_get]
  cases hc : s.connected with
  | true => rfl
  | false =>
    simp only [Bool.false_eq_true, if_false, Run.onSession_bind]
    cases cn.openEngine.onSession s with
    | mk outcome t =>
      cases outcome with
      | error f => rfl
      | ok u => simp [target, openedIn, Session.logged, openedFields, hv, Except.toOption]

/-- An open connection is not opened again; the engine decides how opening ends. -/
theorem Native.connect_cases (h : cn.Native) (s : Session) :
    (s.connected = true ∧ cn.connect.onSession s = (.ok (), s)) ∨
      s.connected = false ∧ ∃ t,
        (∃ f, cn.openEngine.onSession s = (.error f, t) ∧ cn.connect.onSession s = (.error f, t)) ∨
          cn.openEngine.onSession s = (.ok (), t) ∧
            cn.connect.onSession s = (.ok (), cn.openedIn t) := by
  rw [onSession_connect h]
  cases s.connected with
  | true => exact .inl ⟨rfl, rfl⟩
  | false =>
    cases cn.openEngine.onSession s with
    | mk outcome t =>
      refine .inr ⟨rfl, t, ?_⟩
      cases outcome with
      | error f => exact .inl ⟨f, rfl, rfl⟩
      | ok u => exact .inr ⟨rfl, rfl⟩

theorem connected_of_connect (h : cn.Native) (s : Session)
    (hok : (cn.connect.onSession s).1 = .ok ()) : (cn.connect.onSession s).2.connected = true := by
  rcases h.connect_cases s with ⟨hc, hs⟩ | ⟨-, t, ⟨f, -, hs⟩ | ⟨-, hs⟩⟩
  · rw [hs]
    exact hc
  · rw [hs] at hok
    cases hok
  · rw [hs]
    rfl

theorem onSession_close (s : Session) :
    cn.close.onSession s =
      if s.connected then
        match cn.closeEngine.onSession s with
        | (.ok (), t) => (.ok (), cn.closedIn t)
        | (.error f, t) => (.error f, t)
      else (.ok (), s) := by
  simp only [close, Run.onSession_bind, Run.onSession_get]
  cases hc : s.connected with
  | false => rfl
  | true =>
    simp only [Bool.not_true, Bool.false_eq_true, if_false, if_true, Run.onSession_bind]
    cases cn.closeEngine.onSession s with
    | mk outcome t => cases outcome <;> rfl

/-- Only an open connection is closed; the engine decides how closing ends. -/
theorem close_cases (cn : Connection) (s : Session) :
    (s.connected = false ∧ cn.close.onSession s = (.ok (), s)) ∨
      s.connected = true ∧ ∃ t,
        (∃ f, cn.closeEngine.onSession s = (.error f, t) ∧ cn.close.onSession s = (.error f, t)) ∨
          cn.closeEngine.onSession s = (.ok (), t) ∧
            cn.close.onSession s = (.ok (), cn.closedIn t) := by
  rw [onSession_close]
  cases s.connected with
  | false => exact .inl ⟨rfl, rfl⟩
  | true =>
    cases cn.closeEngine.onSession s with
    | mk outcome t =>
      refine .inr ⟨rfl, t, ?_⟩
      cases outcome with
      | error f => exact .inl ⟨f, rfl, rfl⟩
      | ok u => exact .inr ⟨rfl, rfl⟩

theorem onSession_statement (text : Value) (params : List Value) (s : Session) :
    (cn.statement text params).onSession s =
      match (cn.executeOn text params).onSession s with
      | (.ok result, t) =>
        (.ok result, t.logged .debug "statement_executed"
          (cn.executedFields text params.length result.rows.length))
      | (.error (.fault f), t) =>
        (.error (.fault (cn.annotate text params.length f)),
          t.logged .warning "statement_failed" (cn.failedFields text f))
      | (.error (.engine e), t) => (.error (.engine e), t)
      | (.error (.refused r), t) => (.error (.refused r), t) := by
  simp only [statement, Run.onSession_bind, Run.onSession_onFault]
  cases (cn.executeOn text params).onSession s with
  | mk outcome t =>
    cases outcome with
    | ok result => rfl
    | error f => cases f <;> rfl

/-- A statement is logged unless it ends in a failure that is no fault, and a fault is annotated. -/
theorem statement_cases (cn : Connection) (text : Value) (params : List Value) (s : Session) :
    ∃ t,
      (∃ result, (cn.executeOn text params).onSession s = (.ok result, t) ∧
        (cn.statement text params).onSession s =
          (.ok result, t.logged .debug "statement_executed"
            (cn.executedFields text params.length result.rows.length))) ∨
      (∃ f, (cn.executeOn text params).onSession s = (.error (.fault f), t) ∧
        (cn.statement text params).onSession s =
          (.error (.fault (cn.annotate text params.length f)),
            t.logged .warning "statement_failed" (cn.failedFields text f))) ∨
      ∃ f, (∀ g, f ≠ .fault g) ∧ (cn.executeOn text params).onSession s = (.error f, t) ∧
        (cn.statement text params).onSession s = (.error f, t) := by
  rw [onSession_statement]
  cases (cn.executeOn text params).onSession s with
  | mk outcome t =>
    refine ⟨t, ?_⟩
    cases outcome with
    | ok result => exact .inl ⟨result, rfl, rfl⟩
    | error f =>
      cases f with
      | fault f => exact .inr (.inl ⟨f, rfl, rfl⟩)
      | engine e => exact .inr (.inr ⟨.engine e, by simp, rfl, rfl⟩)
      | refused r => exact .inr (.inr ⟨.refused r, by simp, rfl, rfl⟩)

/-- A session in which the connection is open, opened now if need be. -/
def ready (cn : Connection) (s : Session) : Except Failure Unit × Session :=
  if s.connected then (.ok (), s) else cn.connect.onSession s

def statementWith (cn : Connection) (text params : Value) : Run StatementResult := do
  cn.statement text (← Run.liftMisuse params.elements)

theorem onSession_statementWith (text params : Value) (s : Session) :
    (cn.statementWith text params).onSession s =
      match params.elements with
      | .ok bound => (cn.statement text bound).onSession s
      | .error m => (.error (.refused (.misuse m)), s) := by
  rw [statementWith, Run.onSession_bind]
  cases params.elements <;> rfl

theorem run_eq (text params : Value) :
    cn.run text params =
      (do
        if !(← get).connected then do
          cn.connect
          cn.statementWith text params
        else cn.statementWith text params) := rfl

theorem onSession_run (text params : Value) (s : Session) :
    (cn.run text params).onSession s =
      match cn.ready s with
      | (.ok (), t) => (cn.statementWith text params).onSession t
      | (.error f, t) => (.error f, t) := by
  rw [run_eq, ready, Run.onSession_bind, Run.onSession_get]
  cases hc : s.connected with
  | true => simp [hc]
  | false =>
    simp only [hc, Bool.not_false, if_true, Bool.false_eq_true, if_false]
    rw [Run.onSession_bind]
    cases cn.connect.onSession s with
    | mk outcome t => cases outcome <;> rfl

end Connection

end DataFetch
