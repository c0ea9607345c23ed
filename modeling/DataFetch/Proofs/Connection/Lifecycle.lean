import DataFetch.Proofs.Connection.Rule
import DataFetch.Proofs.Engine.Mysql
import DataFetch.Proofs.Engine.Sqlite
import Mathlib.Data.List.Chain

/-! # The life of a connection

Being connected, the driver object that is held, the calls that open one and the events that tell of
openings and closings move at different moments of an operation. Main statement: between the operations
of any run they agree, whatever the driver raises.
-/
namespace DataFetch

/-! ## What is seen of openings and closings -/

def Call.opens : Call → Bool
  | connect _ _ | pool _ | openEngine => true
  | _ => false

/-- The opening or closing that an event tells of. -/
def LogEvent.lifecycle? (e : LogEvent) : Option Lifecycle :=
  if e.name = "connection_opened" then some .connect
  else if e.name = "connection_closed" then some .close
  else none

def turns (events : List LogEvent) : List Lifecycle :=
  events.filterMap LogEvent.lifecycle?

theorem turns_append_of_eq_some {e : LogEvent} {l : Lifecycle} (h : e.lifecycle? = some l)
    (events : List LogEvent) : turns (events ++ [e]) = turns events ++ [l] := by
  simp [turns, List.filterMap_append, h]

theorem turns_append_of_eq_none {e : LogEvent} (h : e.lifecycle? = none)
    (events : List LogEvent) : turns (events ++ [e]) = turns events := by
  simp [turns, List.filterMap_append, h]

/-- Each turn is the other of the two than the one before it, and the first is an opening. -/
def Alternate (ts : List Lifecycle) : Prop :=
  ts.IsChain (· ≠ ·) ∧ ∀ l ∈ ts.head?, l = .connect

theorem Alternate.connect {ts : List Lifecycle} (h : Alternate ts)
    (hl : ts.getLast? ≠ some .connect) : Alternate (ts ++ [.connect]) := by
  constructor
  · rw [List.isChain_append]
    refine ⟨h.1, List.isChain_singleton _, ?_⟩
    intro x hx y hy hxy
    cases hy
    exact hl (hxy ▸ hx)
  · cases ts with
    | nil => simp
    | cons t rest => exact h.2

theorem Alternate.close {ts : List Lifecycle} (h : Alternate ts)
    (hl : ts.getLast? = some .connect) : Alternate (ts ++ [.close]) := by
  constructor
  · rw [List.isChain_append]
    refine ⟨h.1, List.isChain_singleton _, ?_⟩
    intro x hx y hy hxy
    rw [hl] at hx
    cases hx
    cases hy
    cases hxy
  · cases ts with
    | nil => cases hl
    | cons t rest => exact h.2

/-- Being connected, the driver object that is held and the events of a session agree. -/
structure Session.Coherent (s : Session) : Prop where
  held : s.connected = true → s.handle.isSome = true
  alternate : Alternate (turns s.events)
  connected_iff : s.connected = true ↔ (turns s.events).getLast? = some .connect

namespace Session.Coherent

variable {s t : Session}

theorem fresh (script : Script) (context : LogContext) :
    ({ script, context } : Session).Coherent :=
  ⟨by simp, ⟨List.isChain_nil, by simp [turns]⟩, by simp [turns]⟩

/-- Nothing but the three parts matters, and a driver object may come in. -/
theorem of_eq (h : s.Coherent) (hc : t.connected = s.connected) (he : turns t.events = turns s.events)
    (hh : s.handle.isSome = true → t.handle.isSome = true) : t.Coherent := by
  constructor
  · intro ht
    exact hh (h.held (hc ▸ ht))
  · exact he ▸ h.alternate
  · rw [hc, he]
    exact h.connected_iff

theorem opened (h : s.Coherent) (hs : s.connected = false) {e : LogEvent}
    (he : e.lifecycle? = some .connect) (hc : t.connected = true)
    (hev : t.events = s.events ++ [e]) (hh : t.handle.isSome = true) : t.Coherent := by
  have hl : (turns s.events).getLast? ≠ some .connect := by
    rw [Ne, ← h.connected_iff, hs]
    exact Bool.false_ne_true
  have ht : turns t.events = turns s.events ++ [.connect] := by
    rw [hev, turns_append_of_eq_some he]
  constructor
  · exact fun _ => hh
  · rw [ht]
    exact h.alternate.connect hl
  · simp [hc, ht]

theorem closed (h : s.Coherent) (hs : s.connected = true) {e : LogEvent}
    (he : e.lifecycle? = some .close) (hc : t.connected = false)
    (hev : t.events = s.events ++ [e]) : t.Coherent := by
  have ht : turns t.events = turns s.events ++ [.close] := by
    rw [hev, turns_append_of_eq_some he]
  constructor
  · intro hct
    rw [hc] at hct
    cases hct
  · rw [ht]
    exact h.alternate.close (h.connected_iff.mp hs)
  · simp [hc, ht]

end Session.Coherent

/-! ## Failures that tell of a connection that is not held -/

def closedTexts : List String :=
  ["SQLite connection is closed", "MySQL connection pool is closed"]

def Fault.TellsClosed (f : Fault) : Prop :=
  f.kind = .connection ∧ ∃ m ∈ closedTexts, f.message = .text m

def EngineError.TellsClosed (e : EngineError) : Prop :=
  e.kind = .library .connection ∧ e.message ∈ closedTexts

theorem EngineError.TellsClosed.of_ofEngine {e : EngineError} {f : Fault}
    (he : Failure.ofEngine e = .fault f) (hf : f.TellsClosed) : e.TellsClosed := by
  obtain ⟨hk, ha⟩ := Failure.ofEngine_eq_fault he
  obtain ⟨hkind, m, hm, htext⟩ := hf
  rw [hkind] at hk ha
  cases ha
  cases htext
  exact ⟨hk, hm⟩

theorem EngineError.TellsClosed.of_ofStatement {e : EngineError} {f : Fault}
    (he : Failure.ofStatement e = .fault f) (hf : f.TellsClosed) : e.TellsClosed := by
  cases hd : e.kind.isDriver with
  | false => exact .of_ofEngine (Failure.ofStatement_of_not_isDriver hd ▸ he) hf
  | true =>
    rw [Failure.ofStatement_of_isDriver hd] at he
    cases he
    have hk := hf.1
    split at hk <;> cases hk

theorem append_not_mem_closedTexts {before : String} (hb : before.toList.head? = some 'F')
    (m : String) : before ++ m ∉ closedTexts := by
  intro h
  have hhead : (before ++ m).toList.head? = some 'F' := by
    rw [String.toList_append, List.head?_append, hb]
    rfl
  have hall : ∀ x ∈ closedTexts, x.toList.head? ≠ some 'F' := by decide
  exact hall _ h hhead

theorem EngineError.TellsClosed.of_wrapDriver {e : EngineError} {f : Fault} {kind : FaultKind}
    {before : String} (hb : before.toList.head? = some 'F')
    (he : Failure.wrapDriver kind before e = .fault f) (hf : f.TellsClosed) : e.TellsClosed := by
  cases hd : e.kind.isDriver with
  | false => exact .of_ofEngine (Failure.wrapDriver_of_not_isDriver hd ▸ he) hf
  | true =>
    rw [Failure.wrapDriver_of_isDriver hd] at he
    cases he
    obtain ⟨m, hm, htext⟩ := hf.2
    cases htext
    exact absurd hm (append_not_mem_closedTexts hb e.message)

/-! ## What engines do to a session -/

/-- A fault that tells so was raised by the driver. -/
def PassedOn (sc : Script) (o : Option Failure) : Prop :=
  ∀ f, o = some (.fault f) → f.TellsClosed → ∃ e ∈ sc.raises, e.TellsClosed

namespace PassedOn

variable {sc : Script}

theorem none : PassedOn sc none := by
  intro f hf
  cases hf

theorem refused (r : Refusal) : PassedOn sc (some (.refused r)) := by
  intro f hf
  cases hf

theorem of_kind_ne {f : Fault} (hk : f.kind ≠ .connection) : PassedOn sc (some (.fault f)) := by
  intro g hg htells
  cases hg
  exact absurd htells.1 hk

end PassedOn

/-- An engine makes calls. It leaves being connected and the events alone. -/
structure EngineStep (s : Session) (o : Option Failure) (t : Session) (calls : List Exchange) :
    Prop where
  connected : t.connected = s.connected
  events : t.events = s.events
  transcript : t.transcript = s.transcript ++ calls
  script : t.script.raises ⊆ s.script.raises
  passed : PassedOn s.script o

namespace Sqlite

theorem passedOn_openFailure {sc : Script} {e : EngineError} (he : e ∈ sc.opening.raises) :
    PassedOn sc (some (openFailure e)) := by
  intro f hf htells
  exact ⟨e, Script.mem_raises_of_opening he, .of_wrapDriver rfl (Option.some.inj hf) htells⟩

theorem passedOn_setUpOutcome {sc : Script} {readonly : Bool} :
    PassedOn sc (Failure.of? (setUpOutcome (setUpError? readonly sc.opening))) := by
  cases hu : setUpError? readonly sc.opening with
  | none => exact .none
  | some e => exact passedOn_openFailure (mem_raises_of_setUpError? hu)

theorem opens_setUpCalls (number : Nat) (readonly : Bool) (reply : OpenReply) :
    ∀ x ∈ setUpCalls number readonly reply, x.call.opens = false := by
  intro x hx
  rw [setUpCalls, List.mem_cons] at hx
  rcases hx with rfl | hx
  · rfl
  · split at hx
    · cases List.mem_singleton.mp hx
      rfl
    · cases hx

theorem step_openEngine (cn : Connection) (s : Session) :
    let r := (openEngine cn).onSession s
    ∃ calls, EngineStep s (Failure.of? r.1) r.2 calls ∧ (∀ x ∈ calls.tail, x.call.opens = false) ∧
      (Failure.of? r.1 = none ∨ s.handle.isSome = true → r.2.handle.isSome = true) := by
  rw [onSession_openEngine]
  cases addressFlag (Config.openPath cn.config.path) with
  | error m =>
    exact ⟨[], ⟨rfl, rfl, by simp, List.Subset.refl _, .refused _⟩, List.forall_mem_nil _,
      by simp [Failure.of?]⟩
  | ok address =>
    dsimp only
    cases ho : s.script.opening.opening with
    | some e =>
      have he : e ∈ s.script.opening.raises := by simp [OpenReply.raises, ho]
      exact ⟨_, ⟨rfl, rfl, rfl, s.script.raises_afterOpening_subset, passedOn_openFailure he⟩,
        List.forall_mem_nil _, by simp [Failure.of?]⟩
    | none =>
      exact ⟨_, ⟨rfl, rfl, rfl, s.script.raises_afterOpening_subset, passedOn_setUpOutcome⟩,
        opens_setUpCalls _ _ _, fun _ => rfl⟩

theorem step_closeEngine (s : Session) :
    let r := closeEngine.onSession s
    ∃ calls, EngineStep s (Failure.of? r.1) r.2 calls ∧ (∀ x ∈ calls, x.call.opens = false) ∧
      (Failure.of? r.1 ≠ none → s.handle.isSome = true → r.2.handle.isSome = true) := by
  rw [onSession_closeEngine]
  cases s.handle with
  | none =>
    exact ⟨[], ⟨rfl, rfl, by simp, List.Subset.refl _, .none⟩, List.forall_mem_nil _,
      by simp [Failure.of?]⟩
  | some h =>
    dsimp only
    cases hc : s.script.closing with
    | none =>
      exact ⟨_, ⟨rfl, rfl, rfl, s.script.raises_afterClosing_subset, .none⟩, by simp [Call.opens],
        fun hn => absurd rfl hn⟩
    | some e =>
      refine ⟨_, ⟨rfl, rfl, rfl, s.script.raises_afterClosing_subset, ?_⟩, by simp [Call.opens],
        fun _ _ => rfl⟩
      intro f hf htells
      exact ⟨e, Script.mem_raises_of_closing hc, .of_ofEngine (Option.some.inj hf) htells⟩

theorem passedOn_statementOutcome {sc : Script} :
    PassedOn sc (Failure.of? (statementOutcome sc.statement)) := by
  rw [statementOutcome]
  cases he : statementError? sc.statement with
  | none =>
    dsimp only [rowsOutcome]
    cases sc.statement.rowsByName with
    | error m => exact .refused _
    | ok rows => exact .none
  | some e =>
    intro f hf htells
    exact ⟨e, Script.mem_raises_of_statement (mem_raises_of_statementError? he),
      .of_ofStatement (Option.some.inj hf) htells⟩

theorem step_execute (text : Value) (params : List Value) {s : Session}
    (hs : s.handle.isSome = true) :
    let r := (execute text params).onSession s
    ∃ calls, EngineStep s (Failure.of? r.1) r.2 calls ∧ (∀ x ∈ calls, x.call.opens = false) ∧
      r.2.handle.isSome = true := by
  rw [onSession_execute]
  cases hh : s.handle with
  | none =>
    rw [hh] at hs
    cases hs
  | some h =>
    exact ⟨_, ⟨rfl, rfl, rfl, s.script.raises_afterStatement_subset, passedOn_statementOutcome⟩,
      by simp [Call.opens], rfl⟩

end Sqlite

namespace Mysql

theorem step_openEngine (cn : Connection) (s : Session) :
    let r := (openEngine cn).onSession s
    ∃ calls, EngineStep s (Failure.of? r.1) r.2 calls ∧ (∀ x ∈ calls.tail, x.call.opens = false) ∧
      (Failure.of? r.1 = none ∨ s.handle.isSome = true → r.2.handle.isSome = true) := by
  rw [onSession_openEngine]
  cases s.script.installed with
  | false =>
    have hpassed : PassedOn s.script (some (.fault notInstalled)) := .of_kind_ne (by decide)
    exact ⟨[], ⟨rfl, rfl, by simp, List.Subset.refl _, hpassed⟩, List.forall_mem_nil _,
      by simp [Failure.of?]⟩
  | true =>
    simp only [if_true]
    cases poolKeywords cn.config with
    | error m =>
      exact ⟨[], ⟨rfl, rfl, by simp, List.Subset.refl _, .refused _⟩, List.forall_mem_nil _,
        by simp [Failure.of?]⟩
    | ok keywords =>
      dsimp only
      cases ho : s.script.opening.opening with
      | some e =>
        have he : e ∈ s.script.opening.raises := by simp [OpenReply.raises, ho]
        refine ⟨_, ⟨rfl, rfl, rfl, s.script.raises_afterOpening_subset, ?_⟩,
          List.forall_mem_nil _, by simp [Failure.of?]⟩
        intro f hf htells
        exact ⟨e, Script.mem_raises_of_opening he, .of_wrapDriver rfl (Option.some.inj hf) htells⟩
      | none =>
        exact ⟨_, ⟨rfl, rfl, rfl, s.script.raises_afterOpening_subset, .none⟩,
          List.forall_mem_nil _, fun _ => rfl⟩

theorem step_closeEngine (s : Session) :
    let r := closeEngine.onSession s
    ∃ calls, EngineStep s (Failure.of? r.1) r.2 calls ∧ (∀ x ∈ calls, x.call.opens = false) ∧
      (Failure.of? r.1 ≠ none → s.handle.isSome = true → r.2.handle.isSome = true) :=
  ⟨[], ⟨rfl, rfl, by simp [onSession_closeEngine], List.Subset.refl _, .none⟩,
    List.forall_mem_nil _, fun hn => absurd rfl hn⟩

theorem opens_cursorCalls (object : Nat) (reply : StatementReply) (text : Value)
    (params : List Value) : ∀ x ∈ cursorCalls object reply text params, x.call.opens = false := by
  intro x hx
  simp only [cursorCalls, runCalls, List.mem_cons] at hx
  rcases hx with rfl | hx
  · rfl
  · split at hx
    · simp only [List.cons_append, List.mem_cons, List.mem_append, List.not_mem_nil, or_false] at hx
      rcases hx with rfl | hx | rfl
      · rfl
      · split at hx
        · cases List.mem_singleton.mp hx
          rfl
        · cases hx
      · rfl
    · cases hx

theorem passedOn_releasedOutcome {sc : Script} {reply : StatementReply}
    (hr : ∀ e ∈ reply.raises, e ∈ sc.raises) : PassedOn sc (Failure.of? (releasedOutcome reply)) := by
  intro f hf htells
  rw [releasedOutcome] at hf
  split at hf
  · rename_i e he
    have hm : e ∈ reply.raises := by simp [StatementReply.raises, he]
    exact ⟨e, hr e hm, .of_ofEngine (Option.some.inj hf) htells⟩
  · rw [statementOutcome] at hf
    split at hf
    · rename_i e he
      exact ⟨e, hr e (mem_raises_of_cursorError? he), .of_ofStatement (Option.some.inj hf) htells⟩
    · cases hf

theorem step_execute (text : Value) (params : List Value) {s : Session}
    (hs : s.handle.isSome = true) :
    let r := (execute text params).onSession s
    ∃ calls, EngineStep s (Failure.of? r.1) r.2 calls ∧ (∀ x ∈ calls, x.call.opens = false) ∧
      r.2.handle.isSome = true := by
  rw [onSession_execute]
  cases hh : s.handle with
  | none =>
    rw [hh] at hs
    cases hs
  | some h =>
    dsimp only
    have hcheckout := s.script.raises_afterCheckout_subset
    cases hc : s.script.checkout with
    | some e =>
      refine ⟨_, ⟨rfl, rfl, rfl, hcheckout, ?_⟩, by simp [Call.opens], rfl⟩
      intro f hf htells
      exact ⟨e, Script.mem_raises_of_checkout hc, .of_wrapDriver rfl (Option.some.inj hf) htells⟩
    | none =>
      have hreply : ∀ e ∈ s.script.afterCheckout.statement.raises, e ∈ s.script.raises :=
        fun e he => hcheckout (Script.mem_raises_of_statement he)
      refine ⟨_, ⟨rfl, rfl, rfl, ?_, passedOn_releasedOutcome hreply⟩, ?_, rfl⟩
      · exact List.Subset.trans (Script.raises_afterStatement_subset _) hcheckout
      · intro x hx
        simp only [List.cons_append, List.mem_cons, List.mem_append, List.not_mem_nil,
          or_false] at hx
        rcases hx with rfl | hx | rfl
        · rfl
        · exact opens_cursorCalls _ _ _ _ x hx
        · rfl

end Mysql

/-! ## Operations -/

/-- What an operation does that starts with a coherent session and closes nothing. Only its first call may
open the engine, and only when the connection is not open. -/
structure Moves (s : Session) (o : Option Failure) (t : Session) : Prop where
  coherent : t.Coherent
  stays : s.connected = true → t.connected = true
  script : t.script.raises ⊆ s.script.raises
  passed : PassedOn s.script o
  calls : ∃ calls, t.transcript = s.transcript ++ calls ∧
    (s.connected = true → ∀ x ∈ calls, x.call.opens = false) ∧
    (∀ x ∈ calls.tail, x.call.opens = false) ∧ (o = none → t.connected = false → calls = [])

theorem Moves.nothing {s : Session} {o : Option Failure} (h : s.Coherent)
    (ho : PassedOn s.script o) : Moves s o s :=
  ⟨h, id, List.Subset.refl _, ho, [], by simp, fun _ => List.forall_mem_nil _,
    List.forall_mem_nil _, fun _ _ => rfl⟩

theorem Moves.trans {s t u : Session} {o : Option Failure} (hst : Moves s none t)
    (htu : Moves t o u) : Moves s o u := by
  obtain ⟨first, hfirst, hopen, htail, hnone⟩ := hst.calls
  obtain ⟨rest, hrest, hopen', htail', hnone'⟩ := htu.calls
  refine ⟨htu.coherent, fun hs => htu.stays (hst.stays hs), List.Subset.trans htu.script hst.script,
    ?_, first ++ rest, ?_, ?_, ?_, ?_⟩
  · intro f hf htells
    obtain ⟨e, he, hte⟩ := htu.passed f hf htells
    exact ⟨e, hst.script he, hte⟩
  · rw [hrest, hfirst, List.append_assoc]
  · intro hs x hx
    rcases List.mem_append.mp hx with hx | hx
    · exact hopen hs x hx
    · exact hopen' (hst.stays hs) x hx
  · intro x hx
    cases first with
    | nil => exact htail' x hx
    | cons y ys =>
      -- something was called and nothing failed, so that the connection is open before the rest
      have ht : t.connected = true := by
        by_contra hc
        cases hnone rfl (Bool.eq_false_iff.mpr hc)
      rcases List.mem_append.mp hx with hx | hx
      · exact htail x hx
      · exact hopen' ht x hx
  · intro ho hu
    have ht : t.connected = false := by
      by_contra hc
      rw [htu.stays (by simpa using hc)] at hu
      cases hu
    rw [hnone rfl ht, hnone' ho hu, List.append_nil]

structure Steps (s : Session) (o : Option Failure) (t : Session) : Prop where
  coherent : t.Coherent
  script : t.script.raises ⊆ s.script.raises
  passed : PassedOn s.script o
  calls : ∃ calls, t.transcript = s.transcript ++ calls ∧
    (s.connected = true → ∀ x ∈ calls, x.call.opens = false) ∧
    ∀ x ∈ calls.tail, x.call.opens = false

theorem Moves.steps {s t : Session} {o : Option Failure} (h : Moves s o t) : Steps s o t := by
  obtain ⟨calls, htranscript, hopen, htail, -⟩ := h.calls
  exact ⟨h.coherent, h.script, h.passed, calls, htranscript, hopen, htail⟩

/-- The operations that open or close and do nothing else. -/
def Operation.isLifecycle : Operation → Bool
  | connect | close | enter | leave => true
  | _ => false

namespace Connection

variable {cn : Connection}

theorem Native.step_openEngine (hn : cn.Native) (s : Session) :
    let r := cn.openEngine.onSession s
    ∃ calls, EngineStep s (Failure.of? r.1) r.2 calls ∧ (∀ x ∈ calls.tail, x.call.opens = false) ∧
      (Failure.of? r.1 = none ∨ s.handle.isSome = true → r.2.handle.isSome = true) := by
  rw [openEngine, hn.engine]
  cases cn.backend with
  | sqlite => exact Sqlite.step_openEngine cn s
  | mysql => exact Mysql.step_openEngine cn s

theorem Native.step_closeEngine (hn : cn.Native) (s : Session) :
    let r := cn.closeEngine.onSession s
    ∃ calls, EngineStep s (Failure.of? r.1) r.2 calls ∧ (∀ x ∈ calls, x.call.opens = false) ∧
      (Failure.of? r.1 ≠ none → s.handle.isSome = true → r.2.handle.isSome = true) := by
  rw [closeEngine, hn.engine]
  cases cn.backend with
  | sqlite => exact Sqlite.step_closeEngine s
  | mysql => exact Mysql.step_closeEngine s

theorem Native.step_executeOn (hn : cn.Native) (text : Value) (params : List Value) {s : Session}
    (hs : s.handle.isSome = true) :
    let r := (cn.executeOn text params).onSession s
    ∃ calls, EngineStep s (Failure.of? r.1) r.2 calls ∧ (∀ x ∈ calls, x.call.opens = false) ∧
      r.2.handle.isSome = true := by
  rw [executeOn, hn.engine]
  cases cn.backend with
  | sqlite => exact Sqlite.step_execute text params hs
  | mysql => exact Mysql.step_execute text params hs

theorem Native.moves_connect (hn : cn.Native) {s : Session} (hs : s.Coherent) :
    Moves s (Failure.of? (cn.connect.onSession s).1) (cn.connect.onSession s).2 := by
  obtain ⟨calls, hstep, htail, hheld⟩ := hn.step_openEngine s
  rcases hn.connect_cases s with ⟨-, h⟩ | ⟨hc, t, ho⟩
  · rw [h]
    exact .nothing hs .none
  · have hnone : s.connected = true → ∀ x ∈ calls, x.call.opens = false :=
      fun h => absurd h (Bool.eq_false_iff.mp hc)
    rcases ho with ⟨f, ho, h⟩ | ⟨ho, h⟩
    · rw [ho] at hstep hheld
      rw [h]
      have ht : t.Coherent :=
        hs.of_eq hstep.connected (by rw [hstep.events]) fun hh => hheld (.inr hh)
      exact ⟨ht, fun h => hstep.connected.trans h, hstep.script, hstep.passed, calls,
        hstep.transcript, hnone, htail, by simp [Failure.of?]⟩
    · rw [ho] at hstep hheld
      rw [h]
      have ht : (cn.openedIn t).Coherent :=
        hs.opened hc rfl rfl (congrArg (· ++ _) hstep.events) (hheld (.inl rfl))
      exact ⟨ht, fun _ => rfl, hstep.script, .none, calls, hstep.transcript, hnone, htail,
        by simp [openedIn]⟩

theorem Native.moves_statement (hn : cn.Native) (text : Value) (params : List Value) {s : Session}
    (hs : s.Coherent) (hc : s.connected = true) :
    Moves s (Failure.of? ((cn.statement text params).onSession s).1)
      ((cn.statement text params).onSession s).2 := by
  obtain ⟨calls, hstep, hopens, hheld⟩ := hn.step_executeOn text params (hs.held hc)
  have htail : ∀ x ∈ calls.tail, x.call.opens = false :=
    fun x hx => hopens x (List.mem_of_mem_tail hx)
  obtain ⟨t, hcases⟩ := cn.statement_cases text params s
  have ht : ((cn.executeOn text params).onSession s).2 = t := by
    rcases hcases with ⟨_, he, -⟩ | ⟨_, he, -⟩ | ⟨_, -, he, -⟩ <;> rw [he]
  rw [ht] at hstep hheld
  have hconnected : t.connected = true := hstep.connected.trans hc
  have hnever : ∀ o : Option Failure, o = none → t.connected = false → calls = [] := by
    intro o _ hf
    rw [hconnected] at hf
    cases hf
  have hquiet : ∀ level name fields, LogEvent.lifecycle? ⟨level, name, fields, t.context⟩ = none →
      (t.logged level name fields).Coherent := by
    intro level name fields he
    have hturns : turns (t.logged level name fields).events = turns s.events := by
      rw [Session.logged, turns_append_of_eq_none he, hstep.events]
    exact hs.of_eq hstep.connected hturns fun _ => hheld
  rcases hcases with ⟨result, he, h⟩ | ⟨f, he, h⟩ | ⟨f, -, he, h⟩
  · rw [h]
    exact ⟨hquiet _ _ _ rfl, fun _ => hconnected, hstep.script, .none, calls, hstep.transcript,
      fun _ => hopens, htail, hnever _⟩
  · rw [h]
    refine ⟨hquiet _ _ _ rfl, fun _ => hconnected, hstep.script, ?_, calls, hstep.transcript,
      fun _ => hopens, htail, hnever _⟩
    rw [he] at hstep
    intro g hg htells
    cases hg
    exact hstep.passed f rfl htells
  · rw [he] at hstep
    rw [h]
    exact ⟨hs.of_eq hstep.connected (by rw [hstep.events]) fun _ => hheld, fun _ => hconnected,
      hstep.script, hstep.passed, calls, hstep.transcript, fun _ => hopens, htail, hnever _⟩

theorem Native.governs_moves (hn : cn.Native) :
    cn.Governs fun s o t => s.Coherent → Moves s o t where
  idle s hs := .nothing hs .none
  refused s r hs := .nothing hs (.refused r)
  unidentified s table hs := by
    have hkind : (cn.withoutIdentifier table).kind = .query := rfl
    exact .nothing hs (.of_kind_ne (by rw [hkind]; decide))
  trans hst htu hs := (hst hs).trans (htu (hst hs).coherent)
  bound c d h hs := by
    obtain ⟨ht, hstays, hscript, hpassed, hcalls⟩ := h (hs.of_eq rfl rfl id)
    exact ⟨ht.of_eq rfl rfl id, hstays, hscript, hpassed, hcalls⟩
  connect s hs := hn.moves_connect hs
  statement text params s hc hs := hn.moves_statement text params hs hc

theorem Native.steps_close (hn : cn.Native) {s : Session} (hs : s.Coherent) :
    Steps s (Failure.of? (cn.close.onSession s).1) (cn.close.onSession s).2 := by
  obtain ⟨calls, hstep, hopens, hheld⟩ := hn.step_closeEngine s
  have htail : ∀ x ∈ calls.tail, x.call.opens = false :=
    fun x hx => hopens x (List.mem_of_mem_tail hx)
  rcases cn.close_cases s with ⟨-, h⟩ | ⟨hc, t, ⟨f, hl, h⟩ | ⟨hl, h⟩⟩
  · rw [h]
    have hmoves : Moves s none s := .nothing hs .none
    exact hmoves.steps
  · rw [hl] at hstep hheld
    rw [h]
    have ht : t.Coherent :=
      hs.of_eq hstep.connected (by rw [hstep.events]) (hheld (by simp [Failure.of?]))
    exact ⟨ht, hstep.script, hstep.passed, calls, hstep.transcript, fun _ => hopens, htail⟩
  · rw [hl] at hstep
    rw [h]
    have ht : (cn.closedIn t).Coherent := hs.closed hc rfl rfl (congrArg (· ++ _) hstep.events)
    exact ⟨ht, hstep.script, .none, calls, hstep.transcript, fun _ => hopens, htail⟩

theorem exists_of_isLifecycle (cn : Connection) {op : Operation}
    (hop : op.isLifecycle = true) :
    ∃ a, cn.perform op = cn.connect >>= (fun _ => pure a) ∧ op.closes = false ∨
      cn.perform op = cn.close >>= (fun _ => pure a) ∧ op.closes = true := by
  cases op with
  | connect => exact ⟨.nothing, .inl ⟨rfl, rfl⟩⟩
  | enter => exact ⟨.truth true, .inl ⟨rfl, rfl⟩⟩
  | close | leave => exact ⟨.nothing, .inr ⟨rfl, rfl⟩⟩
  | _ => cases hop

theorem isLifecycle_of_closes {op : Operation} (hop : op.closes = true) : op.isLifecycle = true := by
  cases op with
  | close | leave => rfl
  | _ => cases hop

theorem Native.moves_perform (hn : cn.Native) {op : Operation} (hp : op.isPublic = true)
    (hc : op.closes = false) {s : Session} (hs : s.Coherent) :
    Moves s (Failure.of? ((cn.perform op).onSession s).1) ((cn.perform op).onSession s).2 := by
  refine hn.governs_moves.obeys_perform hn hp ?_ s hs
  intro h
  rw [hc] at h
  cases h

theorem Native.steps_perform (hn : cn.Native) {op : Operation} (hp : op.isPublic = true)
    {s : Session} (hs : s.Coherent) :
    Steps s (Failure.of? ((cn.perform op).onSession s).1) ((cn.perform op).onSession s).2 := by
  cases hc : op.closes with
  | false => exact (hn.moves_perform hp hc hs).steps
  | true =>
    obtain ⟨a, ⟨-, h⟩ | ⟨h, -⟩⟩ := exists_of_isLifecycle cn (isLifecycle_of_closes hc)
    · rw [hc] at h
      cases h
    · rw [h, bind_pure_comp, Run.onSession_map, Failure.of?_map]
      exact hn.steps_close hs

theorem Native.coherent_sessionAfter (hn : cn.Native) (script : Script) (context : LogContext)
    {ops : List Operation} (hops : ∀ op ∈ ops, op.isPublic = true) :
    (cn.sessionAfter { script, context } ops).Coherent ∧
      (cn.sessionAfter { script, context } ops).script.raises ⊆ script.raises := by
  apply sessionAfter_keeps (P := fun s => s.Coherent ∧ s.script.raises ⊆ script.raises)
  · intro op hop s hs
    have hstep := hn.steps_perform (hops op hop) hs.1
    exact ⟨hstep.coherent, List.Subset.trans hstep.script hs.2⟩
  · exact ⟨.fresh script context, List.Subset.refl _⟩

end Connection

end DataFetch
