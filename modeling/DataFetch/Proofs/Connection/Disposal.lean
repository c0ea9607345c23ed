import DataFetch.Proofs.Connection.Rule
import DataFetch.Proofs.Engine.Mysql
import DataFetch.Proofs.Engine.Sqlite
import Mathlib.Data.List.Basic

/-! # How failures of the driver leave operations

A failure of the driver's own family is turned into a fault wherever a connection is opened or a
statement is run. Main statement: it leaves an operation as it is exactly when the last call of the
operation raised it and that call closed a driver connection or gave one back to the pool; whatever else
of the family stops an operation leaves it as a fault that has it for its cause.
-/
namespace DataFetch

/-- Does a call let go of a driver connection? -/
def Call.disposes : Call → Bool
  | close | release => true
  | _ => false

/-- The last of some calls let go of a driver connection and raised `e`. -/
def EndsDisposing (calls : List Exchange) (e : EngineError) : Prop :=
  ∃ x, calls.getLast? = some x ∧ x.call.disposes = true ∧ x.raised = some e

theorem endsDisposing_append {first rest : List Exchange} {e : EngineError} (h : rest ≠ []) :
    EndsDisposing (first ++ rest) e ↔ EndsDisposing rest e := by
  rw [EndsDisposing, EndsDisposing, List.getLast?_append_of_ne_nil first h]

theorem endsDisposing_concat {calls : List Exchange} {x : Exchange} {e : EngineError} :
    EndsDisposing (calls ++ [x]) e ↔ x.call.disposes = true ∧ x.raised = some e := by
  simp [EndsDisposing]

theorem not_endsDisposing_of_disposes {calls : List Exchange}
    (h : ∀ x ∈ calls, x.call.disposes = false) (e : EngineError) : ¬ EndsDisposing calls e := by
  rintro ⟨x, hx, hd, -⟩
  rw [h x (List.mem_of_getLast? hx)] at hd
  cases hd

theorem not_endsDisposing_nil (e : EngineError) : ¬ EndsDisposing [] e :=
  not_endsDisposing_of_disposes (List.forall_mem_nil _) e

/-! ## What stops an operation -/

/-- The last error that some calls raise. -/
def lastRaised? (calls : List Exchange) : Option EngineError :=
  (calls.filterMap Exchange.raised).getLast?

theorem lastRaised?_append (first rest : List Exchange) :
    lastRaised? (first ++ rest) = (lastRaised? rest).or (lastRaised? first) := by
  simp [lastRaised?, List.filterMap_append, List.getLast?_append]

theorem lastRaised?_singleton (x : Exchange) : lastRaised? [x] = x.raised := by
  cases hx : x.raised <;> simp [lastRaised?, hx]

/-- What stops an operation that made some calls and ran statements with these replies. SQLite fetches
rows without a call of its own. -/
def stopper? (backend : Backend) (calls : List Exchange) (used : List StatementReply) :
    Option EngineError :=
  match backend with
  | .sqlite => (lastRaised? calls).or (used.getLast?.bind (·.fetch))
  | .mysql => lastRaised? calls

theorem stopper?_nil_right (backend : Backend) (calls : List Exchange) :
    stopper? backend calls [] = lastRaised? calls := by
  cases backend <;> simp [stopper?]

/-- A statement uses up the first reply. -/
theorem Script.statements_eq (sc : Script) :
    sc.statements = sc.statements.take 1 ++ sc.statements.tail := by
  rw [← List.drop_one, List.take_append_drop]

/-- What stops the whole stops its second part, if the first part was not stopped by it. -/
theorem stopper?_of_append {backend : Backend} {first rest : List Exchange}
    {used more : List StatementReply} {e : EngineError}
    (h : stopper? backend (first ++ rest) (used ++ more) = some e)
    (hfirst : stopper? backend first used ≠ some e) : stopper? backend rest more = some e := by
  cases backend with
  | mysql =>
    rw [stopper?, lastRaised?_append, Option.or_eq_some_iff] at h
    rcases h with h | ⟨-, h⟩
    · exact h
    · exact absurd h hfirst
  | sqlite =>
    rw [stopper?, lastRaised?_append, List.getLast?_append] at h
    rw [stopper?] at hfirst ⊢
    cases hr : lastRaised? rest with
    | some d => simpa [hr] using h
    | none =>
      cases hf : lastRaised? first with
      | some d => simp_all
      | none =>
        cases hm : more.getLast? with
        | some reply => simpa [hr, hf, hm] using h
        | none => simp_all

/-- Ends in a fault with the cause `e`. -/
def Recast (e : EngineError) (o : Option Failure) : Prop :=
  ∃ f, o = some (.fault f) ∧ f.cause = some e.asCause

theorem Recast.wrapDriver {e : EngineError} (he : e.kind.isDriver = true) (kind : FaultKind)
    (before : String) : Recast e (some (Failure.wrapDriver kind before e)) := by
  rw [Failure.wrapDriver_of_isDriver he]
  exact ⟨_, rfl, rfl⟩

theorem Recast.ofStatement {e : EngineError} (he : e.kind.isDriver = true) :
    Recast e (some (Failure.ofStatement e)) := by
  rw [Failure.ofStatement_of_isDriver he]
  exact ⟨_, rfl, rfl⟩

/-- A failure, if it is one, that is none of the driver's own family. -/
def NotOfDriver (o : Option Failure) : Prop :=
  ∀ e : EngineError, e.kind.isDriver = true → o ≠ some (.engine e)

namespace NotOfDriver

variable {e : EngineError}

theorem none : NotOfDriver none := by
  intro d _ h
  cases h

theorem fault (f : Fault) : NotOfDriver (some (.fault f)) := by
  intro d _ h
  cases h

theorem refused (r : Refusal) : NotOfDriver (some (.refused r)) := by
  intro d _ h
  cases h

theorem foreign {name : String} (he : e.kind = .foreign name) : NotOfDriver (some (.engine e)) := by
  intro d hd h
  cases h
  rw [he] at hd
  cases hd

/-- What is recast is none of the driver's own any more. -/
theorem wrapDriver (kind : FaultKind) (before : String) (e : EngineError) :
    NotOfDriver (some (Failure.wrapDriver kind before e)) := by
  intro d hd h
  have he := Failure.wrapDriver_eq_engine_iff.mp (Option.some.inj h)
  obtain ⟨rfl, name, hn⟩ := he
  exact foreign hn d hd rfl

theorem ofStatement (e : EngineError) : NotOfDriver (some (Failure.ofStatement e)) := by
  intro d hd h
  have he := Failure.ofStatement_eq_engine_iff.mp (Option.some.inj h)
  obtain ⟨rfl, name, hn⟩ := he
  exact foreign hn d hd rfl

end NotOfDriver

/-- A failure of the driver's own family is passed on when the last call raised it that let go of a
driver connection, and at no other time; if it stops the operation at any other call it is recast. -/
def Settles (backend : Backend) : Rule := fun s o t =>
  ∃ calls used, t.transcript = s.transcript ++ calls ∧
    s.script.statements = used ++ t.script.statements ∧
    ∀ e : EngineError, e.kind.isDriver = true →
      (o = some (.engine e) ↔ EndsDisposing calls e) ∧
      (stopper? backend calls used = some e → ¬ EndsDisposing calls e → Recast e o)

namespace Settles

variable {backend : Backend} {s t u : Session} {o : Option Failure}

theorem of_disposes {calls : List Exchange} {used : List StatementReply}
    (ht : t.transcript = s.transcript ++ calls)
    (hused : s.script.statements = used ++ t.script.statements)
    (hcalls : ∀ x ∈ calls, x.call.disposes = false) (ho : NotOfDriver o)
    (hstop : ∀ e, e.kind.isDriver = true → stopper? backend calls used = some e → Recast e o) :
    Settles backend s o t :=
  ⟨calls, used, ht, hused, fun e he =>
    ⟨iff_of_false (ho e he) (not_endsDisposing_of_disposes hcalls e), fun h _ => hstop e he h⟩⟩

/-- Calls that run no statement are stopped by the last error that they raise. -/
theorem of_opening {calls : List Exchange} (ht : t.transcript = s.transcript ++ calls)
    (hs : s.script.statements = t.script.statements)
    (hcalls : ∀ x ∈ calls, x.call.disposes = false) (ho : NotOfDriver o)
    (hstop : ∀ e, e.kind.isDriver = true → lastRaised? calls = some e → Recast e o) :
    Settles backend s o t :=
  of_disposes ht (hs.trans (List.nil_append _).symm) hcalls ho fun e he h =>
    hstop e he (by rwa [stopper?_nil_right] at h)

/-- A single call that lets go of nothing raises, and its failure is recast. -/
theorem of_wrapped {object : Nat} {call : Call} {e : EngineError} {kind : FaultKind}
    {before : String} (ho : o = some (Failure.wrapDriver kind before e))
    (ht : t.transcript = s.transcript ++ [⟨object, call, some e⟩])
    (hs : s.script.statements = t.script.statements) (hcall : call.disposes = false) :
    Settles backend s o t := by
  subst ho
  refine .of_opening ht hs (by simpa using hcall) (.wrapDriver kind before e) fun d hd h => ?_
  rw [lastRaised?_singleton] at h
  cases h
  exact .wrapDriver hd kind before

theorem nothing (ho : NotOfDriver o) : Settles backend s o s :=
  of_opening (List.append_nil _).symm rfl (List.forall_mem_nil _) ho nofun

theorem trans (hst : Settles backend s none t) (htu : Settles backend t o u) :
    Settles backend s o u := by
  obtain ⟨first, used, hfirst, hused, hpass⟩ := hst
  obtain ⟨rest, more, hrest, hmore, hpass'⟩ := htu
  refine ⟨first ++ rest, used ++ more, by rw [hrest, hfirst, List.append_assoc],
    by rw [hused, hmore, List.append_assoc], fun e he => ?_⟩
  -- the first part did not fail, so that nothing of the driver's own stopped it
  have hnot : ¬ EndsDisposing first e := fun h => NotOfDriver.none e he ((hpass e he).1.mpr h)
  have hfree : stopper? backend first used ≠ some e := by
    intro h
    obtain ⟨f, hf, -⟩ := (hpass e he).2 h hnot
    cases hf
  obtain ⟨hiff, hrecast⟩ := hpass' e he
  have hends : EndsDisposing (first ++ rest) e ↔ EndsDisposing rest e := by
    by_cases hr : rest = []
    · rw [hr, List.append_nil]
      exact iff_of_false hnot (not_endsDisposing_nil e)
    · exact endsDisposing_append hr
  rw [hends]
  exact ⟨hiff, fun h => hrecast (stopper?_of_append h hfree)⟩

end Settles

namespace Failure

variable {e d : EngineError}

theorem ofEngine_eq_engine_iff_of_isDriver (hd : d.kind.isDriver = true) :
    ofEngine e = .engine d ↔ e = d := by
  rw [ofEngine_eq_engine_iff]
  constructor
  · exact fun h => h.1.symm
  · rintro rfl
    refine ⟨rfl, fun k hk => ?_⟩
    rw [hk] at hd
    cases hd

end Failure

namespace Sqlite

theorem lastRaised?_setUpCalls (number : Nat) (call : Call) (readonly : Bool) (reply : OpenReply) :
    lastRaised? (⟨number, call, none⟩ :: setUpCalls number readonly reply) =
      setUpError? readonly reply := by
  rw [setUpCalls, setUpError?]
  cases hk : reply.foreignKeys with
  | some e => simp [lastRaised?]
  | none => cases readonly <;> cases reply.queryOnly <;> simp [lastRaised?]

theorem settles_openEngine (cn : Connection) (s : Session) :
    Settles .sqlite s (Failure.of? ((openEngine cn).onSession s).1)
      ((openEngine cn).onSession s).2 := by
  rw [onSession_openEngine]
  cases addressFlag (Config.openPath cn.config.path) with
  | error m => exact .nothing (.refused _)
  | ok address =>
    dsimp only
    cases s.script.opening.opening with
    | some d =>
      exact .of_wrapped rfl rfl rfl rfl
    | none =>
      refine .of_opening rfl rfl ?_ ?_ ?_
      · intro x hx
        simp only [setUpCalls, List.mem_cons] at hx
        rcases hx with rfl | rfl | hx
        · rfl
        · rfl
        · split at hx
          · cases List.mem_singleton.mp hx
            rfl
          · cases hx
      · cases setUpError? cn.config.readonly.isTruthy s.script.opening with
        | none => exact .none
        | some e => exact .wrapDriver _ _ e
      · intro e he h
        rw [lastRaised?_setUpCalls] at h
        rw [h]
        exact .wrapDriver he _ _

theorem notOfDriver_statementOutcome (reply : StatementReply) :
    NotOfDriver (Failure.of? (statementOutcome reply)) := by
  rw [statementOutcome]
  cases statementError? reply with
  | some e => exact .ofStatement e
  | none =>
    dsimp only [rowsOutcome]
    cases reply.rowsByName with
    | error m => exact .refused _
    | ok rows => exact .none

theorem settles_execute (text : Value) (params : List Value) (s : Session) :
    Settles .sqlite s (Failure.of? ((execute text params).onSession s).1)
      ((execute text params).onSession s).2 := by
  rw [onSession_execute]
  cases s.handle with
  | none => exact .nothing (.fault _)
  | some n =>
    refine .of_disposes rfl s.script.statements_eq (by simp [Call.disposes])
      (notOfDriver_statementOutcome _) ?_
    intro e he h
    have hstop : statementError? s.script.statement = some e := by
      rw [stopper?, lastRaised?_singleton] at h
      rw [statementError?, ← h, Script.statement]
      cases s.script.statements <;> rfl
    rw [statementOutcome, hstop]
    exact .ofStatement he

theorem settles_closeEngine (s : Session) :
    Settles .sqlite s (Failure.of? (closeEngine.onSession s).1) (closeEngine.onSession s).2 := by
  rw [onSession_closeEngine]
  cases s.handle with
  | none => exact .nothing .none
  | some n =>
    dsimp only
    cases s.script.closing with
    | none =>
      refine ⟨_, [], rfl, rfl, fun e he => ⟨?_, ?_⟩⟩
      · exact iff_of_false (NotOfDriver.none e he) (by simp [EndsDisposing])
      · simp [stopper?_nil_right, lastRaised?_singleton]
    | some d =>
      refine ⟨_, [], rfl, rfl, fun e he => ?_⟩
      have hlast : EndsDisposing [⟨n, .close, some d⟩] e ↔ d = e := by
        simp [EndsDisposing, Call.disposes]
      rw [hlast, stopper?_nil_right, lastRaised?_singleton, Failure.of?, Option.some.injEq]
      exact ⟨Failure.ofEngine_eq_engine_iff_of_isDriver he,
        fun h hne => absurd (Option.some.inj h) hne⟩

end Sqlite

namespace Mysql

theorem settles_openEngine (cn : Connection) (s : Session) :
    Settles .mysql s (Failure.of? ((openEngine cn).onSession s).1)
      ((openEngine cn).onSession s).2 := by
  rw [onSession_openEngine]
  cases s.script.installed with
  | false => exact .nothing (.fault _)
  | true =>
    rw [if_pos rfl]
    cases poolKeywords cn.config with
    | error m => exact .nothing (.refused _)
    | ok keywords =>
      dsimp only
      cases s.script.opening.opening with
      | some d =>
        exact .of_wrapped rfl rfl rfl rfl
      | none =>
        refine .of_opening rfl rfl (by simp [Call.disposes]) .none ?_
        simp [lastRaised?_singleton]

theorem notOfDriver_statementOutcome (reply : StatementReply) :
    NotOfDriver (Failure.of? (statementOutcome reply)) := by
  rw [statementOutcome]
  cases cursorError? reply with
  | none => exact .none
  | some e => exact .ofStatement e

/-- The last of the calls of a cursor that raises decides what leaves it. -/
theorem lastRaised?_cursorCalls (object : Nat) (reply : StatementReply) (text : Value)
    (params : List Value) :
    lastRaised? (cursorCalls object reply text params) = cursorError? reply := by
  rw [cursorCalls, cursorError?, runCalls, runError?]
  cases hc : reply.cursor with
  | some e => simp [lastRaised?]
  | none =>
    cases reply.execute <;> cases reply.hasColumns <;> cases reply.fetch <;>
      cases reply.cursorClose <;> simp [lastRaised?]

theorem settles_execute (text : Value) (params : List Value) (s : Session) :
    Settles .mysql s (Failure.of? ((execute text params).onSession s).1)
      ((execute text params).onSession s).2 := by
  rw [onSession_execute]
  cases s.handle with
  | none => exact .nothing (.fault _)
  | some h =>
    dsimp only
    cases s.script.checkout with
    | some d =>
      exact .of_wrapped rfl rfl rfl rfl
    | none =>
      refine ⟨_, _, rfl, s.script.statements_eq, fun e he => ?_⟩
      rw [endsDisposing_concat, releasedOutcome, stopper?, lastRaised?_append, lastRaised?_singleton,
        ← List.singleton_append, lastRaised?_append, lastRaised?_cursorCalls, lastRaised?_singleton,
        Option.or_none]
      cases s.script.afterCheckout.statement.release with
      | none =>
        refine ⟨iff_of_false (notOfDriver_statementOutcome _ e he) (by simp), fun h _ => ?_⟩
        rw [Option.none_or] at h
        rw [statementOutcome, h]
        exact .ofStatement he
      | some d =>
        rw [Failure.of?, Option.some.injEq, Failure.ofEngine_eq_engine_iff_of_isDriver he]
        refine ⟨by simp [Call.disposes], fun h hnot => absurd ?_ hnot⟩
        simpa [Call.disposes] using h

theorem settles_closeEngine (s : Session) :
    Settles .mysql s (Failure.of? (closeEngine.onSession s).1) (closeEngine.onSession s).2 :=
  .of_opening (List.append_nil _).symm rfl (List.forall_mem_nil _) .none nofun

end Mysql

namespace Connection

variable {cn : Connection}

theorem settles_connect (hn : cn.Native) : cn.connect.Obeys (Settles cn.backend) := by
  have hopen : ∀ s, Settles cn.backend s (Failure.of? (cn.openEngine.onSession s).1)
      (cn.openEngine.onSession s).2 := by
    intro s
    rw [openEngine, hn.engine]
    cases cn.backend with
    | sqlite => exact Sqlite.settles_openEngine cn s
    | mysql => exact Mysql.settles_openEngine cn s
  intro s
  have hs := hopen s
  rcases hn.connect_cases s with ⟨-, h⟩ | ⟨-, t, ⟨f, ho, h⟩ | ⟨ho, h⟩⟩
  · rw [h]
    exact .nothing .none
  · rw [h, ← ho]
    exact hs
  · rw [ho] at hs
    rw [h]
    exact hs

theorem settles_close (hn : cn.Native) : cn.close.Obeys (Settles cn.backend) := by
  have hclose : ∀ s, Settles cn.backend s (Failure.of? (cn.closeEngine.onSession s).1)
      (cn.closeEngine.onSession s).2 := by
    intro s
    rw [closeEngine, hn.engine]
    cases cn.backend with
    | sqlite => exact Sqlite.settles_closeEngine s
    | mysql => exact Mysql.settles_closeEngine s
  intro s
  have hs := hclose s
  rcases cn.close_cases s with ⟨-, h⟩ | ⟨-, t, ⟨f, hl, h⟩ | ⟨hl, h⟩⟩
  · rw [h]
    exact .nothing .none
  · rw [h, ← hl]
    exact hs
  · rw [hl] at hs
    rw [h]
    exact hs

theorem settles_statement (hn : cn.Native) (text : Value) (params : List Value) (s : Session) :
    Settles cn.backend s (Failure.of? ((cn.statement text params).onSession s).1)
      ((cn.statement text params).onSession s).2 := by
  have hs : Settles cn.backend s (Failure.of? ((cn.executeOn text params).onSession s).1)
      ((cn.executeOn text params).onSession s).2 := by
    rw [executeOn, hn.engine]
    cases cn.backend with
    | sqlite => exact Sqlite.settles_execute text params s
    | mysql => exact Mysql.settles_execute text params s
  rcases cn.statement_cases text params s with ⟨t, ⟨result, he, h⟩ | ⟨f, he, h⟩ | ⟨f, -, he, h⟩⟩
  · rw [he] at hs
    rw [h]
    exact hs
  · -- the fault gets a context of its own and keeps its cause
    rw [he] at hs
    obtain ⟨calls, used, htranscript, hused, hpass⟩ := hs
    rw [h]
    refine ⟨calls, used, htranscript, hused, fun e hd => ?_⟩
    obtain ⟨hiff, hrecast⟩ := hpass e hd
    refine ⟨?_, fun hstop hnot => ?_⟩
    · rw [← hiff]
      exact iff_of_false (NotOfDriver.fault _ e hd) (NotOfDriver.fault _ e hd)
    · obtain ⟨g, hg, hcause⟩ := hrecast hstop hnot
      cases hg
      exact ⟨_, rfl, hcause⟩
  · rw [h, ← he]
    exact hs

theorem governs_settles (hn : cn.Native) : cn.Governs (Settles cn.backend) where
  idle _ := .nothing .none
  refused _ r := .nothing (.refused r)
  unidentified _ _ := .nothing (.fault _)
  trans := .trans
  bound _ _ h := h
  connect := settles_connect hn
  statement text params s _ := settles_statement hn text params s

/-- A failure of the driver's own family leaves an operation as it is exactly when closing the driver
connection, or giving one back to the pool, raised it last. If it stops the operation anywhere else, the
operation ends in a fault that has it for its cause. -/
theorem driver_failure_recast_unless_disposing (hm : cn.Made) (script : Script)
    (context : LogContext) (ops : List Operation) (op : Operation) (hp : op.isPublic = true) :
    let s := cn.sessionAfter { script, context } ops
    let r := (cn.perform op).onSession s
    ∃ calls used, r.2.transcript = s.transcript ++ calls ∧
      s.script.statements = used ++ r.2.script.statements ∧
      ∀ e : EngineError, e.kind.isDriver = true →
        (r.1 = .error (.engine e) ↔ EndsDisposing calls e) ∧
        (stopper? cn.backend calls used = some e → ¬ EndsDisposing calls e →
          ∃ f, r.1 = .error (.fault f) ∧ f.cause = some e.asCause) := by
  intro s r
  have hn := hm.native
  have hr : Settles cn.backend s (Failure.of? r.1) r.2 :=
    (governs_settles hn).obeys_perform hn hp (fun _ => settles_close hn) s
  obtain ⟨calls, used, htranscript, hused, hpass⟩ := hr
  refine ⟨calls, used, htranscript, hused, fun e he => ?_⟩
  obtain ⟨hiff, hrecast⟩ := hpass e he
  have hfailure : ∀ f, Failure.of? r.1 = some f ↔ r.1 = .error f := by
    intro f
    cases r.1 <;> simp [Failure.of?]
  rw [hfailure] at hiff
  refine ⟨hiff, fun hstop hnot => ?_⟩
  obtain ⟨f, hf, hcause⟩ := hrecast hstop hnot
  exact ⟨f, (hfailure _).mp hf, hcause⟩

/-- Fetching rows fails and leaves a fault. What giving the connection back raises takes the place of the
fault in which the statement would have ended. -/
theorem driver_failure_recast_unless_released :
    let locked : EngineError := ⟨.driver "OperationalError", "database is locked"⟩
    let gone : EngineError := ⟨.driver "InterfaceError", "connection gone"⟩
    let fetching : Script := { statements := [{ fetch := some locked }] }
    let releasing : Script :=
      { statements := [{ execute := some ⟨.integrity, "duplicate entry"⟩, release := some gone }] }
    let op : Operation := .nonQuery (.text "DELETE FROM t") (.list [])
    (∃ f, (((ofSqliteArguments .sqlite []).perform op).onSession { script := fetching }).1 =
        .error (.fault f) ∧ f.cause = some locked.asCause) ∧
      (((ofMysqlArguments .mysql []).perform op).onSession { script := releasing }).1 =
        .error (.engine gone) := by
  intro locked gone fetching releasing op
  constructor
  · have hm : (ofSqliteArguments .sqlite []).Made := ⟨.sqlite, .inl ⟨[], rfl⟩⟩
    obtain ⟨calls, used, htranscript, hused, hpass⟩ :=
      driver_failure_recast_unless_disposing hm fetching [] [] op rfl
    have hcalls : calls = _ := htranscript.symm
    have hreplies : used ++ [] = fetching.statements := hused.symm
    rw [List.append_nil] at hreplies
    refine (hpass locked rfl).2 ?_ ?_
    · rw [hcalls, hreplies]
      rfl
    · rw [hcalls]
      exact not_endsDisposing_of_disposes (by decide) locked
  · have hm : (ofMysqlArguments .mysql []).Made := ⟨.mysql, .inl ⟨[], rfl⟩⟩
    obtain ⟨calls, used, htranscript, -, hpass⟩ :=
      driver_failure_recast_unless_disposing hm releasing [] [] op rfl
    refine (hpass gone rfl).1.mpr ?_
    have hcalls : calls = _ := htranscript.symm
    rw [hcalls]
    exact ⟨_, rfl, rfl, rfl⟩

/-- Closing an SQLite connection ends in what the driver raised and not in a fault. -/
theorem close_passes_driver_failure_on :
    let cn := ofSqliteArguments .sqlite []
    let busy : EngineError := ⟨.driver "OperationalError", "busy"⟩
    let s := cn.sessionAfter { script := { closings := [some busy] } } [.connect]
    ((cn.perform .close).onSession s).1 = .error (.engine busy) :=
  rfl

end Connection

end DataFetch
