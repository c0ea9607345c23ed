import DataFetch.Proofs.Connection.Rule
import DataFetch.Proofs.Engine.Sqlite

/-! # Driver connections that are left open

Every driver connection of SQLite that was opened has been closed, is the one in use or was left open
when setting it up failed. Main statement: at every point between operations the three make up all that
were opened, so that a connection is left open for each failed setting up and for no other reason.
-/
namespace DataFetch

namespace Exchange

def openedConnection (x : Exchange) : Bool :=
  match x.call with
  | .connect _ _ => x.raised.isNone
  | _ => false

def closedConnection (x : Exchange) : Bool :=
  match x.call with
  | .close => x.raised.isNone
  | _ => false

/-- Did setting up a driver connection fail with the call? -/
def failedSetUp (x : Exchange) : Bool :=
  match x.call with
  | .pragma _ => x.raised.isSome
  | _ => false

end Exchange

/-- The driver connections that were opened are accounted for, and the one in use is held. -/
structure Session.Balanced (s : Session) : Prop where
  balance : s.transcript.countP Exchange.openedConnection =
    s.transcript.countP Exchange.closedConnection + s.transcript.countP Exchange.failedSetUp +
      s.connected.toNat
  held : s.connected = true → s.handle.isSome = true

theorem Session.balanced_fresh (script : Script) (context : LogContext) :
    ({ script, context } : Session).Balanced :=
  ⟨rfl, fun h => absurd h Bool.false_ne_true⟩

/-- Calls that open, close and set up nothing keep the balance. -/
theorem Session.Balanced.of_transcript_eq {s t : Session} (h : s.Balanced) {calls : List Exchange}
    (ht : t.transcript = s.transcript ++ calls) (hc : t.connected = s.connected)
    (hh : s.connected = true → t.handle.isSome = true)
    (hopen : calls.countP Exchange.openedConnection = calls.countP Exchange.failedSetUp)
    (hclose : calls.countP Exchange.closedConnection = 0) : t.Balanced := by
  have hb := h.balance
  constructor
  · rw [ht, hc, List.countP_append, List.countP_append, List.countP_append]
    omega
  · rw [hc]
    exact hh

namespace Sqlite

theorem countP_failedSetUp_setUpCalls (number : Nat) (readonly : Bool) (reply : OpenReply) :
    (setUpCalls number readonly reply).countP Exchange.failedSetUp =
      (setUpError? readonly reply).isSome.toNat := by
  rw [setUpCalls, setUpError?]
  cases reply.foreignKeys with
  | some e => rfl
  | none =>
    cases readonly with
    | false => rfl
    | true => cases reply.queryOnly <;> rfl

theorem countP_setUpCalls_eq_zero {p : Exchange → Bool}
    (hp : ∀ number text raised, p ⟨number, .pragma text, raised⟩ = false) (number : Nat)
    (readonly : Bool) (reply : OpenReply) :
    (setUpCalls number readonly reply).countP p = 0 := by
  rw [setUpCalls, List.countP_cons_of_neg (by simp [hp])]
  split
  · rw [List.countP_cons_of_neg (by simp [hp]), List.countP_nil]
  · exact List.countP_nil

end Sqlite

namespace Connection

variable {cn : Connection}

/-- Opening the engine adds one driver connection, which is in use unless setting it up failed. -/
theorem balanced_openEngine (hn : cn.Native) (hb : cn.backend = .sqlite) {s : Session}
    (hs : s.Balanced) (hc : s.connected = false) :
    let r := cn.openEngine.onSession s
    (Failure.of? r.1 = none → (cn.openedIn r.2).Balanced) ∧
      (Failure.of? r.1 ≠ none → r.2.Balanced) := by
  rw [openEngine, hn.engine, hb]
  simp only [Backend.engine]
  rw [Sqlite.onSession_openEngine]
  have hnever : s.connected = true → ∀ h : Option Nat, h.isSome = true :=
    fun h => absurd h (Bool.eq_false_iff.mp hc)
  cases Sqlite.addressFlag (Config.openPath cn.config.path) with
  | error m => exact ⟨fun h => absurd h (Option.some_ne_none _), fun _ => hs⟩
  | ok address =>
    dsimp only
    cases s.script.opening.opening with
    | some e =>
      refine ⟨fun h => absurd h (Option.some_ne_none _), fun _ => ?_⟩
      exact hs.of_transcript_eq rfl rfl (fun h => hnever h _) rfl rfl
    | none =>
      have hsetup := Sqlite.countP_failedSetUp_setUpCalls (s.made + 1) cn.config.readonly.isTruthy
        s.script.opening
      have hopened := Sqlite.countP_setUpCalls_eq_zero (p := Exchange.openedConnection)
        (fun _ _ _ => rfl) (s.made + 1) cn.config.readonly.isTruthy s.script.opening
      have hclosed := Sqlite.countP_setUpCalls_eq_zero (p := Exchange.closedConnection)
        (fun _ _ _ => rfl) (s.made + 1) cn.config.readonly.isTruthy s.script.opening
      cases hu : Sqlite.setUpError? cn.config.readonly.isTruthy s.script.opening with
      | some e =>
        rw [hu] at hsetup
        simp only [Sqlite.setUpOutcome]
        refine ⟨fun h => absurd h (Option.some_ne_none _), fun _ => ?_⟩
        refine hs.of_transcript_eq rfl rfl (fun _ => rfl) ?_ ?_
        · rw [List.countP_cons_of_pos rfl, List.countP_cons_of_neg Bool.false_ne_true, hsetup,
            hopened]
          rfl
        · rw [List.countP_cons_of_neg Bool.false_ne_true, hclosed]
      | none =>
        rw [hu] at hsetup
        have hbalance := hs.balance
        rw [hc] at hbalance
        simp only [Sqlite.setUpOutcome]
        refine ⟨fun _ => ⟨?_, fun _ => rfl⟩, fun h => absurd rfl h⟩
        simp only [openedIn, Session.logged, List.countP_append]
        rw [List.countP_cons_of_pos rfl, List.countP_cons_of_neg Bool.false_ne_true,
          List.countP_cons_of_neg Bool.false_ne_true, hsetup, hopened, hclosed]
        simp only [Option.isSome_none, Bool.toNat_false, Bool.toNat_true] at hbalance ⊢
        omega

theorem balanced_connect (hn : cn.Native) (hb : cn.backend = .sqlite) {s : Session}
    (hs : s.Balanced) : (cn.connect.onSession s).2.Balanced := by
  rcases hn.connect_cases s with ⟨-, h⟩ | ⟨hc, t, ⟨f, ho, h⟩ | ⟨ho, h⟩⟩
  · rw [h]
    exact hs
  · have hopen := (balanced_openEngine hn hb hs hc).2
    rw [ho] at hopen
    rw [h]
    exact hopen (by simp [Failure.of?])
  · have hopen := (balanced_openEngine hn hb hs hc).1
    rw [ho] at hopen
    rw [h]
    exact hopen rfl

theorem balanced_statement (hn : cn.Native) (hb : cn.backend = .sqlite) (text : Value)
    (params : List Value) {s : Session} (hs : s.Balanced) :
    ((cn.statement text params).onSession s).2.Balanced := by
  have ht : ((cn.executeOn text params).onSession s).2.Balanced := by
    rw [executeOn, hn.engine, hb]
    simp only [Backend.engine]
    rw [Sqlite.onSession_execute]
    cases s.handle with
    | none => exact hs
    | some h => exact hs.of_transcript_eq rfl rfl (fun _ => rfl) rfl rfl
  rcases cn.statement_cases text params s with ⟨t, ⟨result, he, h⟩ | ⟨f, he, h⟩ | ⟨f, -, he, h⟩⟩
  all_goals
    rw [he] at ht
    rw [h]
  · exact ⟨ht.balance, ht.held⟩
  · exact ⟨ht.balance, ht.held⟩
  · exact ht

theorem balanced_close (hn : cn.Native) (hb : cn.backend = .sqlite) {s : Session}
    (hs : s.Balanced) : (cn.close.onSession s).2.Balanced := by
  rw [onSession_close]
  cases hc : s.connected with
  | false => exact hs
  | true =>
    rw [if_pos rfl, closeEngine, hn.engine, hb]
    simp only [Backend.engine]
    rw [Sqlite.onSession_closeEngine]
    obtain ⟨h, hh⟩ := Option.isSome_iff_exists.mp (hs.held hc)
    rw [hh]
    dsimp only
    cases s.script.closing with
    | some e => exact hs.of_transcript_eq rfl rfl (fun _ => rfl) rfl rfl
    | none =>
      have hbalance := hs.balance
      refine ⟨?_, fun h => absurd h Bool.false_ne_true⟩
      rw [hc] at hbalance
      simp only [closedIn, Session.logged, List.countP_append, List.countP_singleton,
        Exchange.openedConnection, Exchange.closedConnection, Exchange.failedSetUp,
        Option.isNone_none, Bool.toNat_false, Bool.toNat_true, if_true, Bool.false_eq_true,
        if_false] at hbalance ⊢
      omega

theorem governs_balanced (hn : cn.Native) (hb : cn.backend = .sqlite) :
    cn.Governs fun s _ t => s.Balanced → t.Balanced where
  idle _ := id
  refused _ _ := id
  unidentified _ _ := id
  trans hst htu hs := htu (hst hs)
  bound c d h hs := by
    have ht := h ⟨hs.balance, hs.held⟩
    exact ⟨ht.balance, ht.held⟩
  connect s hs := balanced_connect hn hb hs
  statement text params s _ hs := balanced_statement hn hb text params hs

/-- After any operations the driver connections that were opened are those that were closed, those whose
setting up failed and, while connected, the one in use. -/
theorem opened_connections_accounted_for (hm : cn.Made) (hb : cn.backend = .sqlite)
    (script : Script) (context : LogContext) (ops : List Operation)
    (hops : ∀ op ∈ ops, op.isPublic = true) :
    let s := cn.sessionAfter { script, context } ops
    s.transcript.countP Exchange.openedConnection =
      s.transcript.countP Exchange.closedConnection + s.transcript.countP Exchange.failedSetUp +
        s.connected.toNat := by
  have hn := hm.native
  have hs : (cn.sessionAfter { script, context } ops).Balanced := by
    apply sessionAfter_keeps (P := Session.Balanced)
    · intro op hop s hs
      have hclose : op.closes = true →
          cn.close.Obeys fun s _ t => s.Balanced → t.Balanced :=
        fun _ s hs => balanced_close hn hb hs
      exact (governs_balanced hn hb).obeys_perform hn (hops op hop) hclose s hs
    · exact Session.balanced_fresh script context
  exact hs.balance

/-- Two attempts to open that fail with their settings, one statement that opens the connection and a
closing leave two driver connections open. -/
theorem opened_connections_accounted_for_after_failures :
    let cn := ofSqliteArguments .sqlite [("readonly", .bool true)]
    let busy : EngineError := ⟨.driver "OperationalError", "busy"⟩
    let script : Script :=
      { openings := [{ foreignKeys := some busy }, { queryOnly := some busy }] }
    let s := cn.sessionAfter { script }
      [.connect, .enter, .scalar (.text "SELECT 1") (.list []), .close]
    s.connected = false ∧ s.transcript.countP Exchange.closedConnection = 1 ∧
      s.transcript.countP Exchange.openedConnection = 1 + 2 := by
  intro cn busy script s
  have hm : cn.Made := ⟨.sqlite, .inl ⟨[("readonly", .bool true)], rfl⟩⟩
  have h := opened_connections_accounted_for hm rfl script []
    [.connect, .enter, .scalar (.text "SELECT 1") (.list []), .close] (by decide)
  have hconnected : s.connected = false := rfl
  have hclosed : s.transcript.countP Exchange.closedConnection = 1 := by decide +kernel
  have hfailed : s.transcript.countP Exchange.failedSetUp = 2 := by decide +kernel
  refine ⟨hconnected, hclosed, ?_⟩
  rw [h, hclosed, hfailed, hconnected]
  rfl

/-- Opening that fails with its settings leaves the driver connection open that it was given. -/
theorem failed_connect_leaves_connection_open :
    let cn := ofSqliteArguments .sqlite []
    let script : Script :=
      { openings :=
          [{ foreignKeys := some ⟨.driver "OperationalError", "unable to open database"⟩ }] }
    let r := (cn.perform .connect).onSession { script }
    (∃ f, r.1 = .error (.fault f) ∧ f.kind = .connection) ∧ r.2.connected = false ∧
      r.2.transcript.countP Exchange.openedConnection = 1 ∧
      r.2.transcript.countP Exchange.closedConnection = 0 :=
  ⟨⟨_, rfl, rfl⟩, rfl, rfl, rfl⟩

end Connection

end DataFetch
