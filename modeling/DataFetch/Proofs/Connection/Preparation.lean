import DataFetch.Proofs.Connection.Rule
import DataFetch.Proofs.Engine.Sqlite

/-! # Driver connections are set up before they are used

A driver connection of SQLite is held as soon as it was opened, also when setting it up fails, but
statements run only while the connection counts as open. Main statement: whatever was asked of the
connection before, a statement runs on a driver connection that was set up completely.
-/
namespace DataFetch

namespace Call

def isSetting : Call → Bool
  | pragma _ => true
  | _ => false

def isStatement : Call → Bool
  | execute _ _ => true
  | _ => false

end Call

/-- Some calls set up driver connection `n`: foreign keys are checked and, where nothing may be written,
writing is refused after that. -/
def SetUpBy (readonly : Bool) (n : Nat) (calls : List Exchange) : Prop :=
  ∃ earlier later, calls = earlier ++ ⟨n, .pragma Sqlite.foreignKeysPragma, none⟩ :: later ∧
    (readonly = true → ⟨n, .pragma Sqlite.queryOnlyPragma, none⟩ ∈ later)

/-- No attempt to set up driver connection `n` failed. -/
def NeverFailed (n : Nat) (calls : List Exchange) : Prop :=
  ∀ x ∈ calls, x.object = n → x.call.isSetting = true → x.raised = none

theorem SetUpBy.append {readonly : Bool} {n : Nat} {calls : List Exchange}
    (h : SetUpBy readonly n calls) (more : List Exchange) : SetUpBy readonly n (calls ++ more) := by
  obtain ⟨earlier, later, rfl, hlater⟩ := h
  refine ⟨earlier, later ++ more, by simp, fun hr => ?_⟩
  exact List.mem_append_left more (hlater hr)

theorem SetUpBy.append_left {readonly : Bool} {n : Nat} {calls : List Exchange}
    (h : SetUpBy readonly n calls) (before : List Exchange) :
    SetUpBy readonly n (before ++ calls) := by
  obtain ⟨earlier, later, rfl, hlater⟩ := h
  exact ⟨before ++ earlier, later, by simp, hlater⟩

theorem NeverFailed.append {n : Nat} {calls more : List Exchange} (h : NeverFailed n calls)
    (hmore : NeverFailed n more) : NeverFailed n (calls ++ more) := by
  intro x hx
  rcases List.mem_append.mp hx with hx | hx
  · exact h x hx
  · exact hmore x hx

/-- The driver connection that is held is set up, and nothing failed to. -/
def Session.Ready (readonly : Bool) (s : Session) : Prop :=
  ∃ n, s.handle = some n ∧ n ≤ s.made ∧ SetUpBy readonly n s.transcript ∧
    NeverFailed n s.transcript

/-- Statements ran on driver connections that had been set up, and the next one will. -/
structure Session.Prepared (readonly : Bool) (s : Session) : Prop where
  made : ∀ x ∈ s.transcript, x.call.isSetting = true ∨ x.call.isStatement = true → x.object ≤ s.made
  ready : s.connected = true → s.Ready readonly
  statements : ∀ before x after, s.transcript = before ++ x :: after → x.call.isStatement = true →
    SetUpBy readonly x.object before ∧ NeverFailed x.object s.transcript

namespace Session.Prepared

variable {readonly : Bool} {s t : Session} {calls : List Exchange}

theorem fresh (readonly : Bool) (script : Script) (context : LogContext) :
    ({ script, context } : Session).Prepared readonly :=
  ⟨by simp, by simp, by simp⟩

/-- Calls that run no statement, and that set up new driver connections only. -/
theorem append (h : s.Prepared readonly) (ht : t.transcript = s.transcript ++ calls)
    (hm : s.made ≤ t.made) (hquiet : ∀ x ∈ calls, x.call.isStatement = false)
    (hnew : ∀ x ∈ calls, x.call.isSetting = true → s.made < x.object ∧ x.object ≤ t.made)
    (hready : t.connected = true → t.Ready readonly) : t.Prepared readonly := by
  refine ⟨?_, hready, ?_⟩
  · intro x hx hcall
    rw [ht] at hx
    rcases List.mem_append.mp hx with hx | hx
    · exact Nat.le_trans (h.made x hx hcall) hm
    · rw [hquiet x hx] at hcall
      exact (hnew x hx (hcall.resolve_right Bool.false_ne_true)).2
  · intro before x after hs hx
    rw [ht] at hs ⊢
    rcases split_append hs with ⟨rest, hold, -⟩ | ⟨first, -, hin⟩
    · obtain ⟨hset, hnever⟩ := h.statements before x rest hold hx
      have hlow : x.object ≤ s.made := h.made x (by simp [hold]) (.inr hx)
      refine ⟨hset, hnever.append fun y hy hobject hsetting => ?_⟩
      -- a later setting is on another driver connection
      have hhigh := (hnew y hy hsetting).1
      omega
    · rw [hquiet x (by simp [hin])] at hx
      cases hx

/-- A statement on the driver connection that is held. -/
theorem execute (h : s.Prepared readonly) {n : Nat} (hn : s.handle = some n)
    (hc : s.connected = true) {text : Value} {params : Option (List Value)}
    {raised : Option EngineError}
    (ht : t.transcript = s.transcript ++ [⟨n, .execute text params, raised⟩])
    (hh : t.handle = s.handle) (hm : t.made = s.made) :
    t.Prepared readonly := by
  obtain ⟨held, hheld, hmade, hset, hnever⟩ := h.ready hc
  obtain rfl : held = n := Option.some.inj (hheld.symm.trans hn)
  have hone : ∀ k, NeverFailed k [⟨held, .execute text params, raised⟩] := by
    intro k x hx _ hsetting
    cases List.mem_singleton.mp hx
    cases hsetting
  constructor
  · intro x hx hcall
    rw [hm]
    rw [ht] at hx
    rcases List.mem_append.mp hx with hx | hx
    · exact h.made x hx hcall
    · cases List.mem_singleton.mp hx
      exact hmade
  · rw [Ready, ht, hh, hm]
    exact fun _ => ⟨held, hheld, hmade, hset.append _, hnever.append (hone _)⟩
  · intro before x after hs hx
    rw [ht] at hs ⊢
    rcases split_append hs with ⟨rest, hold, -⟩ | ⟨first, rfl, hin⟩
    · obtain ⟨hset, hnever⟩ := h.statements before x rest hold hx
      exact ⟨hset, hnever.append (hone _)⟩
    · cases first with
      | nil =>
        cases hin
        rw [List.append_nil]
        exact ⟨hset, hnever.append (hone _)⟩
      | cons y first => simp at hin

end Session.Prepared

namespace Sqlite

theorem setUpBy_setUpCalls {readonly : Bool} {reply : OpenReply} (number : Nat)
    (h : setUpError? readonly reply = none) :
    SetUpBy readonly number (setUpCalls number readonly reply) := by
  rw [setUpError?, Option.or_eq_none_iff] at h
  obtain ⟨hk, hq⟩ := h
  rw [setUpCalls, hk]
  refine ⟨[], _, rfl, fun hr => ?_⟩
  subst hr
  rw [if_pos rfl] at hq
  simp [hq]

theorem neverFailed_setUpCalls {readonly : Bool} {reply : OpenReply} (number n : Nat)
    (h : setUpError? readonly reply = none) :
    NeverFailed n (setUpCalls number readonly reply) := by
  rw [setUpError?, Option.or_eq_none_iff] at h
  obtain ⟨hk, hq⟩ := h
  intro x hx _ _
  rcases List.mem_cons.mp hx with rfl | hx
  · exact hk
  · cases readonly with
    | false => simp at hx
    | true =>
      rw [hk] at hx
      cases List.mem_singleton.mp hx
      exact hq

theorem of_mem_setUpCalls {number : Nat} {readonly : Bool} {reply : OpenReply} {x : Exchange}
    (hx : x ∈ setUpCalls number readonly reply) :
    x.object = number ∧ x.call.isStatement = false := by
  rcases List.mem_cons.mp hx with rfl | hx
  · exact ⟨rfl, rfl⟩
  · split at hx
    · cases List.mem_singleton.mp hx
      exact ⟨rfl, rfl⟩
    · cases hx

/-- An attempt to open the engine makes a new driver connection, which is ready if it succeeds. -/
theorem prepared_openEngine (cn : Connection) {s : Session}
    (hs : s.Prepared cn.config.readonly.isTruthy) (hc : s.connected = false) :
    let r := (openEngine cn).onSession s
    r.2.Prepared cn.config.readonly.isTruthy ∧
      (Failure.of? r.1 = none → r.2.Ready cn.config.readonly.isTruthy) := by
  have hclosed : ∀ t : Session, t.connected = s.connected → t.connected = true →
      t.Ready cn.config.readonly.isTruthy := by
    intro t ht h
    rw [ht, hc] at h
    cases h
  rw [onSession_openEngine]
  cases addressFlag (Config.openPath cn.config.path) with
  | error m => exact ⟨hs, by simp [Failure.of?]⟩
  | ok address =>
    dsimp only
    cases s.script.opening.opening with
    | some e =>
      refine ⟨?_, by simp [Failure.of?]⟩
      refine hs.append rfl (Nat.le_refl _) ?_ ?_ (hclosed _ rfl)
      · simp [Call.isStatement]
      · simp [Call.isSetting]
    | none =>
      constructor
      · refine hs.append rfl (Nat.le_succ _) ?_ ?_ (hclosed _ rfl)
        · intro x hx
          rcases List.mem_cons.mp hx with rfl | hx
          · rfl
          · exact (of_mem_setUpCalls hx).2
        · intro x hx hsetting
          rcases List.mem_cons.mp hx with rfl | hx
          · cases hsetting
          · rw [(of_mem_setUpCalls hx).1]
            exact ⟨Nat.lt_succ_self _, Nat.le_refl _⟩
      · intro hok
        have hset : setUpError? cn.config.readonly.isTruthy s.script.opening = none := by
          cases hu : setUpError? cn.config.readonly.isTruthy s.script.opening with
          | none => rfl
          | some e =>
            rw [hu] at hok
            cases hok
        refine ⟨s.made + 1, rfl, Nat.le_refl _, ?_, ?_⟩
        · rw [← List.singleton_append, ← List.append_assoc]
          exact (setUpBy_setUpCalls _ hset).append_left _
        · intro x hx hobject hsetting
          rcases List.mem_append.mp hx with hx | hx
          · -- the number is new, so that nothing was set up under it before
            have hlow := hs.made x hx (.inl hsetting)
            omega
          · rcases List.mem_cons.mp hx with rfl | hx
            · rfl
            · exact neverFailed_setUpCalls _ _ hset x hx hobject hsetting

end Sqlite

namespace Connection

variable {cn : Connection} {s : Session}

theorem prepared_connect (hn : cn.Native) (hb : cn.backend = .sqlite)
    (hs : s.Prepared cn.config.readonly.isTruthy) :
    (cn.connect.onSession s).2.Prepared cn.config.readonly.isTruthy := by
  have hopen : cn.openEngine = Sqlite.openEngine cn := by
    rw [openEngine, hn.engine, hb]
    rfl
  rcases hn.connect_cases s with ⟨-, h⟩ | ⟨hc, t, ho⟩
  · rw [h]
    exact hs
  · obtain ⟨ht, hready⟩ := Sqlite.prepared_openEngine cn hs hc
    rw [← hopen] at ht hready
    rcases ho with ⟨f, ho, h⟩ | ⟨ho, h⟩
    · rw [ho] at ht
      rw [h]
      exact ht
    · rw [ho] at ht hready
      rw [h]
      exact ⟨ht.made, fun _ => hready rfl, ht.statements⟩

theorem prepared_statement (hn : cn.Native) (hb : cn.backend = .sqlite) (text : Value)
    (params : List Value) {readonly : Bool} (hs : s.Prepared readonly) (hc : s.connected = true) :
    ((cn.statement text params).onSession s).2.Prepared readonly := by
  have ht : ((cn.executeOn text params).onSession s).2.Prepared readonly := by
    rw [executeOn, hn.engine, hb]
    simp only [Backend.engine]
    rw [Sqlite.onSession_execute]
    cases hh : s.handle with
    | none => exact hs
    | some h => exact hs.execute hh hc rfl hh.symm rfl
  rcases cn.statement_cases text params s with ⟨t, ⟨result, he, h⟩ | ⟨f, he, h⟩ | ⟨f, -, he, h⟩⟩
  all_goals
    rw [he] at ht
    rw [h]
    exact ⟨ht.made, ht.ready, ht.statements⟩

theorem prepared_close (hn : cn.Native) (hb : cn.backend = .sqlite) {readonly : Bool}
    (hs : s.Prepared readonly) : (cn.close.onSession s).2.Prepared readonly := by
  have hclose : cn.closeEngine = Sqlite.closeEngine := by
    rw [closeEngine, hn.engine, hb]
    rfl
  rw [onSession_close, hclose, Sqlite.onSession_closeEngine]
  cases hc : s.connected with
  | false => exact hs
  | true =>
    rw [if_pos rfl]
    cases hh : s.handle with
    | none => exact ⟨hs.made, fun h => (Bool.false_ne_true h).elim, hs.statements⟩
    | some h =>
      dsimp only
      cases s.script.closing with
      | some e =>
        obtain ⟨held, hheld, hmade, hset, hnever⟩ := hs.ready hc
        obtain rfl : held = h := Option.some.inj (hheld.symm.trans hh)
        have hnever' : NeverFailed held (s.transcript ++ [⟨held, .close, some e⟩]) :=
          hnever.append (by simp [NeverFailed, Call.isSetting])
        refine hs.append rfl (Nat.le_refl _) ?_ ?_ fun _ => ?_
        · simp [Call.isStatement]
        · simp [Call.isSetting]
        · exact ⟨_, rfl, hmade, hset.append _, hnever'⟩
      | none =>
        refine hs.append rfl (Nat.le_refl _) ?_ ?_ fun h => (Bool.false_ne_true h).elim
        · simp [Call.isStatement]
        · simp [Call.isSetting]

theorem governs_prepared (hn : cn.Native) (hb : cn.backend = .sqlite) :
    cn.Governs fun s _ t => s.Prepared cn.config.readonly.isTruthy →
      t.Prepared cn.config.readonly.isTruthy where
  idle _ := id
  refused _ _ := id
  unidentified _ _ := id
  trans hst htu hs := htu (hst hs)
  bound c d h hs := by
    have ht := h ⟨hs.made, hs.ready, hs.statements⟩
    exact ⟨ht.made, ht.ready, ht.statements⟩
  connect s hs := prepared_connect hn hb hs
  statement text params s hc hs := prepared_statement hn hb text params hs hc

/-- After any operations, every statement that ran was preceded on its driver connection by the settings
of the connection, none of which failed on it. -/
theorem statements_follow_set_up (hm : cn.Made) (hb : cn.backend = .sqlite) (script : Script)
    (context : LogContext) (ops : List Operation) (hops : ∀ op ∈ ops, op.isPublic = true) :
    let s := cn.sessionAfter { script, context } ops
    ∀ before n text params raised after,
      s.transcript = before ++ ⟨n, .execute text params, raised⟩ :: after →
      (∃ earlier later, before = earlier ++ ⟨n, .pragma "PRAGMA foreign_keys = ON", none⟩ :: later ∧
        (cn.config.readonly.isTruthy = true → ⟨n, .pragma "PRAGMA query_only = ON", none⟩ ∈ later)) ∧
      ∀ setting e, ⟨n, .pragma setting, some e⟩ ∉ s.transcript := by
  have hn := hm.native
  intro s before n text params raised after h
  have hs : s.Prepared cn.config.readonly.isTruthy := by
    apply sessionAfter_keeps (P := fun s => s.Prepared cn.config.readonly.isTruthy)
    · intro op hop s hs
      exact (governs_prepared hn hb).obeys_perform hn (hops op hop)
        (fun _ s hs => prepared_close hn hb hs) s hs
    · exact .fresh _ script context
  obtain ⟨hset, hnever⟩ := hs.statements before _ after h rfl
  refine ⟨hset, fun setting e hmem => ?_⟩
  cases hnever _ hmem rfl rfl

/-- Opening fails with its last setting, the next statement opens the connection again, closing fails,
and a second statement runs. -/
theorem statements_follow_set_up_after_failures :
    let cn := ofSqliteArguments .sqlite [("readonly", .bool true)]
    let busy : EngineError := ⟨.driver "OperationalError", "busy"⟩
    let script : Script := { openings := [{ queryOnly := some busy }], closings := [some busy] }
    let s := cn.sessionAfter { script } [.connect, .array (.text "SELECT 1") (.list []), .close,
      .array (.text "SELECT 2") (.list [])]
    (∃ before, s.transcript = before ++ [⟨2, .execute (.text "SELECT 2") (some []), none⟩] ∧
      ∃ earlier later, before = earlier ++ ⟨2, .pragma "PRAGMA foreign_keys = ON", none⟩ :: later ∧
        ⟨2, .pragma "PRAGMA query_only = ON", none⟩ ∈ later) ∧
      ⟨1, .pragma "PRAGMA query_only = ON", some busy⟩ ∈ s.transcript := by
  intro cn busy script s
  have hm : cn.Made := ⟨.sqlite, .inl ⟨[("readonly", .bool true)], rfl⟩⟩
  have h := statements_follow_set_up hm rfl script [] [.connect,
    .array (.text "SELECT 1") (.list []), .close, .array (.text "SELECT 2") (.list [])] (by decide)
  have hsplit : s.transcript =
      s.transcript.dropLast ++ [⟨2, .execute (.text "SELECT 2") (some []), none⟩] := rfl
  obtain ⟨⟨earlier, later, hbefore, hlater⟩, -⟩ := h _ _ _ _ _ _ hsplit
  refine ⟨⟨_, hsplit, earlier, later, hbefore, hlater rfl⟩, ?_⟩
  exact List.mem_iff_getElem.mpr ⟨2, by decide, rfl⟩

end Connection

end DataFetch
