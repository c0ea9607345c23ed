import DataFetch.Log.Setup
import DataFetch.Proofs.Connection.Fetch
import DataFetch.Proofs.Log.Context

/-! # Scopes around fetches

What is bound in the log context while scopes and fetches run inside one another, whatever they end in.
Main statement: inside a scope its values lie over what was bound around it, and the events of a fetch
name its table; afterwards the names of all scopes that were entered are bound no more, so that a context
comes back as it was exactly when it bound none of them.
-/
namespace DataFetch

/-! ## Steps that leave the context alone -/

/-- The context stays, and what is logged carries it. -/
def Run.Steady {α : Type} (m : Run α) : Prop :=
  ∀ s, (m.onSession s).2.context = s.context ∧
    ∃ events, (m.onSession s).2.events = s.events ++ events ∧ ∀ e ∈ events, e.context = s.context

namespace Run.Steady

variable {α β : Type} {m : Run α}

theorem of_quiet (h : ∀ s, (m.onSession s).2.context = s.context ∧
    (m.onSession s).2.events = s.events) : m.Steady :=
  fun s => ⟨(h s).1, [], (h s).2.trans (List.append_nil _).symm, List.forall_mem_nil _⟩

theorem pure (a : α) : (Pure.pure a : Run α).Steady :=
  of_quiet fun _ => ⟨rfl, rfl⟩

theorem get : (MonadState.get : Run Session).Steady :=
  of_quiet fun _ => ⟨rfl, rfl⟩

theorem fail (f : Failure) : (Run.fail f : Run α).Steady :=
  of_quiet fun _ => ⟨rfl, rfl⟩

theorem liftMisuse (c : Except Misuse α) : (Run.liftMisuse c).Steady := by
  cases c <;> exact of_quiet fun _ => ⟨rfl, rfl⟩

theorem modify {f : Session → Session} (h : ∀ s, (f s).context = s.context ∧ (f s).events = s.events) :
    (MonadState.modifyGet fun s => ((), f s) : Run Unit).Steady :=
  of_quiet h

theorem exchange (object : Nat) (call : Call) (raised : Option EngineError) :
    (Run.exchange object call raised).Steady := by
  refine of_quiet fun s => ?_
  rw [onSession_exchange]
  exact ⟨rfl, rfl⟩

theorem nextOpening : Run.nextOpening.Steady := by
  refine of_quiet fun s => ?_
  rw [onSession_nextOpening]
  exact ⟨rfl, rfl⟩

theorem nextCheckout : Run.nextCheckout.Steady := by
  refine of_quiet fun s => ?_
  rw [onSession_nextCheckout]
  exact ⟨rfl, rfl⟩

theorem nextStatement : Run.nextStatement.Steady := by
  refine of_quiet fun s => ?_
  rw [onSession_nextStatement]
  exact ⟨rfl, rfl⟩

theorem nextNumber : Run.nextNumber.Steady :=
  of_quiet fun _ => ⟨rfl, rfl⟩

theorem emit (level : LogLevel) (name : String) (fields : Record) :
    (Run.emit level name fields).Steady := by
  intro s
  refine ⟨rfl, [⟨level, name, fields, s.context⟩], rfl, fun e he => ?_⟩
  cases List.mem_singleton.mp he
  rfl

/-- One step after another, where both leave the context alone. -/
theorem trans {s t u : Session} (ht : t.context = s.context ∧
      ∃ events, t.events = s.events ++ events ∧ ∀ e ∈ events, e.context = s.context)
    (hu : u.context = t.context ∧
      ∃ events, u.events = t.events ++ events ∧ ∀ e ∈ events, e.context = t.context) :
    u.context = s.context ∧
      ∃ events, u.events = s.events ++ events ∧ ∀ e ∈ events, e.context = s.context := by
  obtain ⟨hct, first, hfirst, hs⟩ := ht
  obtain ⟨hcu, rest, hrest, ht⟩ := hu
  refine ⟨hcu.trans hct, first ++ rest, ?_, fun e he => ?_⟩
  · rw [hrest, hfirst, List.append_assoc]
  · rcases List.mem_append.mp he with he | he
    · exact hs e he
    · exact (ht e he).trans hct

theorem bind {f : α → Run β} (hm : m.Steady) (hf : ∀ a, (f a).Steady) : (m >>= f).Steady := by
  intro s
  have hs := hm s
  rw [onSession_bind]
  cases hr : m.onSession s with
  | mk outcome t =>
    rw [hr] at hs
    cases outcome with
    | error e => exact hs
    | ok a => exact trans hs (hf a t)

theorem mapEngineError (recast : EngineError → Failure) (hm : m.Steady) :
    (Run.mapEngineError recast m).Steady := by
  intro s
  have hs := hm s
  rw [onSession_mapEngineError]
  split
  · rename_i e t hr
    rw [hr] at hs
    exact hs
  · exact hs

theorem andFinally {cleanup : Run Unit} (hm : m.Steady) (hc : cleanup.Steady) :
    (Run.andFinally m cleanup).Steady := by
  intro s
  have hs := trans (hm s) (hc (m.onSession s).2)
  rw [onSession_andFinally]
  split
  · rename_i u hr
    rw [hr] at hs
    exact hs
  · rename_i f u hr
    rw [hr] at hs
    exact hs

theorem onFault {handler : Fault → Run α} (hm : m.Steady) (hh : ∀ f, (handler f).Steady) :
    (Run.onFault m handler).Steady := by
  intro s
  have hs := hm s
  rw [onSession_onFault]
  split
  · rename_i f t hr
    rw [hr] at hs
    exact trans hs (hh f t)
  · exact hs

end Run.Steady

namespace Connection

open Run

variable (cn : Connection)

theorem steady_openEngine : cn.openEngine.Steady := by
  rw [openEngine]
  cases cn.kind.engine with
  | sqlite =>
    refine .bind (.liftMisuse _) fun address => .mapEngineError _ ?_
    refine .bind .nextOpening fun reply => .bind .nextNumber fun number => ?_
    refine .bind (.exchange _ _ _) fun _ => .bind (.modify fun _ => ⟨rfl, rfl⟩) fun _ => ?_
    refine .bind (.exchange _ _ _) fun _ => ?_
    split
    · exact .exchange _ _ _
    · exact .pure _
  | mysql =>
    refine .bind .get fun s => ?_
    split
    · refine .bind (.liftMisuse _) fun keywords => .bind .nextOpening fun reply => ?_
      refine .bind .nextNumber fun number => .bind (.mapEngineError _ (.exchange _ _ _)) fun _ => ?_
      exact .modify fun _ => ⟨rfl, rfl⟩
    · exact .fail _
  | custom =>
    refine .bind .nextOpening fun reply => .bind .nextNumber fun number => ?_
    exact .bind (.mapEngineError _ (.exchange _ _ _)) fun _ => .modify fun _ => ⟨rfl, rfl⟩

theorem steady_executeOn (text : Value) (params : List Value) :
    (cn.executeOn text params).Steady := by
  rw [executeOn]
  cases cn.kind.engine with
  | sqlite =>
    refine .bind .get fun s => ?_
    split
    · exact .fail _
    · refine .mapEngineError _ (.bind .nextStatement fun reply => .bind (.exchange _ _ _) fun _ => ?_)
      split
      · exact .fail _
      · exact .bind (.liftMisuse _) fun rows => .pure _
  | mysql =>
    have hcheckout : Mysql.checkout.Steady := by
      refine .bind .get fun s => ?_
      split
      · exact .fail _
      · refine .bind .nextCheckout fun reply => .bind .nextNumber fun number => ?_
        refine .bind (.mapEngineError _ (.exchange _ _ _)) fun _ => ?_
        exact .bind (.modify fun _ => ⟨rfl, rfl⟩) fun _ => .pure _
    have hcursor : ∀ object reply, (Mysql.withCursor object reply text params).Steady := by
      intro object reply
      refine .bind (.exchange _ _ _) fun _ => .andFinally (.bind (.exchange _ _ _) fun _ => ?_)
        (.exchange _ _ _)
      split
      · exact .bind (.exchange _ _ _) fun _ => .pure _
      · exact .pure _
    refine .bind hcheckout fun object => .bind .nextStatement fun reply => ?_
    exact .mapEngineError _ (.andFinally (.mapEngineError _ (hcursor object reply)) (.exchange _ _ _))
  | custom =>
    refine .bind .nextStatement fun reply => .bind (.bind .get fun s => .pure _) fun number => ?_
    exact .bind (.mapEngineError _ (.exchange _ _ _)) fun _ => .pure _

theorem steady_connect : cn.connect.Steady := by
  refine .bind .get fun s => ?_
  split
  · exact .pure _
  · have htarget : cn.target.Steady := by
      rw [target]
      cases cn.config.target with
      | ok v => exact .pure v
      | error f => exact .fail _
    refine .bind cn.steady_openEngine fun _ => .bind (.modify fun _ => ⟨rfl, rfl⟩) fun _ => ?_
    exact .bind htarget fun _ => .emit _ _ _

theorem steady_run (text params : Value) : (cn.run text params).Steady := by
  have hstatement : ∀ bound, (cn.statement text bound).Steady := by
    intro bound
    refine .bind (.onFault (cn.steady_executeOn text bound) fun f => ?_) fun result => ?_
    · exact .bind (.emit _ _ _) fun _ => .fail _
    · exact .bind (.emit _ _ _) fun _ => .pure _
  have hrest : (cn.statementWith text params).Steady :=
    .bind (.liftMisuse _) hstatement
  rw [run_eq]
  refine .bind .get fun s => ?_
  split
  · exact .bind cn.steady_connect fun _ => hrest
  · exact hrest

end Connection

/-! ## Scopes and fetches inside one another -/

/-- What a caller does with scopes and fetches. -/
inductive Scoped where
  | fetch (r : FetchRequest)
  | scope (entries : Record) (body : List Scoped)
  /-- Ends everything around it up to where it is caught. -/
  | raise (f : Failure)
  /-- Goes on whatever its body ends in. -/
  | attempt (body : List Scoped)

def Session.bound (s : Session) (entries : Record) : Session :=
  { s with context := s.context.bind entries }

def Session.unbound (s : Session) (names : List String) : Session :=
  { s with context := s.context.unbind names }

namespace Scoped

variable (cn : Connection)

mutual
def run : Scoped → Run Unit
  | fetch r => do
    let _ ← cn.fetch r
  | scope entries body => do
    Run.liftMisuse (LogState.scopeSignature.check 1 entries.keys)
    Run.inScope entries (runAll body)
  | raise f => Run.fail f
  | attempt body => Run.ofFunction fun s => (.ok (), ((runAll body).onSession s).2)

def runAll : List Scoped → Run Unit
  | [] => pure ()
  | x :: rest => do
    run x
    runAll rest
end

mutual
/-- The names of the scopes that are entered, those of fetches among them. -/
def entered : Scoped → Session → List String
  | fetch r, _ => if r.isWritable then ["table"] else []
  | scope entries body, s =>
    if (LogState.scopeSignature.check 1 entries.keys).isOk then
      entries.keys ++ enteredAll body (s.bound entries)
    else []
  | raise _, _ => []
  | attempt body, s => enteredAll body s

def enteredAll : List Scoped → Session → List String
  | [], _ => []
  | x :: rest, s =>
    match (run cn x).onSession s with
    | (.ok (), t) => entered x s ++ enteredAll rest t
    | (.error _, _) => entered x s
end

theorem onSession_fetch (r : FetchRequest) (s : Session) :
    ((fetch r).run cn).onSession s =
      (((cn.fetch r).onSession s).1.map fun _ => (), ((cn.fetch r).onSession s).2) := by
  rw [run, Run.onSession_bind]
  cases (cn.fetch r).onSession s with
  | mk outcome t => cases outcome <;> rfl

theorem onSession_scope {entries : Record} (body : List Scoped)
    (h : (LogState.scopeSignature.check 1 entries.keys).isOk = true) (s : Session) :
    ((scope entries body).run cn).onSession s =
      (((runAll cn body).onSession (s.bound entries)).1,
        ((runAll cn body).onSession (s.bound entries)).2.unbound entries.keys) := by
  cases hc : LogState.scopeSignature.check 1 entries.keys with
  | error m =>
    rw [hc] at h
    cases h
  | ok u =>
    rw [run, hc]
    rfl

theorem onSession_scope_of_refused {entries : Record} (body : List Scoped) {m : Misuse}
    (h : LogState.scopeSignature.check 1 entries.keys = .error m) (s : Session) :
    ((scope entries body).run cn).onSession s = (.error (.refused (.misuse m)), s) := by
  rw [run, h]
  rfl

theorem fetch_events (r : FetchRequest) (s : Session) :
    let t := ((cn.fetch r).onSession s).2
    t.context = s.context.unbind ((fetch r).entered cn s) ∧
      ∃ events, t.events = s.events ++ events ∧
        ∀ e ∈ events, e.context = s.context.bind [("table", .text r.table)] := by
  cases hw : r.isWritable with
  | false =>
    rw [Connection.onSession_fetch_of_not_writable cn hw, entered, hw]
    exact ⟨rfl, [], (List.append_nil _).symm, List.forall_mem_nil _⟩
  | true =>
    obtain ⟨hcontext, events, hevents, hcarry⟩ :=
      cn.steady_run (cn.requestText r) (.list r.boundValues) (s.naming r.table)
    rw [Connection.onSession_fetch_of_writable cn hw, entered, hw]
    refine ⟨?_, events, hevents, hcarry⟩
    exact (congrArg (LogContext.unbind · ["table"]) hcontext).trans
      (LogContext.unbind_bind s.context [("table", .text r.table)])

mutual
/-- Whatever it ends in, what is left of the context is what no scope that was entered has bound. -/
theorem context_run : ∀ (x : Scoped) (s : Session),
    ((x.run cn).onSession s).2.context = s.context.unbind (x.entered cn s)
  | fetch r, s => by
    rw [onSession_fetch]
    exact (fetch_events cn r s).1
  | scope entries body, s => by
    cases hc : LogState.scopeSignature.check 1 entries.keys with
    | error m =>
      rw [onSession_scope_of_refused cn body hc, entered, hc]
      rfl
    | ok u =>
      have hok : (LogState.scopeSignature.check 1 entries.keys).isOk = true := by rw [hc]; rfl
      have hbody := context_runAll body (s.bound entries)
      rw [onSession_scope cn body hok, entered, hok, if_pos rfl, Session.unbound, hbody,
        Session.bound, LogContext.unbind_comm, LogContext.unbind_bind, LogContext.unbind_append]
  | raise f, s => rfl
  | attempt body, s => context_runAll body s

theorem context_runAll : ∀ (xs : List Scoped) (s : Session),
    ((runAll cn xs).onSession s).2.context = s.context.unbind (enteredAll cn xs s)
  | [], s => rfl
  | x :: rest, s => by
    have hx := context_run x s
    rw [runAll, Run.onSession_bind, enteredAll]
    cases hr : (run cn x).onSession s with
    | mk outcome t =>
      rw [hr] at hx
      cases outcome with
      | error f => exact hx
      | ok u =>
        have hrest := context_runAll rest t
        dsimp only at hx ⊢
        rw [hrest, hx, LogContext.unbind_append]
end

/-- Scopes and fetches inside one another take the names that they bind out of the context around them,
and change nothing else in it, whatever ends them. -/
theorem scopes_take_their_names_away (x : Scoped) (s : Session) :
    let r := (x.run cn).onSession s
    let names := x.entered cn s
    r.2.context = s.context.unbind names ∧
    (r.2.context = s.context ↔ ∀ name ∈ names, s.context.has name = false) ∧
    (∀ entries body, x = .scope entries body →
      (LogState.scopeSignature.check 1 entries.keys).isOk = true →
      r = (((runAll cn body).onSession (s.bound entries)).1,
        ((runAll cn body).onSession (s.bound entries)).2.unbound entries.keys) ∧
      (∀ name, (s.bound entries).context.get? name =
        ((Record.ofEntries entries).get? name).or (s.context.get? name)) ∧
      (∀ name ∈ entries.keys, name ∈ names) ∧
      ∀ log : LogState, log.context = s.context →
        log.scope entries =
          .ok ((s.bound entries).context, { log with context := s.context.unbind entries.keys })) ∧
    ∀ q, x = .fetch q →
      ∃ events, r.2.events = s.events ++ events ∧
        ∀ e ∈ events, e.context.get? "table" = some (.text q.table) ∧
          ∀ name, name ≠ "table" → e.context.get? name = s.context.get? name := by
  intro r names
  have hcontext : r.2.context = s.context.unbind names := context_run cn x s
  refine ⟨hcontext, ?_, ?_, ?_⟩
  · rw [hcontext]
    exact LogContext.unbind_eq_self_iff
  · rintro entries body rfl hok
    refine ⟨onSession_scope cn body hok s, Record.get?_putAll s.context entries, fun name hname => ?_,
      fun log hlog => ?_⟩
    · have hnames : names = entries.keys ++ enteredAll cn body (s.bound entries) := if_pos hok
      rw [hnames]
      exact List.mem_append_left _ hname
    · cases hc : LogState.scopeSignature.check 1 entries.keys with
      | error m =>
        rw [hc] at hok
        cases hok
      | ok u =>
        have hscope : log.scope entries = .ok (log.context.bind entries,
            { log with context := (log.context.bind entries).unbind entries.keys }) := by
          rw [LogState.scope, hc]
          rfl
        rw [hscope, hlog, LogContext.unbind_bind]
        rfl
  · rintro q rfl
    obtain ⟨-, events, hevents, hcarry⟩ := fetch_events cn q s
    have hr : r.2 = ((cn.fetch q).onSession s).2 := by
      have hfetch : r = _ := onSession_fetch cn q s
      rw [hfetch]
    refine ⟨events, by rw [hr, hevents], fun e he => ?_⟩
    have hget : ∀ name, e.context.get? name =
        (Record.get? [("table", .text q.table)] name).or (s.context.get? name) := by
      intro name
      rw [hcarry e he]
      exact Record.get?_putAll s.context [("table", .text q.table)] name
    refine ⟨hget "table", fun name hname => ?_⟩
    rw [hget, Record.get?, if_neg (Ne.symm hname)]
    rfl

/-- A fetch that fails inside two scopes of the same name, the inner of which catches nothing. -/
theorem scopes_take_their_names_away_around_failing_fetch :
    let cn := Connection.ofMysqlArguments .mysql []
    let script : Script := { checkouts := [some ⟨.driver "Error", "pool exhausted"⟩] }
    let s : Session := { script, context := [("table", .text "outer"), ("user", .text "u")] }
    let inner : Scoped := .scope [("request", .int 2)] [.fetch { table := "t" }, .raise default]
    let x : Scoped := .scope [("request", .int 1)] [.attempt [inner], .scope [("step", .null)] []]
    x.entered cn s = ["request", "request", "table", "step"] ∧
      ((x.run cn).onSession s).2.context = [("user", .text "u")] := by
  intro cn script s inner x
  have hnames : x.entered cn s = ["request", "request", "table", "step"] := rfl
  have hcontext := (scopes_take_their_names_away cn x s).1
  rw [hnames] at hcontext
  exact ⟨hnames, hcontext⟩

/-- A value that was bound around a scope or a fetch under a name of its own is not bound any more
afterwards. -/
theorem scopes_lose_what_was_bound_around_them :
    let cn := Connection.ofSqliteArguments .sqlite []
    let s : Session := { context := [("table", .text "outer")] }
    let scope := ((Scoped.scope [("table", .text "inner")] []).run cn).onSession s
    let fetch := ((Scoped.fetch { table := "actor" }).run cn).onSession s
    scope.1 = .ok () ∧ scope.2.context = [] ∧ fetch.1 = .ok () ∧ fetch.2.context = [] ∧
      s.context ≠ [] :=
  ⟨rfl, rfl, rfl, rfl, by simp⟩

end Scoped

end DataFetch
