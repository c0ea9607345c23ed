import DataFetch.Proofs.Connection.Plan
import DataFetch.Proofs.Request.RoundTrip
import DataFetch.Proofs.Statement.Elision

/-! # Fetching

Fetching opens the connection if need be, hands the engine the one statement that the request is
written as and returns the rows of the driver as records. Main statement: for every request whose
window can be written out nothing else is handed to the engine, and as the statement ends there the
fetch ends.
-/
namespace DataFetch

open List (Forall₂)

/-! ## Rows -/

/-- The rows that the driver has for a statement: without columns there are none. -/
def StatementReply.driverRows (r : StatementReply) : List (List Value) :=
  if r.hasColumns then r.rows else []

/-- A row of the driver as a record. -/
def Backend.rowRecord (b : Backend) (columns : List String) (values : List Value) :
    Except Misuse Record :=
  match b with
  | .sqlite => Rows.byName columns values
  | .mysql => .ok (Rows.inTurn columns values)

namespace Connection

variable {cn : Connection} {s : Session}

/-- A statement that succeeds yields one record for each row of the driver, in the same order. -/
theorem rows_of_rowsOutcome {reply : StatementReply} {result : StatementResult}
    (h : cn.rowsOutcome reply = .ok result) :
    Forall₂ (fun values row => cn.backend.rowRecord (reply.columns.getD []) values = .ok row)
      reply.driverRows result.rows := by
  rw [rowsOutcome] at h
  rw [StatementReply.driverRows]
  cases hb : cn.backend with
  | sqlite =>
    simp only [hb, Sqlite.rowsOutcome, StatementReply.rowsByName] at h
    cases hc : reply.hasColumns with
    | false =>
      simp only [hc, Bool.false_eq_true, if_false] at h
      cases h
      exact .nil
    | true =>
      simp only [hc, if_true] at h
      split at h
      · rename_i rows hrows
        cases h
        exact Rows.forall₂_of_mapM hrows
      · cases h
  | mysql =>
    simp only [hb] at h
    cases h
    rw [StatementReply.result, Mysql.rowsOf]
    cases reply.hasColumns with
    | false => exact .nil
    | true =>
      rw [if_pos rfl, if_pos rfl, StatementReply.rowsInTurn, List.forall₂_map_right_iff,
        List.forall₂_same]
      exact fun _ _ => rfl

/-! ## The statement of a request -/

end Connection

/-- The values of all fragments, from left to right. -/
def FetchRequest.boundValues (r : FetchRequest) : List Value :=
  r.leaves.flatMap (·.2)

/-- Can the window be written out? -/
def FetchRequest.isWritable (r : FetchRequest) : Bool :=
  Layout.isWritable r.limit && Layout.isWritable r.offset

def Session.naming (s : Session) (table : String) : Session :=
  { s with context := s.context.bind [("table", .text table)] }

def Session.unnamed (s : Session) : Session :=
  { s with context := s.context.unbind ["table"] }

namespace Connection

variable {cn : Connection} {s : Session}

/-- The text that a request is written as for a connection. -/
def requestText (cn : Connection) (r : FetchRequest) : Value :=
  let layout : Layout :=
    { columns := cn.kind.fetchColumns, unboundedLimit := cn.backend.unboundedLimit }
  .text (layout.write r).text

theorem compile_of_writable (cn : Connection) {r : FetchRequest} (h : r.isWritable = true) :
    cn.layout.compile r = .ok (cn.layout.write r) := by
  rw [FetchRequest.isWritable, Bool.and_eq_true] at h
  exact Layout.compile_eq_ok_iff.mpr ⟨⟨h.1, h.2, rfl⟩, rfl⟩

theorem onSession_executeArray (cn : Connection) (text params : Value) (s : Session) :
    (cn.executeArray text params).onSession s =
      let ran := (cn.run text params).onSession s
      (ran.1.map (·.rows), ran.2) := by
  rw [executeArray, Run.onSession_bind]
  cases (cn.run text params).onSession s with
  | mk outcome t => cases outcome <;> rfl

theorem onSession_fetch_of_writable (cn : Connection) {r : FetchRequest} (h : r.isWritable = true)
    (s : Session) :
    (cn.fetch r).onSession s =
      let ran := (cn.run (cn.requestText r) (.list r.boundValues)).onSession (s.naming r.table)
      (ran.1.map (·.rows), ran.2.unnamed) := by
  have hparams : r.boundValues = (cn.layout.write r).params :=
    (Layout.params_write cn.layout r).symm
  have hfetch : cn.fetch r = Run.inScope [("table", .text r.table)]
      (cn.executeArray (cn.requestText r) (.list (cn.layout.write r).params)) := by
    rw [fetch, compile_of_writable cn h]
    rfl
  have hscope : ∀ body : Run (List Record),
      (Run.inScope [("table", .text r.table)] body).onSession s =
        ((body.onSession (s.naming r.table)).1, (body.onSession (s.naming r.table)).2.unnamed) :=
    fun _ => rfl
  rw [hfetch, hscope, onSession_executeArray, hparams]

theorem onSession_fetch_of_not_writable (cn : Connection) {r : FetchRequest}
    (h : r.isWritable = false) (s : Session) :
    (cn.fetch r).onSession s =
      (.error (.refused (.misuse (.numeralTooLong Layout.digitLimit))), s) := by
  have hcompile : cn.layout.compile r = .error (.numeralTooLong Layout.digitLimit) := by
    rw [FetchRequest.isWritable] at h
    rw [Layout.compile, h]
    rfl
  rw [fetch, hcompile]
  rfl

/-! ## What a fetch does -/

theorem Native.issues_fetch (hn : cn.Native) (r : FetchRequest) (s : Session) :
    (cn.fetch r).Issues s [(cn.requestText r, cn.boundAs r.boundValues)] := by
  cases hw : r.isWritable with
  | false =>
    rw [Run.Issues, onSession_fetch_of_not_writable cn hw]
    exact ⟨[], (List.append_nil _).symm, List.nil_prefix, Failure.absurd_of?⟩
  | true =>
    obtain ⟨calls, hcalls, hprefix, hall⟩ :=
      hn.issues_run (cn.requestText r) r.boundValues (s.naming r.table)
    rw [Run.Issues, onSession_fetch_of_writable cn hw]
    refine ⟨calls, hcalls, hprefix, fun h => hall ?_⟩
    rwa [Failure.of?_map] at h

theorem keywords_of_mem_cursorCalls {object : Nat} {reply : StatementReply} {text : Value}
    {params : List Value} {x : Exchange} (hx : x ∈ Mysql.cursorCalls object reply text params)
    {keywords : Record} (hk : x.call = .cursor keywords) :
    keywords = Mysql.cursorKeywords params := by
  rw [Mysql.cursorCalls, List.mem_cons] at hx
  rcases hx with rfl | hx
  · cases hk
    rfl
  · split at hx
    · rw [Mysql.runCalls, List.cons_append, List.mem_cons, List.mem_append] at hx
      rcases hx with rfl | hx | hx
      · cases hk
      · split at hx
        · cases List.mem_singleton.mp hx
          cases hk
        · cases hx
      · cases List.mem_singleton.mp hx
        cases hk
    · cases hx

/-- A cursor is prepared exactly when there is something to bind. -/
theorem Native.cursors_of_executeOn (hn : cn.Native) (text : Value) (params : List Value)
    (s : Session) :
    ∃ calls, ((cn.executeOn text params).onSession s).2.transcript = s.transcript ++ calls ∧
      ∀ x ∈ calls, ∀ keywords, x.call = .cursor keywords →
        keywords = if params.isEmpty then [] else [("prepared", .bool true)] := by
  rw [executeOn, hn.engine]
  cases cn.backend with
  | sqlite =>
    simp only [Backend.engine, Sqlite.onSession_execute]
    cases s.handle with
    | none => exact ⟨[], (List.append_nil _).symm, fun x hx => absurd hx List.not_mem_nil⟩
    | some h =>
      refine ⟨_, rfl, fun x hx keywords hk => ?_⟩
      cases List.mem_singleton.mp hx
      cases hk
  | mysql =>
    simp only [Backend.engine, Mysql.onSession_execute]
    cases s.handle with
    | none => exact ⟨[], (List.append_nil _).symm, fun x hx => absurd hx List.not_mem_nil⟩
    | some h =>
      cases s.script.checkout with
      | some e =>
        refine ⟨_, rfl, fun x hx keywords hk => ?_⟩
        cases List.mem_singleton.mp hx
        cases hk
      | none =>
        refine ⟨_, rfl, fun x hx keywords hk => ?_⟩
        rw [List.cons_append, List.mem_cons, List.mem_append] at hx
        rcases hx with rfl | hx | hx
        · cases hk
        · exact keywords_of_mem_cursorCalls hx hk
        · cases List.mem_singleton.mp hx
          cases hk

/-- How a fetch ends, from how its statement ends: a fault is told what the statement was, and any other
failure is passed on. -/
def fetched (cn : Connection) (text : Value) (count : Nat) :
    Except Failure StatementResult → Except Failure (List Record)
  | .ok result => .ok result.rows
  | .error (.fault f) => .error (.fault (cn.annotate text count f))
  | .error f => .error f

theorem onSession_statement_rows (cn : Connection) (text : Value) (params : List Value)
    (s : Session) :
    let ran := (cn.executeOn text params).onSession s
    let out := (cn.statement text params).onSession s
    out.1.map (·.rows) = cn.fetched text params.length ran.1 ∧
      ∃ events, out.2 = { ran.2 with events } := by
  obtain ⟨t, ⟨result, he, hs⟩ | ⟨f, he, hs⟩ | ⟨f, hf, he, hs⟩⟩ := cn.statement_cases text params s
  · rw [he, hs]
    exact ⟨rfl, _, rfl⟩
  · rw [he, hs]
    exact ⟨rfl, _, rfl⟩
  · rw [he, hs]
    cases f with
    | fault g => exact absurd rfl (hf g)
    | engine e | refused r => exact ⟨rfl, _, rfl⟩

theorem fetch_of_ready_error (cn : Connection) {r : FetchRequest} (hw : r.isWritable = true)
    {f : Failure} {t : Session} (h : cn.ready (s.naming r.table) = (.error f, t)) :
    (cn.fetch r).onSession s = (.error f, t.unnamed) := by
  rw [onSession_fetch_of_writable cn hw, onSession_run, h]
  rfl

/-- On an open connection the engine is handed the statement of the request, once. -/
theorem fetch_of_ready (cn : Connection) {r : FetchRequest} (hw : r.isWritable = true)
    {t : Session} (h : cn.ready (s.naming r.table) = (.ok (), t)) :
    let text := cn.requestText r
    let params := r.boundValues
    let ran := (cn.executeOn text params).onSession t
    let out := (cn.fetch r).onSession s
    out.1 = cn.fetched text params.length ran.1 ∧
      ∃ events context, out.2 = { ran.2 with events, context } := by
  intro text params ran out
  obtain ⟨houtcome, events, hsession⟩ := onSession_statement_rows cn text params t
  have hrun : (cn.run text (.list params)).onSession (s.naming r.table) =
      (cn.statement text params).onSession t := by
    rw [onSession_run, h]
    exact onSession_statementWith text (.list params) t
  have hout : out = _ := onSession_fetch_of_writable cn hw s
  dsimp only at hout
  rw [hrun] at hout
  rw [hout]
  refine ⟨houtcome, events, LogContext.unbind ran.2.context ["table"], ?_⟩
  dsimp only
  rw [hsession]
  rfl

theorem result_of_fetched {text : Value} {count : Nat}
    {outcome : Except Failure StatementResult} {rows : List Record}
    (h : cn.fetched text count outcome = .ok rows) :
    ∃ result, outcome = .ok result ∧ result.rows = rows := by
  cases outcome with
  | ok result =>
    cases h
    exact ⟨result, rfl, rfl⟩
  | error f => cases f <;> cases h

theorem onSession_fetchDraft (cn : Connection) (d : Draft) (s : Session) :
    (cn.fetchDraft d).onSession s =
      match d.build with
      | .ok r => (cn.fetch r).onSession s
      | .error issues => (.error (.refused (.invalid issues)), s) := by
  rw [fetchDraft, Run.onSession_bind]
  cases d.build <;> rfl

/-- A fetch is its request, compiled and run once: what the engine is handed, how it ends and which rows
it returns are those of the one statement. A request whose window cannot be written out, like a draft
that cannot be built, leaves no trace. -/
theorem fetch_runs_compiled_request (hm : cn.Made) (s : Session) :
    (∀ d : Draft, (cn.fetchDraft d).onSession s =
      match d.build with
      | .ok r => (cn.fetch r).onSession s
      | .error issues => (.error (.refused (.invalid issues)), s)) ∧
    ∀ r : FetchRequest,
      let text := cn.requestText r
      let params := r.boundValues
      let out := (cn.fetch r).onSession s
      (cn.fetch r).Issues s [(text, cn.boundAs params)] ∧
      (r.isWritable = false →
        out = (.error (.refused (.misuse (.numeralTooLong Layout.digitLimit))), s)) ∧
      (r.isWritable = true →
        (∀ f t, cn.ready (s.naming r.table) = (.error f, t) → out = (.error f, t.unnamed)) ∧
        ∀ t, cn.ready (s.naming r.table) = (.ok (), t) →
          let ran := (cn.executeOn text params).onSession t
          out.1 = cn.fetched text params.length ran.1 ∧
          (∃ events context, out.2 = { ran.2 with events, context }) ∧
          (∃ calls, out.2.transcript = t.transcript ++ calls ∧
            ∀ x ∈ calls, ∀ keywords, x.call = .cursor keywords →
              keywords = if params.isEmpty then [] else [("prepared", .bool true)]) ∧
          ∀ rows, out.1 = .ok rows →
            Forall₂ (fun values row =>
                cn.backend.rowRecord (t.script.statement.columns.getD []) values = .ok row)
              t.script.statement.driverRows rows) := by
  have hn := hm.native
  refine ⟨fun d => onSession_fetchDraft cn d s, fun r => ?_⟩
  intro text params out
  refine ⟨hn.issues_fetch r s, fun hw => onSession_fetch_of_not_writable cn hw s, fun hw =>
    ⟨fun f t hready => fetch_of_ready_error cn hw hready, fun t hready => ?_⟩⟩
  intro ran
  obtain ⟨houtcome, events, context, hsession⟩ := fetch_of_ready cn hw hready
  refine ⟨houtcome, ⟨events, context, hsession⟩, ?_, fun rows hrows => ?_⟩
  · obtain ⟨calls, hcalls, hcursor⟩ := hn.cursors_of_executeOn text params t
    refine ⟨calls, ?_, hcursor⟩
    rw [hsession]
    exact hcalls
  · obtain ⟨result, hresult, rfl⟩ := result_of_fetched (houtcome.symm.trans hrows)
    exact rows_of_rowsOutcome (hn.rowsOutcome_of_executeOn hresult)

/-- A server that yields two rows for a request with two values. -/
theorem fetch_runs_compiled_request_on_server :
    let cn := ofMysqlArguments .mysql []
    let r : FetchRequest :=
      { table := "t"
        predicates := [.group .or [.simple "a = ?" [.int 1], .simple "b = ?" [.text "x"]]] }
    let script : Script :=
      { statements := [{ columns := some ["a"], rows := [[.int 1], [.int 2]] }] }
    let s := cn.sessionAfter { script } [.connect]
    (cn.fetch r).Issues s
      [(.text "SELECT * FROM t\nWHERE ((a = ?) OR (b = ?))", some [.int 1, .text "x"])] ∧
    ((cn.fetch r).onSession s).1 = .ok [[("a", .int 1)], [("a", .int 2)]] := by
  intro cn r script s
  have hm : cn.Made := ⟨.mysql, .inl ⟨[], rfl⟩⟩
  obtain ⟨hissues, -, hwritable⟩ := (fetch_runs_compiled_request hm s).2 r
  obtain ⟨houtcome, -⟩ := (hwritable rfl).2 (s.naming "t") rfl
  exact ⟨hissues, houtcome⟩

theorem build_offset (table : String) (n : Nat) :
    ({ table := .text table, offset := .int n } : Draft).build =
      .ok { table, offset := some n } := by
  have hoffset : Validation.readNullable Validation.readCount (.int n) = .ok (some n) :=
    FetchRequest.readNullable_dumpCount (some n)
  rw [Draft.build, hoffset]
  rfl

theorem isWritable_eq_false {n : Nat} (h : Nat.pow 10 Layout.digitLimit ≤ n) :
    Layout.isWritable (some n) = false := by
  rw [Layout.isWritable, Option.all_some]
  exact decide_eq_false (Nat.not_lt.mpr h)

/-- A request that can be built hands nothing to an open connection if a bound of its window is too long
to be written out. -/
theorem fetch_of_long_offset_issues_nothing :
    let cn := ofSqliteArguments .sqlite []
    let d : Draft := { table := .text "t", offset := .int (Nat.pow 10 Layout.digitLimit) }
    let s := cn.sessionAfter {} [.connect]
    s.connected = true ∧ (∃ r, d.build = .ok r) ∧
      (cn.fetchDraft d).onSession s =
        (.error (.refused (.misuse (.numeralTooLong Layout.digitLimit))), s) := by
  intro cn d s
  have hbuild := build_offset "t" (Nat.pow 10 Layout.digitLimit)
  -- the bound stays a power: its digits are never worked out
  have hlong := isWritable_eq_false (Nat.le_refl (Nat.pow 10 Layout.digitLimit))
  refine ⟨rfl, ⟨_, hbuild⟩, ?_⟩
  rw [onSession_fetchDraft, hbuild]
  refine onSession_fetch_of_not_writable cn ?_ s
  rw [FetchRequest.isWritable, hlong, Bool.and_false]

end Connection

end DataFetch
