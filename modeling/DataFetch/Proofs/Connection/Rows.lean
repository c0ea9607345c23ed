import DataFetch.Proofs.Connection.Fetch
import DataFetch.Proofs.Connection.Sequence
import DataFetch.Proofs.Value.Record

/-! # Rows of either backend

SQLite looks the values of a row up by the names of its columns, and MySQL takes them in turn. Where no
two columns have the same name both give each column its own value. Main statement: what a statement
returns depends on the columns and rows of the driver's answer and not on the backend, and so do the
first row and the first value of it.
-/
namespace DataFetch

namespace Rows

/-- No two columns have the same name. -/
def Distinct (columns : List String) : Prop :=
  columns.Pairwise fun a b => sameName a b = false

instance (columns : List String) : Decidable (Distinct columns) :=
  inferInstanceAs (Decidable (columns.Pairwise fun a b => sameName a b = false))

/-- The rows as records; rows without columns are none. -/
def shaped (columns : List String) (rows : List (List Value)) : List Record :=
  if columns = [] then [] else rows.map columns.zip

variable {columns : List String} {values : List Value}

theorem Distinct.nodup (h : Distinct columns) : columns.Nodup := by
  refine List.Pairwise.imp (fun {a b} hab => ?_) h
  rintro rfl
  simp [sameName_self] at hab

/-! ## One row -/

theorem keys_zip (hl : values.length = columns.length) : Record.keys (columns.zip values) = columns :=
  List.map_fst_zip (Nat.le_of_eq hl.symm)

/-- Each column has the value in its place. -/
theorem get?_zip (hd : Distinct columns) (hl : values.length = columns.length) {k : Nat}
    (hk : k < columns.length) : Record.get? (columns.zip values) columns[k] = values[k]? := by
  have hn : (Record.keys (columns.zip values)).Nodup := (keys_zip hl).symm ▸ hd.nodup
  have hv : k < values.length := hl ▸ hk
  rw [List.getElem?_eq_getElem hv]
  refine Record.get?_of_mem hn (List.mem_iff_getElem.mpr ⟨k, ?_, List.getElem_zip⟩)
  rw [List.length_zip]
  omega

/-- The first column of a name is the only one. -/
theorem named_getElem (hd : Distinct columns) {k : Nat} (hk : k < columns.length) {v : Value}
    (hv : values[k]? = some v) : named columns values columns[k] = .ok v := by
  have hindex : columns.findIdx (fun c => sameName c columns[k]) = k := by
    rw [List.findIdx_eq hk]
    exact ⟨sameName_self _, fun j hj => List.pairwise_iff_getElem.mp hd j k _ hk hj⟩
  rw [named, hindex, hv]

theorem foldlM_named {field : String → Value} {rest : List String}
    (h : ∀ c ∈ rest, named columns values c = .ok (field c)) (acc : Record) :
    rest.foldlM (fun acc c => (named columns values c).map (Record.put acc c)) acc =
      .ok (acc.putAll (rest.map fun c => (c, field c))) := by
  induction rest generalizing acc with
  | nil => rfl
  | cons c rest ih =>
    rw [List.foldlM_cons, h c List.mem_cons_self]
    exact ih (fun d hd => h d (List.mem_cons_of_mem c hd)) (acc.put c (field c))

theorem inTurn_eq_zip (hd : Distinct columns) (hl : values.length = columns.length) :
    inTurn columns values = columns.zip values :=
  Record.ofEntries_of_nodup ((keys_zip hl).symm ▸ hd.nodup)

theorem byName_eq_zip (hd : Distinct columns) (hl : values.length = columns.length) :
    byName columns values = .ok (columns.zip values) := by
  let field (c : String) : Value := (Record.get? (columns.zip values) c).getD .null
  have hn : (Record.keys (columns.zip values)).Nodup := (keys_zip hl).symm ▸ hd.nodup
  have hnamed : ∀ c ∈ columns, named columns values c = .ok (field c) := by
    intro c hc
    obtain ⟨k, hk, rfl⟩ := List.mem_iff_getElem.mp hc
    have hv : values[k]? = some (field columns[k]) := by
      simp only [field, get?_zip hd hl hk]
      rw [List.getElem?_eq_getElem (hl ▸ hk)]
      rfl
    exact named_getElem hd hk hv
  have hfields : columns.map (fun c => (c, field c)) = columns.zip values := by
    conv_lhs => rw [← keys_zip hl]
    rw [Record.keys, List.map_map]
    refine (List.map_congr_left fun entry he => ?_).trans (List.map_id _)
    have hget : Record.get? (columns.zip values) entry.1 = some entry.2 := Record.get?_of_mem hn he
    simp [field, hget]
  rw [byName, foldlM_named hnamed, hfields]
  exact congrArg Except.ok (Record.ofEntries_of_nodup hn)

/-! ## All rows -/

theorem mapM_byName (hd : Distinct columns) {rows : List (List Value)}
    (hl : ∀ values ∈ rows, values.length = columns.length) :
    rows.mapM (byName columns) = .ok (rows.map columns.zip) := by
  induction rows with
  | nil => rfl
  | cons values rest ih =>
    have hrest := ih fun v hv => hl v (List.mem_cons_of_mem values hv)
    rw [List.mapM_cons, byName_eq_zip hd (hl values List.mem_cons_self), hrest]
    rfl

end Rows

theorem StatementReply.hasColumns_iff {r : StatementReply} :
    r.hasColumns = true ↔ r.columns.getD [] ≠ [] := by
  rw [hasColumns]
  cases r.columns <;> simp

namespace Connection

open Rows

variable {cn : Connection} {s : Session} {columns : List String} {rows : List (List Value)}

theorem rowsOutcome_eq_shaped (hd : Distinct columns)
    (hl : ∀ values ∈ rows, values.length = columns.length) {reply : StatementReply}
    (hc : reply.columns.getD [] = columns) (hr : reply.rows = rows) :
    cn.rowsOutcome reply = .ok (reply.result (shaped columns rows)) := by
  have hcolumns : reply.hasColumns = true ↔ columns ≠ [] := hc ▸ StatementReply.hasColumns_iff
  rw [rowsOutcome, shaped]
  by_cases hnone : columns = []
  · have hfalse : reply.hasColumns = false := by simpa [hnone] using hcolumns
    rw [if_pos hnone]
    cases cn.backend <;>
      simp [Sqlite.rowsOutcome, StatementReply.rowsByName, Mysql.rowsOf, hfalse]
  · have htrue : reply.hasColumns = true := hcolumns.mpr hnone
    have hturn : rows.map (inTurn columns) = rows.map columns.zip :=
      List.map_congr_left fun values hv => inTurn_eq_zip hd (hl values hv)
    rw [if_neg hnone]
    cases cn.backend <;>
      simp [Sqlite.rowsOutcome, StatementReply.rowsByName, Mysql.rowsOf,
        StatementReply.rowsInTurn, htrue, hc, hr, mapM_byName hd hl, hturn]

/-- The driver lets the connection be opened, raises nothing at the next statement and answers it with
these columns and rows. -/
structure Answers (cn : Connection) (s : Session) (columns : List String)
    (rows : List (List Value)) : Prop where
  opens : (cn.ready s).1 = .ok ()
  raises : cn.raisedBy (cn.ready s).2 = none
  releases : cn.backend = .mysql → s.script.statement.release = none
  columns : s.script.statement.columns.getD [] = columns
  rows : s.script.statement.rows = rows

theorem Native.run_of_answers (hn : cn.Native) (hs : s.Coherent) (h : cn.Answers s columns rows)
    (hd : Distinct columns) (hl : ∀ values ∈ rows, values.length = columns.length) (text : String)
    {params : Value} {bound : List Value} (hp : params.elements = .ok bound) :
    ((cn.run (.text text) params).onSession s).1 =
      .ok (s.script.statement.result (shaped columns rows)) := by
  obtain ⟨hopens, hraises, hreleases, hcolumns, hrows⟩ := h
  obtain ⟨-, -, -, hscript⟩ := hn.ready_issues_nothing s
  rw [onSession_run]
  cases hr : cn.ready s with
  | mk outcome t =>
    rw [hr] at hopens hraises hscript
    cases hopens
    have hreply : t.script.statement = s.script.statement :=
      congrArg (fun replies : List StatementReply => replies.headD {}) hscript
    have hheld := hn.held_of_ready hs hr
    dsimp only
    rw [onSession_statementWith, hp]
    refine (hn.statement_of_rows hheld (hreply ▸ hreleases) hraises _).1.mpr ?_
    rw [hreply]
    exact rowsOutcome_eq_shaped hd hl hcolumns hrows

theorem onSession_executeSingle (cn : Connection) (text params : Value) (s : Session) :
    (cn.executeSingle text params).onSession s =
      let ran := (cn.run text params).onSession s
      (ran.1.map (·.rows.head?), ran.2) := by
  rw [executeSingle, Run.onSession_bind]
  cases (cn.run text params).onSession s with
  | mk outcome t => cases outcome <;> rfl

theorem onSession_executeScalar (cn : Connection) (text params : Value) (s : Session) :
    (cn.executeScalar text params).onSession s =
      let ran := (cn.run text params).onSession s
      (ran.1.map fun result => firstValue result.rows.head?, ran.2) := by
  rw [executeScalar, Run.onSession_bind, onSession_executeSingle]
  cases (cn.run text params).onSession s with
  | mk outcome t => cases outcome <;> rfl

theorem firstValue_shaped (hl : ∀ values ∈ rows, values.length = columns.length) :
    firstValue (shaped columns rows).head? = (rows.head?.bind List.head?).getD .null := by
  cases rows with
  | nil => simp [shaped, firstValue]
  | cons values rest =>
    have hwidth := hl values List.mem_cons_self
    cases columns with
    | nil =>
      have hnone : values = [] := List.length_eq_zero_iff.mp hwidth
      simp [shaped, firstValue, hnone]
    | cons c cs =>
      cases values with
      | nil => simp at hwidth
      | cons v vs => simp [shaped, firstValue]

/-- The rows of a statement, its first row and the first value of that, for a driver that answers with
these columns and rows, on whichever backend. -/
theorem rows_do_not_show_backend (hd : Distinct columns)
    (hl : ∀ values ∈ rows, values.length = columns.length) (hm : cn.Made) (script : Script)
    (context : LogContext) (ops : List Operation) (hops : ∀ op ∈ ops, op.isPublic = true)
    (ha : cn.Answers (cn.sessionAfter { script, context } ops) columns rows) (text : String)
    {params : Value} {bound : List Value} (hp : params.elements = .ok bound) :
    let s := cn.sessionAfter { script, context } ops
    let records := if columns = [] then [] else rows.map columns.zip
    ((cn.executeArray (.text text) params).onSession s).1 = .ok records ∧
    ((cn.executeSingle (.text text) params).onSession s).1 = .ok records.head? ∧
    ((cn.executeScalar (.text text) params).onSession s).1 =
      .ok ((rows.head?.bind List.head?).getD .null) ∧
    ∀ values ∈ rows, Record.keys (columns.zip values) = columns ∧
      ∀ k (hk : k < columns.length), Record.get? (columns.zip values) columns[k] = values[k]? := by
  intro s records
  have hn := hm.native
  have hs := (hn.coherent_sessionAfter script context hops).1
  have hrun := hn.run_of_answers hs ha hd hl text hp
  refine ⟨?_, ?_, ?_, fun values hv =>
    ⟨keys_zip (hl values hv), fun k hk => get?_zip hd (hl values hv) hk⟩⟩
  · rw [onSession_executeArray]
    dsimp only
    rw [hrun]
    rfl
  · rw [onSession_executeSingle]
    dsimp only
    rw [hrun]
    rfl
  · rw [onSession_executeScalar, ← firstValue_shaped hl]
    dsimp only
    rw [hrun]
    rfl

/-- Both backends, one not opened yet and the other one after a statement that failed. -/
theorem rows_do_not_show_backend_of_null_and_letters :
    let columns := ["id", "Éa", "éa"]
    let rows := [[.int 7, .null, .text "x"], [.null, .int 1, .int 2]]
    let records := [[("id", .int 7), ("Éa", .null), ("éa", .text "x")],
      [("id", .null), ("Éa", .int 1), ("éa", .int 2)]]
    let reply : StatementReply := { columns := some columns, rows }
    let lite := ofSqliteArguments .sqlite []
    let server := ofMysqlArguments .mysql []
    let used := lite.sessionAfter
      { script := { statements := [{ execute := some ⟨.integrity, "no"⟩ }, reply] } }
      [.array (.text "INSERT INTO t VALUES (1)") (.list [])]
    let fresh : Session := { script := { statements := [reply] } }
    ((lite.executeArray (.text "SELECT * FROM t") (.list [])).onSession used).1 = .ok records ∧
      ((server.executeArray (.text "SELECT * FROM t") (.list [.int 3])).onSession fresh).1 =
        .ok records ∧
      ((server.executeSingle (.text "SELECT * FROM t") (.list [])).onSession fresh).1 =
        .ok records.head? ∧
      ((server.executeScalar (.text "SELECT * FROM t") (.list [])).onSession fresh).1 =
        .ok (.int 7) := by
  intro columns rows records reply lite server used fresh
  have hd : Distinct columns := by decide
  have hl : ∀ values ∈ rows, values.length = columns.length := by decide
  have hlite : lite.Made := ⟨.sqlite, .inl ⟨[], rfl⟩⟩
  have hserver : server.Made := ⟨.mysql, .inl ⟨[], rfl⟩⟩
  have helements : ∀ bound, (Value.list bound).elements = .ok bound := fun _ => rfl
  have hused := rows_do_not_show_backend hd hl hlite
    { statements := [{ execute := some ⟨.integrity, "no"⟩ }, reply] } []
    [.array (.text "INSERT INTO t VALUES (1)") (.list [])] (by decide)
    ⟨rfl, rfl, nofun, rfl, rfl⟩ "SELECT * FROM t" (helements [])
  have hfresh := fun bound => rows_do_not_show_backend hd hl hserver { statements := [reply] } [] []
    (by decide) ⟨rfl, rfl, fun _ => rfl, rfl, rfl⟩ "SELECT * FROM t" (helements bound)
  exact ⟨hused.1, (hfresh [.int 3]).1, (hfresh []).2.1, (hfresh []).2.2.1⟩

/-- Without columns a server's rows are left out, whatever the driver has. -/
theorem rows_without_columns_are_left_out :
    let server := ofMysqlArguments .mysql []
    let rows : List (List Value) := [[], []]
    let s : Session := { script := { statements := [{ columns := some [], rows }] } }
    server.Made ∧ Distinct [] ∧ (∀ values ∈ rows, values.length = 0) ∧ server.Answers s [] rows ∧
      ∃ records, ((server.executeArray (.text "SELECT") (.list [])).onSession s).1 = .ok records ∧
        records.length ≠ rows.length := by
  intro server rows s
  exact ⟨⟨.mysql, .inl ⟨[], rfl⟩⟩, .nil, by decide, ⟨rfl, rfl, fun _ => rfl, rfl, rfl⟩, [], rfl,
    by decide⟩

end Connection

end DataFetch
