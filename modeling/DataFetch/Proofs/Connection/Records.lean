import DataFetch.Proofs.Connection.Plan
import DataFetch.Proofs.Statement.Tokens
import Mathlib.Data.List.Forall2

/-! # Statements on records

The statements that insert, update and delete a record, as templates over the table and the record.
Main statement: whatever the names are, each statement that is handed to the driver is read as its
template, and each placeholder is bound to the value that the template has there.
-/
namespace DataFetch

/-- A statement is read as a template, with a value for each placeholder. -/
structure Issued.Follows (x : Issued) (t : Template) : Prop where
  read : ∃ text, x.1 = .text text ∧ Token.ofText text = some t.tokens
  names : t.tokens.filterMap Token.name? = t.names
  bound : x.2.getD [] = t.values
  marks : t.tokens.count .mark = (x.2.getD []).length

/-- Everything that an operation hands to the driver follows these templates, as far as it comes. -/
def Run.Writes {α : Type} (m : Run α) (s : Session) (templates : List Template) : Prop :=
  ∃ plan, m.Issues s plan ∧ List.Forall₂ Issued.Follows plan templates

namespace Connection

variable {cn : Connection} {α : Type}

/-- A template as it is handed to the driver. -/
def issuing (cn : Connection) (t : Template) : Issued :=
  (.text t.text, cn.boundAs t.values)

theorem getD_boundAs (cn : Connection) (params : List Value) :
    (cn.boundAs params).getD [] = params := by
  rw [boundAs]
  cases cn.backend with
  | sqlite => rfl
  | mysql =>
    cases params with
    | nil => rfl
    | cons v rest => rfl

theorem follows_issuing (cn : Connection) {t : Template} (h : t.Spaced) :
    (cn.issuing t).Follows t where
  read := ⟨t.text, rfl, Template.ofText_text h⟩
  names := t.names_tokens
  bound := cn.getD_boundAs t.values
  marks := by rw [issuing, getD_boundAs, t.count_mark]

theorem writes_of_issues {m : Run α} {s : Session} {templates : List Template}
    (h : m.Issues s (templates.map cn.issuing)) (hs : ∀ t ∈ templates, t.Spaced) :
    m.Writes s templates := by
  refine ⟨_, h, ?_⟩
  rw [List.forall₂_map_left_iff, List.forall₂_same]
  exact fun t ht => cn.follows_issuing (hs t ht)

/-! ## The templates -/

/-- The end of a statement on the record with this identifier. -/
def keyTemplate (cn : Connection) (id : Value) : Template :=
  [.fixed (" WHERE " ++ cn.kind.idColumn ++ " = "), .bound id]

def selectTemplate (cn : Connection) (table : String) (id : Value) : Template :=
  .fixed ("SELECT " ++ cn.kind.fetchColumns ++ " FROM ") :: .name table :: cn.keyTemplate id

def deleteTemplate (cn : Connection) (table : String) (id : Value) : Template :=
  .fixed "DELETE FROM " :: .name table :: cn.keyTemplate id

def assignments (data : Record) : Template :=
  .listed (data.map fun (column, v) => [.name column, .fixed " = ", .bound v])

def updateTemplate (cn : Connection) (table : String) (data : Record) (id : Value) : Template :=
  .fixed "UPDATE " :: .name table :: .fixed " SET " :: (assignments data ++ cn.keyTemplate id)

/-- What stands behind the table where a row of defaults is inserted. -/
def defaultsText (b : Backend) : String :=
  match b with
  | .sqlite => " DEFAULT VALUES"
  | .mysql => " () VALUES ()"

def columnsTemplate (data : Record) : Template :=
  .listed (data.map fun (column, _) => [.name column])

def valuesTemplate (data : Record) : Template :=
  .listed (data.map fun (_, v) => [.bound v])

/-- Columns and as many values, each list in parentheses. -/
def listsTemplate (data : Record) : Template :=
  .fixed " (" :: (columnsTemplate data ++
    .fixed ") VALUES (" :: (valuesTemplate data ++ [.fixed ")"]))

def insertTemplate (cn : Connection) (table : String) (data : Record) : Template :=
  .fixed "INSERT INTO " :: .name table ::
    if data.isEmpty then [.fixed (defaultsText cn.backend)] else listsTemplate data

def tableCountTemplate (table : String) : Template :=
  [.fixed "SELECT COUNT(1) FROM sqlite_master WHERE type = 'table' AND name = ",
    .bound (.text table)]

def tableInfoTemplate (table : String) : Template :=
  [.fixed "PRAGMA table_info(", .name table, .fixed ")"]

/-! ## What is written is the text of its template -/

theorem text_keyTemplate (cn : Connection) (id : Value) :
    (cn.keyTemplate id).text = " WHERE " ++ cn.kind.idColumn ++ " = ?" := by
  simp [keyTemplate, Template.text, Slot.text, String.append_assoc]

theorem text_selectTemplate (cn : Connection) (table : String) (id : Value) :
    (cn.selectTemplate table id).text = cn.selectById table := by
  unfold selectById
  simp [selectTemplate, Template.text, Slot.text, text_keyTemplate, String.append_assoc]

theorem text_deleteTemplate (cn : Connection) (table : String) (id : Value) :
    (cn.deleteTemplate table id).text = cn.deleteText table := by
  unfold deleteText
  simp [deleteTemplate, Template.text, Slot.text, text_keyTemplate, String.append_assoc]

theorem text_updateTemplate (cn : Connection) (table : String) (data : Record) (id : Value) :
    (cn.updateTemplate table data id).text = cn.updateText table data.keys := by
  unfold updateText
  simp [updateTemplate, assignments, Template.text_append, Template.text_listed, Template.text,
    Slot.text, text_keyTemplate, Record.keys, String.append_assoc, Function.comp_def]

theorem text_columnsTemplate (data : Record) :
    (columnsTemplate data).text = quotedColumns data.keys := by
  simp [columnsTemplate, Template.text_listed, Template.text, Slot.text, quotedColumns, Record.keys,
    Function.comp_def]

theorem text_valuesTemplate (data : Record) :
    (valuesTemplate data).text = placeholders data.keys.length := by
  simp [valuesTemplate, Template.text_listed, Template.text, Slot.text, placeholders, Record.keys,
    Function.comp_def]

theorem text_insertTemplate (cn : Connection) (table : String) (data : Record) :
    (cn.insertTemplate table data).text = cn.insertText table data.keys := by
  unfold insertText
  cases data with
  | nil =>
    rw [insertTemplate]
    cases cn.backend <;>
      simp [defaultsText, Template.text, Slot.text, Backend.insertDefaults, Record.keys,
        String.append_assoc]
  | cons entry rest =>
    have hsome : (Record.keys (entry :: rest)).isEmpty = false := rfl
    simp [insertTemplate, listsTemplate, Template.text_append, Template.text, Slot.text, hsome,
      text_columnsTemplate, text_valuesTemplate, String.append_assoc]

theorem text_tableInfoTemplate (table : String) :
    (tableInfoTemplate table).text = tableInfoText table := by
  have htext : (tableInfoTemplate table).text =
      "PRAGMA table_info(" ++ (quoteIdentifier table ++ (")" ++ "")) := rfl
  rw [htext, String.append_empty, ← String.append_assoc]
  rfl

/-! ## The templates keep their names apart -/

theorem unquoted_where (h : Unquoted cn.kind.idColumn) :
    Unquoted (" WHERE " ++ cn.kind.idColumn ++ " = ") :=
  (Unquoted.append (by decide) h).append (by decide)

theorem spaced_keyTemplate (h : Unquoted cn.kind.idColumn) (id : Value) :
    (cn.keyTemplate id).Spaced :=
  ⟨unquoted_where h, trivial⟩

theorem apart_keyTemplate (h : Unquoted cn.kind.idColumn) (id : Value) :
    (cn.keyTemplate id).Apart :=
  Template.apart_fixed (by simp) (unquoted_where h) _

theorem spaced_selectTemplate (hid : Unquoted cn.kind.idColumn)
    (hcolumns : Unquoted cn.kind.fetchColumns) (table : String) (id : Value) :
    (cn.selectTemplate table id).Spaced :=
  ⟨(Unquoted.append (by decide) hcolumns).append (by decide),
    apart_keyTemplate hid id, spaced_keyTemplate hid id⟩

theorem spaced_deleteTemplate (hid : Unquoted cn.kind.idColumn) (table : String) (id : Value) :
    (cn.deleteTemplate table id).Spaced :=
  ⟨by decide, apart_keyTemplate hid id, spaced_keyTemplate hid id⟩

theorem spaced_updateTemplate (hid : Unquoted cn.kind.idColumn) (table : String) (data : Record)
    (id : Value) : (cn.updateTemplate table data id).Spaced := by
  have hassignments : (assignments data).Spaced := by
    refine Template.spaced_listed fun t ht => ?_
    obtain ⟨entry, -, rfl⟩ := List.mem_map.mp ht
    exact ⟨Template.apart_fixed (by decide) (by decide) _, by decide, trivial⟩
  exact ⟨by decide, Template.apart_fixed (by decide) (by decide) _, by decide,
    hassignments.append (spaced_keyTemplate hid id) (apart_keyTemplate hid id)⟩

theorem spaced_columnsTemplate (data : Record) : (columnsTemplate data).Spaced := by
  refine Template.spaced_listed fun t ht => ?_
  obtain ⟨entry, -, rfl⟩ := List.mem_map.mp ht
  exact ⟨Template.apart_nil, trivial⟩

theorem spaced_valuesTemplate (data : Record) : (valuesTemplate data).Spaced := by
  refine Template.spaced_listed fun t ht => ?_
  obtain ⟨entry, -, rfl⟩ := List.mem_map.mp ht
  exact trivial

theorem spaced_listsTemplate (data : Record) : (listsTemplate data).Spaced := by
  have hclosing : Template.Spaced [.fixed ")"] := ⟨by decide, trivial⟩
  have hapart : Template.Apart [.fixed ")"] := Template.apart_fixed (by decide) (by decide) []
  have hvalues : Template.Spaced (.fixed ") VALUES (" :: (valuesTemplate data ++ [.fixed ")"])) :=
    ⟨by decide, (spaced_valuesTemplate data).append hclosing hapart⟩
  exact ⟨by decide, (spaced_columnsTemplate data).append hvalues
    (Template.apart_fixed (by decide) (by decide) _)⟩

theorem spaced_insertTemplate (cn : Connection) (table : String) (data : Record) :
    (cn.insertTemplate table data).Spaced := by
  rw [insertTemplate]
  cases data.isEmpty with
  | true =>
    rw [if_pos rfl]
    cases cn.backend <;>
      exact ⟨by decide, Template.apart_fixed (by decide) (by decide) _, by decide, trivial⟩
  | false =>
    rw [if_neg Bool.false_ne_true]
    exact ⟨by decide, Template.apart_fixed (by decide) (by decide) _, spaced_listsTemplate data⟩

theorem spaced_tableCountTemplate (table : String) : (tableCountTemplate table).Spaced :=
  ⟨by decide, trivial⟩

theorem spaced_tableInfoTemplate (table : String) : (tableInfoTemplate table).Spaced :=
  ⟨by decide, Template.apart_fixed (by decide) (by decide) _, by decide, trivial⟩

/-! ## What the templates name and bind -/

section

variable (cn : Connection) (table : String) (data : Record) (id : Value) {β : Type}
  {f : Slot → Option β}

theorem filterMap_columnsTemplate (hf : ∀ s, f (.fixed s) = none) :
    (columnsTemplate data).filterMap f = (data.keys.map Slot.name).filterMap f := by
  rw [columnsTemplate, Template.filterMap_listed hf]
  simp [List.flatMap_map, Record.keys, List.filterMap_eq_flatMap_toList]

theorem filterMap_valuesTemplate (hf : ∀ s, f (.fixed s) = none) :
    (valuesTemplate data).filterMap f = (data.values.map Slot.bound).filterMap f := by
  rw [valuesTemplate, Template.filterMap_listed hf]
  simp [List.flatMap_map, Record.values, List.filterMap_eq_flatMap_toList]

/-- The columns stand in the order of the record, and after them the values. -/
theorem filterMap_insertTemplate (hf : ∀ s, f (.fixed s) = none) :
    (cn.insertTemplate table data).filterMap f =
      (Slot.name table :: (data.keys.map .name ++ data.values.map .bound)).filterMap f := by
  cases data with
  | nil => simp [insertTemplate, hf, List.filterMap_cons, Record.keys, Record.values]
  | cons entry rest =>
    have hlists : (listsTemplate (entry :: rest)).filterMap f =
        (columnsTemplate (entry :: rest)).filterMap f ++
          (valuesTemplate (entry :: rest)).filterMap f := by
      simp [listsTemplate, hf]
    have hinsert : cn.insertTemplate table (entry :: rest) =
        .fixed "INSERT INTO " :: .name table :: listsTemplate (entry :: rest) := rfl
    rw [hinsert, List.filterMap_cons_none (hf _), List.filterMap_cons, List.filterMap_cons, hlists,
      filterMap_columnsTemplate _ hf, filterMap_valuesTemplate _ hf, List.filterMap_append]

/-- Each column stands in front of its value, and the identifier behind all of them. -/
theorem filterMap_updateTemplate (hf : ∀ s, f (.fixed s) = none) :
    (cn.updateTemplate table data id).filterMap f =
      (Slot.name table :: (data.flatMap (fun (column, v) => [.name column, .bound v]) ++
        [.bound id])).filterMap f := by
  have hassignments : (assignments data).filterMap f =
      (data.flatMap fun (column, v) => [Slot.name column, .bound v]).filterMap f := by
    rw [assignments, Template.filterMap_listed hf, List.flatMap_map, List.filterMap_flatMap]
    simp [hf, List.filterMap_cons]
  simp [updateTemplate, keyTemplate, hf, List.filterMap_cons, hassignments]

theorem names_insertTemplate : (cn.insertTemplate table data).names = table :: data.keys := by
  rw [Template.names, filterMap_insertTemplate cn table data fun _ => rfl]
  simp [Slot.name?, Function.comp_def]

theorem values_insertTemplate : (cn.insertTemplate table data).values = data.values := by
  rw [Template.values, filterMap_insertTemplate cn table data fun _ => rfl]
  simp [Slot.value?, List.filterMap_cons, Function.comp_def]

theorem names_updateTemplate : (cn.updateTemplate table data id).names = table :: data.keys := by
  rw [Template.names, filterMap_updateTemplate cn table data id fun _ => rfl]
  simp [Slot.name?, List.filterMap_cons, List.filterMap_flatMap, Record.keys,
    ← List.map_eq_flatMap]

theorem values_updateTemplate :
    (cn.updateTemplate table data id).values = data.values ++ [id] := by
  rw [Template.values, filterMap_updateTemplate cn table data id fun _ => rfl]
  simp [Slot.value?, List.filterMap_cons, List.filterMap_flatMap, Record.values,
    ← List.map_eq_flatMap]

end

/-! ## What the operations hand over -/

theorem Native.issues_readBack (hn : cn.Native) (table : String) (id : Value) (s : Session) :
    (cn.readBack table id).Issues s [cn.issuing (cn.selectTemplate table id)] := by
  have hrun := (hn.issues_run (.text (cn.selectById table)) [id] s).bind fun result t _ =>
    Run.issues_pure result.rows.head? t
  rw [issuing, text_selectTemplate]
  exact hrun

theorem Native.issues_executeArray (hn : cn.Native) (text : Value) (bound : List Value)
    (s : Session) : (cn.executeArray text (.list bound)).Issues s [(text, cn.boundAs bound)] :=
  (hn.issues_run text bound s).bind fun result t _ => Run.issues_pure result.rows t

theorem Native.issues_executeNonQuery (hn : cn.Native) (text : Value) (bound : List Value)
    (s : Session) : (cn.executeNonQuery text (.list bound)).Issues s [(text, cn.boundAs bound)] :=
  (hn.issues_run text bound s).bind fun result t _ =>
    Run.issues_liftMisuse result.rowcount.atLeastZero t

theorem Native.issues_insert (hn : cn.Native) (table : String) (record : Record) (s : Session) :
    (cn.insert (.text table) record).Issues s
      [cn.issuing (cn.insertTemplate table (record.erase cn.kind.idColumn)),
        cn.issuing (cn.selectTemplate table s.script.statement.lastrowid)] := by
  have hinsert : cn.insert (.text table) record =
      (cn.run (.text (cn.insertText table (record.erase cn.kind.idColumn).keys))
        (.list (record.erase cn.kind.idColumn).values) >>= fun result =>
          cn.readBack table result.lastrowid) := rfl
  rw [hinsert, issuing, text_insertTemplate, values_insertTemplate]
  refine (hn.issues_run _ _ s).bind fun result t hrun => ?_
  rw [← hn.lastrowid_of_run hrun]
  exact hn.issues_readBack table result.lastrowid t

theorem update_of_get? (cn : Connection) (table : String) {record : Record} {id : Value}
    (hid : record.get? cn.kind.idColumn = some id) :
    let data := record.erase cn.kind.idColumn
    cn.update (.text table) record =
      if data.isEmpty then cn.readBack table id
      else
        cn.executeNonQuery (.text (cn.updateText table data.keys)) (.list (data.values ++ [id])) >>=
          fun _ => cn.readBack table id := by
  intro data
  have hpop : record.pop? cn.kind.idColumn = some (id, data) := by
    rw [Record.pop?, hid, Option.map_some]
  rw [update, hpop]
  dsimp only
  cases data.isEmpty <;> rfl

theorem Native.issues_update (hn : cn.Native) (table : String) {record : Record} {id : Value}
    (hid : record.get? cn.kind.idColumn = some id) (s : Session) :
    let data := record.erase cn.kind.idColumn
    (cn.update (.text table) record).Issues s
      (List.map cn.issuing
        ((if data.isEmpty then [] else [cn.updateTemplate table data id]) ++
          [cn.selectTemplate table id])) := by
  intro data
  rw [update_of_get? cn table hid]
  cases data.isEmpty with
  | true => exact hn.issues_readBack table id s
  | false =>
    rw [if_neg Bool.false_ne_true, if_neg Bool.false_ne_true, List.map_append, List.map_singleton,
      List.map_singleton, issuing, text_updateTemplate, values_updateTemplate]
    exact (hn.issues_executeNonQuery _ _ s).bind fun _ t _ => hn.issues_readBack table id t

theorem Native.issues_delete (hn : cn.Native) (table : String) (id : Value) (s : Session) :
    (cn.delete (.text table) id).Issues s
      [cn.issuing (cn.selectTemplate table id), cn.issuing (cn.deleteTemplate table id)] := by
  have hdelete : cn.delete (.text table) id =
      (cn.readBack table id >>= fun existing =>
        cn.executeNonQuery (.text (cn.deleteText table)) (.list [id]) >>= fun _ =>
          pure existing) := rfl
  rw [hdelete]
  refine (hn.issues_readBack table id s).bind fun existing t _ => ?_
  rw [issuing, text_deleteTemplate]
  exact (hn.issues_executeNonQuery _ _ t).bind fun _ u _ => Run.issues_pure existing u

theorem Native.issues_tableExists (hn : cn.Native) (hb : cn.backend = .sqlite) (table : String)
    (s : Session) :
    (cn.tableExists (.text table)).Issues s [cn.issuing (tableCountTemplate table)] := by
  have hexists : cn.tableExists (.text table) =
      (cn.run (.text cn.backend.tableExistsQuery) (.list [.text table]) >>= fun result =>
        pure (firstValue result.rows.head?).isTruthy) := by
    simp [tableExists, executeScalar, executeSingle]
  have htext : (tableCountTemplate table).text = cn.backend.tableExistsQuery := by
    rw [hb]
    rfl
  rw [hexists, issuing, htext]
  exact (hn.issues_run _ _ s).bind fun _ t _ => Run.issues_pure _ t

theorem Native.columnExists_eq (hn : cn.Native) (hb : cn.backend = .sqlite) (table : String)
    (column : Value) :
    cn.columnExists (.text table) column =
      (cn.tableExists (.text table) >>= fun found =>
        if found then
          cn.executeArray (.text (tableInfoText table)) (.list []) >>= fun rows =>
            Run.liftMisuse (describesColumn column rows)
        else pure false) := by
  rw [columnExists, hn.engine, hb]
  rfl

/-- The columns are described only of a table that was found. -/
theorem Native.issues_columnExists (hn : cn.Native) (hb : cn.backend = .sqlite) (table : String)
    (column : Value) (s : Session) :
    ∃ templates, templates <+: [tableCountTemplate table, tableInfoTemplate table] ∧
      (cn.columnExists (.text table) column).Issues s (templates.map cn.issuing) := by
  rw [hn.columnExists_eq hb]
  have hcount := hn.issues_tableExists hb table s
  -- the plan depends on the answer to its first statement
  by_cases hfound : ((cn.tableExists (.text table)).onSession s).1 = .ok true
  · have hinfo : ∀ t, (cn.executeArray (.text (tableInfoText table)) (.list []) >>= fun rows =>
        Run.liftMisuse (describesColumn column rows)).Issues t
          [cn.issuing (tableInfoTemplate table)] := by
      intro t
      rw [issuing, text_tableInfoTemplate]
      exact (hn.issues_executeArray _ [] t).bind fun rows u _ => Run.issues_liftMisuse _ u
    refine ⟨_, List.prefix_rfl, hcount.bind fun found t hr => ?_⟩
    rw [hr] at hfound
    cases hfound
    exact hinfo t
  · refine ⟨[tableCountTemplate table], List.prefix_append _ [tableInfoTemplate table],
      hcount.bind fun found t hr => ?_⟩
    rw [hr] at hfound
    cases found with
    | true => exact absurd rfl hfound
    | false => exact Run.issues_pure false t

theorem not_mem_keys_erase (record : Record) (key : String) : key ∉ (record.erase key).keys := by
  simp [Record.keys, Record.erase]

/-- Whatever the table and the keys of a record are, its statements say what they should: only the
columns of the kind, which are no caller's, stand in them unquoted. -/
theorem record_statements_follow_templates (hm : cn.Made) (hid : Unquoted cn.kind.idColumn)
    (hcolumns : Unquoted cn.kind.fetchColumns) (s : Session) (table : String) (record : Record)
    (id column : Value) :
    let data := record.erase cn.kind.idColumn
    (cn.insert (.text table) record).Writes s
      [cn.insertTemplate table data, cn.selectTemplate table s.script.statement.lastrowid] ∧
    (record.get? cn.kind.idColumn = some id →
      (cn.update (.text table) record).Writes s
        ((if data.isEmpty then [] else [cn.updateTemplate table data id]) ++
          [cn.selectTemplate table id])) ∧
    (record.get? cn.kind.idColumn = none → (cn.update (.text table) record).Writes s []) ∧
    (cn.delete (.text table) id).Writes s
      [cn.selectTemplate table id, cn.deleteTemplate table id] ∧
    (cn.backend = .sqlite →
      ∃ templates, templates <+: [tableCountTemplate table, tableInfoTemplate table] ∧
        (cn.columnExists (.text table) column).Writes s templates) ∧
    cn.kind.idColumn ∉ data.keys ∧
    ((cn.insertTemplate table data).names, (cn.insertTemplate table data).values) =
      (table :: data.keys, data.values) ∧
    ((cn.updateTemplate table data id).names, (cn.updateTemplate table data id).values) =
      (table :: data.keys, data.values ++ [id]) ∧
    ((cn.selectTemplate table id).names, (cn.selectTemplate table id).values) = ([table], [id]) ∧
    ((cn.deleteTemplate table id).names, (cn.deleteTemplate table id).values) = ([table], [id]) ∧
    ((tableInfoTemplate table).names, (tableInfoTemplate table).values) = ([table], []) := by
  intro data
  have hn := hm.native
  have hselect := spaced_selectTemplate hid hcolumns table
  refine ⟨?_, ?_, ?_, ?_, ?_, not_mem_keys_erase record _, ?_, ?_, rfl, rfl, rfl⟩
  · refine writes_of_issues (hn.issues_insert table record s) ?_
    simpa using ⟨cn.spaced_insertTemplate table data, hselect _⟩
  · intro hsome
    refine writes_of_issues (hn.issues_update table hsome s) ?_
    intro t ht
    rcases List.mem_append.mp ht with ht | ht
    · split at ht
      · cases ht
      · cases List.mem_singleton.mp ht
        exact spaced_updateTemplate hid table data id
    · cases List.mem_singleton.mp ht
      exact hselect id
  · intro hnone
    have hfail : cn.update (.text table) record =
        Run.fail (.fault (cn.withoutIdentifier (.text table))) := by
      rw [update, Record.pop?, hnone]
      rfl
    rw [hfail]
    exact ⟨[], Run.issues_fail _ s [], .nil⟩
  · refine writes_of_issues (hn.issues_delete table id s) ?_
    simpa using ⟨hselect id, spaced_deleteTemplate hid table id⟩
  · intro hb
    obtain ⟨templates, hfront, hissues⟩ := hn.issues_columnExists hb table column s
    refine ⟨templates, hfront, writes_of_issues hissues fun t ht => ?_⟩
    have hmem := hfront.subset ht
    simp only [List.mem_cons, List.not_mem_nil, or_false] at hmem
    rcases hmem with rfl | rfl
    · exact spaced_tableCountTemplate table
    · exact spaced_tableInfoTemplate table
  · rw [names_insertTemplate, values_insertTemplate]
  · rw [names_updateTemplate, values_updateTemplate]

theorem record_statements_follow_templates_for_backticks :
    let table := "a`b? (c)"
    let data : Record := [("", .int 1), ("x`, ?)", .text "v")]
    let lite := ofSqliteArguments .sqlite []
    let server := ofMysqlArguments .mysql []
    let s : Session := { script := { statements := [{ lastrowid := .int 7 }] } }
    (lite.insert (.text table) (("rowid", .int 9) :: data)).Writes s
      [lite.insertTemplate table data, lite.selectTemplate table (.int 7)] ∧
    (server.update (.text table) (data ++ [("id", .int 9)])).Writes s
      [server.updateTemplate table data (.int 9), server.selectTemplate table (.int 9)] ∧
    (server.updateTemplate table data (.int 9)).names = [table, "", "x`, ?)"] ∧
    (server.updateTemplate table data (.int 9)).values = [.int 1, .text "v", .int 9] := by
  intro table data lite server s
  have hlite : lite.Made := ⟨.sqlite, .inl ⟨[], rfl⟩⟩
  have hserver : server.Made := ⟨.mysql, .inl ⟨[], rfl⟩⟩
  have hinserts := record_statements_follow_templates hlite (by decide) (by decide) s table
    (("rowid", .int 9) :: data) (.int 9) .null
  have hupdates := record_statements_follow_templates hserver (by decide) (by decide) s table
    (data ++ [("id", .int 9)]) (.int 9) .null
  exact ⟨hinserts.1, hupdates.2.1 rfl, rfl, rfl⟩

end Connection

end DataFetch
