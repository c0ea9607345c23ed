import DataFetch.Connection.Execution

/-! # Records and tables

Inserting, updating and deleting single records by their identifier, and asking whether tables and
columns exist. Names are quoted, values are bound, and what is written is read back.
-/
namespace DataFetch.Connection

def selectById (cn : Connection) (table : String) : String :=
  "SELECT " ++ cn.kind.fetchColumns ++ " FROM " ++ quoteIdentifier table ++ " WHERE " ++
    cn.kind.idColumn ++ " = ?"

def quotedColumns (columns : List String) : String :=
  ", ".intercalate (columns.map quoteIdentifier)

def insertText (cn : Connection) (table : String) (columns : List String) : String :=
  if columns.isEmpty then cn.backend.insertDefaults (quoteIdentifier table)
  else
    "INSERT INTO " ++ quoteIdentifier table ++ " (" ++ quotedColumns columns ++ ") VALUES (" ++
      placeholders columns.length ++ ")"

def updateText (cn : Connection) (table : String) (columns : List String) : String :=
  "UPDATE " ++ quoteIdentifier table ++ " SET " ++
    ", ".intercalate (columns.map fun c => quoteIdentifier c ++ " = ?") ++ " WHERE " ++
    cn.kind.idColumn ++ " = ?"

def deleteText (cn : Connection) (table : String) : String :=
  "DELETE FROM " ++ quoteIdentifier table ++ " WHERE " ++ cn.kind.idColumn ++ " = ?"

def readBack (cn : Connection) (table : String) (id : Value) : Run (Option Record) :=
  cn.executeSingle (.text (cn.selectById table)) (.list [id])

/-- Inserts a record, whose identifier is ignored, and reads it back. -/
def insert (cn : Connection) (table : Value) (record : Record) : Run (Option Record) := do
  let data := record.erase cn.kind.idColumn
  let name ← Run.liftMisuse (nameGiven table)
  let result ← cn.run (.text (cn.insertText name data.keys)) (.list data.values)
  cn.readBack name result.lastrowid

def withoutIdentifier (cn : Connection) (table : Value) : Fault :=
  ((Fault.make .query
    ("Cannot update " ++ table.display ++ ": record has no '" ++ cn.kind.idColumn ++
      "' value")).note "backend" (.text cn.backend.name)).note "table" table

/-- Writes the fields of a record other than its identifier and reads it back. -/
def update (cn : Connection) (table : Value) (record : Record) : Run (Option Record) := do
  match record.pop? cn.kind.idColumn with
  | none => Run.fail (.fault (cn.withoutIdentifier table))
  | some (id, data) =>
    let name ← Run.liftMisuse (nameGiven table)
    if !data.isEmpty then
      let _ ← cn.executeNonQuery (.text (cn.updateText name data.keys))
        (.list (data.values ++ [id]))
    cn.readBack name id

def delete (cn : Connection) (table id : Value) : Run (Option Record) := do
  let name ← Run.liftMisuse (nameGiven table)
  let existing ← cn.readBack name id
  let _ ← cn.executeNonQuery (.text (cn.deleteText name)) (.list [id])
  return existing

def tableExists (cn : Connection) (table : Value) : Run Bool := do
  return (← cn.executeScalar (.text cn.backend.tableExistsQuery) (.list [table])).isTruthy

/-- Does some row describe a column of this name? Every row up to that one must name its column. -/
def describesColumn (column : Value) : List Record → Except Misuse Bool
  | [] => .ok false
  | row :: rest =>
    match row.get? "name" with
    | none => .error (.missingKey (Text.quoted "name"))
    | some v => if v.same column then .ok true else describesColumn column rest

def tableInfoText (table : String) : String :=
  "PRAGMA table_info(" ++ quoteIdentifier table ++ ")"

def columnDescribed (cn : Connection) (table column : Value) : Run Bool := do
  if ← cn.tableExists table then
    let name ← Run.liftMisuse (nameGiven table)
    let rows ← cn.executeArray (.text (tableInfoText name)) (.list [])
    Run.liftMisuse (describesColumn column rows)
  else return false

def columnCounted (cn : Connection) (table column : Value) : Run Bool := do
  match cn.backend.columnExistsQuery? with
  | none => Run.fail (.refused (.misuse (.notOverridden cn.kind.label "column_exists")))
  | some query =>
    return (← cn.executeScalar (.text query) (.list [table, column])).isTruthy

def columnExists (cn : Connection) (table column : Value) : Run Bool :=
  match cn.kind.engine with
  | .sqlite => cn.columnDescribed table column
  | .mysql | .custom => cn.columnCounted table column

end DataFetch.Connection
