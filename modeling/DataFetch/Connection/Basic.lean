import DataFetch.Config
import DataFetch.Decimal.Reading
import DataFetch.Text.Digit
import DataFetch.Value.Entries

/-! # Connections

A kind of connection, the arguments that each kind takes, and a connection made from arguments or from
a configuration. Making a connection opens nothing.
-/
namespace DataFetch

inductive EngineKind where
  | sqlite
  | mysql
  /-- An engine of the caller's own, which speaks for one of the backends. -/
  | custom
  deriving DecidableEq, Repr, Inhabited

structure ConnectionKind where
  label : String
  /-- The full name under which the kind is called. -/
  callee : String
  engine : EngineKind
  /-- The column that the record operations key on. -/
  idColumn : String
  fetchColumns : String
  deriving DecidableEq, Repr, Inhabited

namespace ConnectionKind

def sqlite : ConnectionKind :=
  { label := "SQLiteConnection"
    callee := "quarry.core.adapters.sqlite.SQLiteConnection"
    engine := .sqlite
    idColumn := "rowid"
    fetchColumns := "rowid AS rowid, *" }

def mysql : ConnectionKind :=
  { label := "MySQLConnection"
    callee := "quarry.core.adapters.mysql.MySQLConnection"
    engine := .mysql
    idColumn := "id"
    fetchColumns := "*" }

def custom (label : String) (idColumn : String := "id") (fetchColumns : String := "*") :
    ConnectionKind :=
  { label, callee := label, engine := .custom, idColumn, fetchColumns }

end ConnectionKind

structure Connection where
  kind : ConnectionKind
  backend : Backend
  config : Config
  /-- How long an SQLite driver waits for a lock; null for the other engines. -/
  timeout : Value
  deriving Repr, Inhabited

namespace Connection

/-- Seconds to wait for a lock where nothing else is said. -/
def defaultTimeout : Value := .float ⟨0x4014000000000000⟩

def defaultCharset : Value := .text "utf8mb4"

def sqliteNames : List String := ["path", "readonly", "timeout"]

def mysqlNames : List String :=
  ["host", "port", "database", "username", "password", "pool_size", "connect_timeout", "charset"]

def optionsOf (names : List String) (arguments : Record) : Record :=
  arguments.filter fun (k, _) => !names.contains k

def ofSqliteArguments (kind : ConnectionKind) (arguments : Record) : Connection :=
  { kind
    backend := .sqlite
    config :=
      { backend := .backend .sqlite
        path := arguments.getD "path" Config.memoryPath
        readonly := arguments.getD "readonly" (.bool false)
        options := .object (optionsOf sqliteNames arguments) }
    timeout := arguments.getD "timeout" defaultTimeout }

/-- A MySQL connection from named arguments; what is not named is kept as an option, and the character
set is the last option. -/
def ofMysqlArguments (kind : ConnectionKind) (arguments : Record) : Connection :=
  let base : Config := {}
  { kind
    backend := .mysql
    config :=
      { backend := .backend .mysql
        host := arguments.getD "host" base.host
        port := arguments.getD "port" base.port
        database := arguments.getD "database" base.database
        username := arguments.getD "username" base.username
        password := arguments.getD "password" base.password
        poolSize := arguments.getD "pool_size" base.poolSize
        connectTimeout := arguments.getD "connect_timeout" base.connectTimeout
        options := .object (Record.put (optionsOf mysqlNames arguments) "charset"
          (arguments.getD "charset" defaultCharset)) }
    timeout := .null }

def ofCustomConfig (kind : ConnectionKind) (config : Config) : Except Misuse Connection :=
  match config.backend with
  | .backend b => .ok { kind, backend := b, config, timeout := .null }
  | v => .error (.noMember v.kindName "value")

/-- What a call takes that fills these parameters itself and accepts any other names. -/
def openSignature (callee : String) (filled : List String) : Signature :=
  { callee, ordered := filled, takesNames := true }

def sqliteSignature : Signature := openSignature "SQLiteConnection.__init__" ["self"]

def mysqlSignature : Signature := openSignature "MySQLConnection.__init__" ["self"]

def ofArguments (kind : ConnectionKind) (arguments : Record) : Except Misuse Connection :=
  match kind.engine with
  | .sqlite => do
    sqliteSignature.check 1 arguments.keys
    return ofSqliteArguments kind arguments
  | .mysql => do
    mysqlSignature.check 1 arguments.keys
    return ofMysqlArguments kind arguments
  | .custom => .error (.noMember "dict" "db_type")

/-- The characters of a value that may spell a number. The digits of a text may be of any script; bytes
outside ASCII spell nothing. -/
def numeralChars? : Value → Option (List Char)
  | .text s => some (Text.plainNumeral s.toList)
  | .backend b => some (Text.plainNumeral b.name.toList)
  | .bytes bs =>
    some (if bs.all (· < 0x80) then Text.trim (bs.map fun b => Char.ofNat b.toNat) else [])
  | _ => none

def seconds (v : Value) : Except Misuse Value :=
  match numeralChars? v with
  | some cs =>
    match Decimal.number? cs with
    | some x => .ok (.float x)
    | none => .error (.numberText v.literal)
  | none =>
    match v with
    | .float _ => .ok v
    | _ =>
      match v.asInt? with
      | some n => (Value.asFloat n).map .float
      | none => .error (.notNumber v.kindName)

/-- Arguments with the options of a configuration behind them; a name may not occur twice. -/
def withOptions (kind : ConnectionKind) (arguments options : Record) : Except Misuse Record :=
  match options.keys.find? fun k => arguments.has k with
  | some k => .error (.repeatedKeyword kind.callee k)
  | none => .ok (arguments ++ options)

def sqliteArguments (c : Config) : Except Misuse Record :=
  (seconds c.connectTimeout).map fun timeout =>
    [("path", Config.openPath c.path), ("readonly", c.readonly), ("timeout", timeout)]

def mysqlArguments (c : Config) (options : Record) : Record :=
  [("host", c.host), ("port", c.port), ("database", c.database), ("username", c.username),
    ("password", c.password), ("pool_size", c.poolSize), ("connect_timeout", c.connectTimeout),
    ("charset", options.getD "charset" defaultCharset)]

def ofSqliteConfig (kind : ConnectionKind) (c : Config) : Except Misuse Connection := do
  let arguments ← sqliteArguments c
  match c.options with
  | .object options => ofArguments kind (← withOptions kind arguments options)
  | v => .error (.notMapping kind.callee v.kindName)

/-- A MySQL connection from a configuration, whose options may be whatever stands for entries. That an
option has no text for a name is found after that it has the name of an argument. -/
def ofMysqlConfig (kind : ConnectionKind) (c : Config) : Except Misuse Connection := do
  let entries ← c.options.entries
  let options := Record.ofEntries (entries.map fun (name, v) => (name.nameText, v))
  let arguments ← withOptions kind (mysqlArguments c options) (options.erase "charset")
  if entries.all fun (name, _) => name.asText?.isSome then ofArguments kind arguments
  else .error .keywordName

def ofConfig (kind : ConnectionKind) (c : Config) : Except Misuse Connection :=
  match kind.engine with
  | .sqlite => ofSqliteConfig kind c
  | .mysql => ofMysqlConfig kind c
  | .custom => ofCustomConfig kind c

def summary (cn : Connection) (connected : Bool) : String :=
  cn.kind.label ++ "(" ++ cn.config.targetLiteral ++ ", connected=" ++ Value.showBool connected ++
    ")"

end Connection

end DataFetch
