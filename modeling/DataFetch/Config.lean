import DataFetch.Fault.Basic

/-! # Connection configuration

What a connection is opened with. The fields are kept as the caller gave them; which of them matter
depends on the backend. A configuration is shown without its password.
-/
namespace DataFetch

structure Config where
  backend : Value := .backend .sqlite
  path : Value := .null
  host : Value := .text "localhost"
  port : Value := .int 3306
  database : Value := .text ""
  username : Value := .null
  password : Value := .null
  poolSize : Value := .int 5
  connectTimeout : Value := .int 10
  readonly : Value := .bool false
  /-- Further options for the driver; those of an opened connection are an object. -/
  options : Value := .object []
  deriving Repr, Inhabited

namespace Config

def fieldNames : List String :=
  ["db_type", "path", "host", "port", "database", "username", "password", "pool_size",
    "connect_timeout", "readonly", "options"]

def signature : Signature :=
  { callee := "DatabaseConfig.__init__", ordered := "self" :: fieldNames, optional := 11 }

def ofFields (fields : Record) : Except Misuse Config :=
  (signature.check 1 fields.keys).map fun _ =>
    let base : Config := {}
    { backend := fields.getD "db_type" base.backend
      path := fields.getD "path" base.path
      host := fields.getD "host" base.host
      port := fields.getD "port" base.port
      database := fields.getD "database" base.database
      username := fields.getD "username" base.username
      password := fields.getD "password" base.password
      poolSize := fields.getD "pool_size" base.poolSize
      connectTimeout := fields.getD "connect_timeout" base.connectTimeout
      readonly := fields.getD "readonly" base.readonly
      options := fields.getD "options" base.options }

/-- The options that have names. -/
def optionEntries (c : Config) : Record :=
  match c.options with
  | .object entries => entries
  | _ => []

/-- The path of a database that lives in memory only. -/
def memoryPath : Value := .text ":memory:"

/-- The path, or the memory when it is empty or absent. -/
def openPath (path : Value) : Value :=
  if path.isTruthy then path else memoryPath

/-- The user in front of a server address, with stars for the password. -/
def userPart (username : Value) : String :=
  if username.isTruthy then username.display ++ ":***@" else ""

def serverAddress (c : Config) : String :=
  "mysql://" ++ userPart c.username ++ c.host.display ++ ":" ++ c.port.display ++ "/" ++
    c.database.display

/-- Where a configuration leads: a path or a server address. -/
def target (c : Config) : Except Fault Value :=
  match c.backend.asText?.bind Backend.ofName? with
  | some .sqlite => .ok (openPath c.path)
  | some .mysql => .ok (.text c.serverAddress)
  | none =>
    .error (Fault.make .config ("Connection string not supported for: " ++ c.backend.display))

def targetLiteral (c : Config) : String :=
  match c.target with
  | .ok v => v.literal
  | .error f => f.summary

end Config

end DataFetch
