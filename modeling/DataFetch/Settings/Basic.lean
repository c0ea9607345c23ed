import DataFetch.Config
import DataFetch.Connection.Directory
import DataFetch.Settings.Source
import DataFetch.Validation.Scalar

/-! # Settings

Connection settings from named arguments, the environment and a settings file. Each field takes the
first source that has it, and its default when none has.
-/
namespace DataFetch

structure Settings where
  backend : Backend := .sqlite
  path : String := ":memory:"
  readonly : Bool := false
  host : String := "localhost"
  port : Int := 3306
  database : String := ""
  username : Option String := none
  password : Option String := none
  poolSize : Int := 5
  connectTimeout : Int := 10
  deriving DecidableEq, Repr, Inhabited

namespace Settings

open Validation

/-- A backend's name in lower case, where one of them has a second name. -/
def normalizeBackend (s : String) : String :=
  let word := Text.lower s
  if word = "mariadb" then "mysql" else word

def backendVocabulary : Vocabulary Backend := [("sqlite", .sqlite), ("mysql", .mysql)]

/-- A field that is read from the sources, or its default. -/
def readField {α : Type} (s : SettingsSources) (field : String) (default : α)
    (read : Value → Checked α) : Checked α :=
  match s.value? field with
  | none => .ok default
  | some v => (read v).under (.key field)

def read (s : SettingsSources) : Checked Settings :=
  let base : Settings := {}
  let backend := readField s "backend" base.backend (readWord backendVocabulary normalizeBackend)
  let path := readField s "path" base.path readText
  let readonly := readField s "readonly" base.readonly readTruth
  let host := readField s "host" base.host readText
  let port := readField s "port" base.port (readBounded 1 (some 65535))
  let database := readField s "database" base.database readText
  let username := readField s "username" base.username (readNullable readText)
  let password := readField s "password" base.password (readNullable readText)
  let poolSize := readField s "pool_size" base.poolSize (readBounded 1 (some 32))
  let timeout := readField s "connect_timeout" base.connectTimeout (readBounded 1 none)
  (backend.both (path.both (readonly.both (host.both (port.both (database.both (username.both
    (password.both (poolSize.both timeout))))))))).map
    fun (b, p, ro, h, po, d, u, pw, n, t) => ⟨b, p, ro, h, po, d, u, pw, n, t⟩

def shownPassword (s : Settings) : Option String :=
  s.password.map fun p => if p.isEmpty then "" else "**********"

def textOrNull : Option String → Value
  | some s => .text s
  | none => .null

/-- The password that a connection is opened with: an empty one is none. -/
def secret (s : Settings) : Option String :=
  s.password.filter fun p => !p.isEmpty

/-- The configuration of the settings. A server needs a database. -/
def toConfig (s : Settings) : Except Fault Config :=
  if s.backend = .mysql && s.database.isEmpty then
    .error (Fault.missingConfig (.text "QUARRY_DB_DATABASE"))
  else
    .ok
      { backend := .backend s.backend
        path := .text s.path
        host := .text s.host
        port := .int s.port
        database := .text s.database
        username := textOrNull s.username
        password := textOrNull s.secret
        poolSize := .int s.poolSize
        connectTimeout := .int s.connectTimeout
        readonly := .bool s.readonly }

/-- The connection that the settings stand for, not yet opened. -/
def connect (s : Settings) : Except DirectoryError Connection := do
  let c ← s.toConfig.mapError .fault
  Directory.initial.createFromConfig c

end Settings

end DataFetch
