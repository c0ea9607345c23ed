import DataFetch.Misuse
import DataFetch.Value.Printer

/-! # Kinds of faults

The hierarchy of faults and the categories they are sorted into. A kind says by itself which category
it has and whether trying again can help.
-/
namespace DataFetch

inductive FaultCategory where
  | network
  | database
  | config
  | internal
  deriving DecidableEq, Repr, Inhabited

namespace FaultCategory

def name : FaultCategory → String
  | network => "NETWORK"
  | database => "DATABASE"
  | config => "CONFIG"
  | internal => "INTERNAL"

def all : List FaultCategory := [network, database, config, internal]

def ofName? (s : String) : Option FaultCategory :=
  all.find? fun c => c.name == s

/-- The category that a value names. -/
def ofValue (v : Value) : Except Misuse FaultCategory :=
  match v.asText?.bind ofName? with
  | some c => .ok c
  | none => .error (.notMember v.literal "ErrorCategory")

end FaultCategory

inductive FaultKind where
  | general
  | transient
  | connection
  | config
  | missingConfig
  | invalidConfig
  | database
  | query
  | integrity
  deriving DecidableEq, Repr, Inhabited

namespace FaultKind

def name : FaultKind → String
  | general => "QuarryError"
  | transient => "TransientError"
  | connection => "DatabaseConnectionError"
  | config => "ConfigError"
  | missingConfig => "MissingConfigError"
  | invalidConfig => "InvalidConfigError"
  | database => "DatabaseError"
  | query => "QueryError"
  | integrity => "IntegrityError"

def all : List FaultKind :=
  [general, transient, connection, config, missingConfig, invalidConfig, database, query, integrity]

def ofName? (s : String) : Option FaultKind :=
  all.find? fun k => k.name == s

/-- A kind with the more general kinds that it belongs to, the most general last. -/
def family : FaultKind → List FaultKind
  | general => [general]
  | transient => [transient, general]
  | connection => [connection, transient, general]
  | config => [config, general]
  | missingConfig => [missingConfig, config, general]
  | invalidConfig => [invalidConfig, config, general]
  | database => [database, general]
  | query => [query, database, general]
  | integrity => [integrity, database, general]

def category : FaultKind → FaultCategory
  | general => .internal
  | transient => .network
  | config | missingConfig | invalidConfig => .config
  | connection | database | query | integrity => .database

/-- Can trying again help? -/
def retryable : FaultKind → Bool
  | transient | connection => true
  | _ => false

end FaultKind

end DataFetch
