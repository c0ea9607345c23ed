import DataFetch.Connection.Basic
import DataFetch.Text.CaseMap

/-! # The directory of connection kinds

Names stand for kinds of connection, whatever their case; a later registration of a name takes the
place of an earlier one.
-/
namespace DataFetch

inductive DirectoryError where
  | fault (f : Fault)
  | misuse (m : Misuse)
  deriving Repr

/-- Kinds of connection under lower case names, in the order in which the names first came. -/
structure Directory where
  entries : List (String × ConnectionKind)
  deriving Repr, Inhabited

namespace Directory

/-- The directory with the kinds that are always there. -/
def initial : Directory :=
  ⟨[("sqlite", .sqlite), ("mysql", .mysql), ("mariadb", .mysql)]⟩

/-- Puts a kind under a name, in place when the name occurs. -/
def putEntry : List (String × ConnectionKind) → String → ConnectionKind →
    List (String × ConnectionKind)
  | [], name, kind => [(name, kind)]
  | (n, k) :: rest, name, kind =>
    if n = name then (n, kind) :: rest else (n, k) :: putEntry rest name kind

def register (d : Directory) (name : String) (kind : ConnectionKind) : Directory :=
  ⟨putEntry d.entries (Text.lower name) kind⟩

def unknownBackend (name : Value) : Fault :=
  Fault.invalidConfig (.text "backend") name (.text ("Unknown database backend: " ++ name.display))

def nameOf (v : Value) : Except Misuse String :=
  match v.asText? with
  | some s => .ok s
  | none => .error (.noMember v.kindName "lower")

/-- The kind of a name in any case. Bytes have a case too but name nothing. -/
def find (d : Directory) (name : Value) : Except DirectoryError ConnectionKind :=
  match name with
  | .bytes bs =>
    .error (.fault (unknownBackend
      (.bytes (bs.map fun b => if 0x41 ≤ b ∧ b ≤ 0x5a then b + 0x20 else b))))
  | _ =>
    match nameOf name with
    | .error m => .error (.misuse m)
    | .ok s =>
      match d.entries.lookup (Text.lower s) with
      | some kind => .ok kind
      | none => .error (.fault (unknownBackend (.text (Text.lower s))))

def createSignature : Signature :=
  Connection.openSignature "ConnectionRegistry.create" ["self", "name"]

def connectSignature : Signature := Connection.openSignature "get_connection" ["db_type"]

def create (d : Directory) (name : Value) (arguments : Record) :
    Except DirectoryError Connection := do
  (createSignature.check 2 arguments.keys).mapError .misuse
  let kind ← d.find name
  (Connection.ofArguments kind arguments).mapError .misuse

/-- A connection of the kind that a value names, from the kinds that are always there. -/
def connect (name : Value) (arguments : Record) : Except DirectoryError Connection := do
  (connectSignature.check 1 arguments.keys).mapError .misuse
  initial.create name arguments

def createFromConfig (d : Directory) (c : Config) : Except DirectoryError Connection :=
  match c.backend with
  | .backend b => do
    let kind ← d.find (.text b.name)
    (Connection.ofConfig kind c).mapError .misuse
  | v => .error (.misuse (.noMember v.kindName "value"))

/-- The registered names in code point order. -/
def names (d : Directory) : List String :=
  (d.entries.map (·.1)).mergeSort fun a b => !decide (b < a)

end Directory

end DataFetch
