import DataFetch.Attribute
import DataFetch.Signature
import DataFetch.Value.Entries

/-! # Contexts of faults

Where and in what a fault happened. A context is an object with attributes of its own: an entry that is
added under the name of one replaces it, any other goes into the metadata, and the view of a context
lays the metadata over the four fields that are set.
-/
namespace DataFetch

/-- The attributes of a new context. Four fields have a place of their own; everything else goes into
the metadata. -/
def FaultContext.fresh (backend table statement paramCount metadata : Value) : Record :=
  [("backend", backend), ("table", table), ("statement", statement), ("param_count", paramCount),
    ("metadata", metadata)]

/-- Where and in what a fault happened: named attributes. -/
structure FaultContext where
  attributes : Record := FaultContext.fresh .null .null .null .null (.object [])
  deriving Repr, Inhabited

namespace FaultContext

def label : String := "ErrorContext"

/-- The fields with a place of their own; where the attribute is absent they are null. -/
def fieldNames : List String := ["backend", "table", "statement", "param_count"]

def signature : Signature :=
  { callee := label ++ ".__init__", ordered := "self" :: fieldNames ++ ["metadata"], optional := 5 }

def ofArguments (arguments : Record) : Except Misuse FaultContext :=
  (signature.check 1 arguments.keys).map fun _ =>
    let value (key : String) : Value := arguments.getD key .null
    ⟨fresh (value "backend") (value "table") (value "statement") (value "param_count")
      (arguments.getD "metadata" (.object []))⟩

/-- Further names that belong to every context. -/
def reserved : List String :=
  ["__annotations__", "__class__", "__dataclass_fields__", "__dataclass_params__", "__delattr__",
    "__dict__", "__dir__", "__doc__", "__eq__", "__format__", "__ge__", "__getattribute__",
    "__getstate__", "__gt__", "__hash__", "__init__", "__init_subclass__", "__le__", "__lt__",
    "__match_args__", "__module__", "__ne__", "__new__", "__reduce__", "__reduce_ex__", "__repr__",
    "__setattr__", "__sizeof__", "__str__", "__subclasshook__", "__weakref__", "to_dict"]

def has (c : FaultContext) (key : String) : Bool :=
  c.attributes.has key || fieldNames.contains key || reserved.contains key

/-- The context with an attribute set, or with all of them replaced. -/
def set (c : FaultContext) (key : String) (v : Value) : FaultContext :=
  match v with
  | .object fields => if key = "__dict__" then ⟨fields⟩ else ⟨c.attributes.put key v⟩
  | _ => ⟨c.attributes.put key v⟩

def putMetadata (c : FaultContext) (key : String) (v : Value) : Except Misuse FaultContext :=
  match c.attributes.get? "metadata" with
  | none => .error (.noMember label "metadata")
  | some (.object entries) => .ok (c.set "metadata" (.object (Record.put entries key v)))
  | some (.list _) => .error .listIndex
  | some m => .error (.noEntries m.kindName)

/-- Adds one entry: to the attribute of that name, otherwise to the metadata. The metadata as a whole
cannot be replaced so. -/
def put (c : FaultContext) (key : String) (v : Value) : Except Misuse FaultContext :=
  if c.has key && key ≠ "metadata" then
    match Attribute.locked? label key v with
    | some m => .error m
    | none => .ok (c.set key v)
  else c.putMetadata key v

def putAll (c : FaultContext) (entries : Record) : Except Misuse FaultContext :=
  entries.foldlM (fun c (key, v) => c.put key v) c

def entry (key : String) : Value → Record
  | .null => []
  | v => [(key, v)]

def fields (c : FaultContext) : Record :=
  fieldNames.flatMap fun key => entry key (c.attributes.getD key .null)

def entriesOf (metadata : Value) : Except Misuse Record :=
  metadata.entries.map fun entries => entries.map fun (name, v) => (name.nameText, v)

/-- The entries of a context; under one name the metadata wins. -/
def view (c : FaultContext) : Except Misuse Record :=
  match c.attributes.get? "to_dict", c.attributes.get? "metadata" with
  | some v, _ => .error (.notCallable v.kindName)
  | none, none => .error (.noMember label "metadata")
  | none, some m => if m.isTruthy then (entriesOf m).map c.fields.putAll else .ok c.fields

end FaultContext

end DataFetch
