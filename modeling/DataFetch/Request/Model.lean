import DataFetch.Attribute
import DataFetch.Request.Dump
import DataFetch.Request.Equality

/-! # Models

The four shapes that a payload can be read as on its own, with their instances. The fields of an
instance cannot be changed after it is made; names that are private to it can be set.
-/
namespace DataFetch

inductive Model where
  | fetchRequest
  | simplePredicate
  | compoundPredicate
  | sortClause
  deriving DecidableEq, Repr

inductive Instance where
  | request (r : FetchRequest)
  | predicate (p : Predicate)
  | sortKey (k : SortKey)
  deriving Repr

namespace Model

def vocabulary : List (String × Model) :=
  [("FetchRequest", fetchRequest), ("SimplePredicate", simplePredicate),
    ("CompoundPredicate", compoundPredicate), ("SortClause", sortClause)]

def ofName? (name : String) : Option Model :=
  vocabulary.lookup name

def read : Model → Value → Checked Instance
  | fetchRequest, v => (FetchRequest.read v).map .request
  | simplePredicate, v => (Predicate.readSimple v).map .predicate
  | compoundPredicate, v => (Predicate.readGroup v).map .predicate
  | sortClause, v => (SortKey.read v).map .sortKey

end Model

namespace Instance

def same : Instance → Instance → Bool
  | request r, request s => r.same s
  | predicate p, predicate q => p.same q
  | sortKey k, sortKey l => k == l
  | _, _ => false

/-- The payload with every field; `operatorKey` names the operator of a group. -/
def dump (operatorKey : String) : Instance → Dumped
  | request r => r.dump operatorKey
  | predicate p => p.dump operatorKey
  | sortKey k => .ok k.dump

def label : Instance → String
  | request _ => "FetchRequest"
  | predicate (.simple _ _) => "SimplePredicate"
  | predicate (.group _ _) => "CompoundPredicate"
  | sortKey _ => "SortClause"

/-- Names whose values are computed. -/
def computed : List String := ["__fields__", "__fields_set__"]

/-- The refusal of a name that no instance of the model can set. -/
def locked? (label name : String) (v : Value) : Option Misuse :=
  if computed.contains name then
    some (.readOnly ("property '" ++ name ++ "' of '" ++ label ++ "' object has no setter"))
  else Attribute.locked? label name v

/-- The outcome of setting a name. An underscore in front makes it private; any other name, of a field
or not, is refused. -/
def assignNamed (x : Instance) (name : String) (v : Value) : Except Refusal Unit :=
  if name.startsWith "_" then
    match locked? x.label name v with
    | some m => .error (.misuse m)
    | none => .ok ()
  else .error (.invalid [⟨[.key name], .frozen⟩])

def assign (x : Instance) (name v : Value) : Except Refusal Unit :=
  ((Attribute.nameOf name).mapError .misuse).bind fun name => x.assignNamed name v

end Instance

end DataFetch
