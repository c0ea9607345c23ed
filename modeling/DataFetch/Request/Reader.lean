import DataFetch.Misuse
import DataFetch.Request.Basic
import DataFetch.Validation.Scalar
import DataFetch.Value.Printer

/-! # Reading requests

The grammar of request payloads. A condition says what it is by its field `kind`; without one it is a
group if it has an operator and a fragment otherwise. The operator of a group is called `type` or
`operator`. Words may be in any case, and no field may be unknown. Conditions that stand too deep within
one another are refused, without a look at their fields.
-/
namespace DataFetch

open Validation

/-- The tags of the two kinds of condition. -/
def simpleTag : String := "simple"

def groupTag : String := "compound"

namespace Operator

/-- The operator that a value names in exactly its own spelling. -/
def ofValue (v : Value) : Except Misuse Operator :=
  match v.asText?.bind fun word => vocabulary.lookup word with
  | some operator => .ok operator
  | none => .error (.notMember v.literal "LogicalOperator")

end Operator

namespace Predicate

/-- The refusal to write an object of the sort `holder` that has a kind and nothing else. -/
def refuseKind (holder : String) (kind : Value) : Misuse :=
  if kind.asText? = some simpleTag then .noMember holder "text"
  else if kind.asText? = some groupTag then .noMember holder "predicates"
  else .unsuitable ("Unknown predicate kind: " ++ kind.literal)

/-- The field `kind` of a model that is read directly. -/
def checkKind (fields : Record) (tag : String) : Checked Unit :=
  Checked.optional fields "kind" () fun v =>
    if v.asText? = some tag then .ok () else Checked.refuse (.notLiteral tag)

def simpleOfFields (fields : Record) : Checked Predicate :=
  let kind := checkKind fields simpleTag
  let text := Checked.required fields "text" readText
  let params := Checked.optional fields "params" [] readItems
  ((kind.both (text.both params)).map fun (_, t, ps) => simple t ps)
    |> Checked.closing fields ["kind", "text", "params"]

def operatorKey? (fields : Record) : Option String :=
  if fields.has "type" then some "type"
  else if fields.has "operator" then some "operator"
  else none

def operatorOfFields (fields : Record) : Checked Operator :=
  Checked.required fields ((operatorKey? fields).getD "type")
    (readWord Operator.vocabulary Text.upper)

/-- Reads a group from its fields, given the reading of its members. -/
def groupOfFields (fields : Record) (members : Checked (List Predicate)) : Checked Predicate :=
  let kind := checkKind fields groupTag
  let operator := operatorOfFields fields
  ((kind.both (operator.both members)).map fun (_, op, ms) => group op ms)
    |> Checked.closing fields ["kind", (operatorKey? fields).getD "type", "predicates"]

/-- The value that decides what a condition is. -/
def tagOf (fields : Record) : Value :=
  match fields.get? "kind" with
  | some kind => kind
  | none => if (operatorKey? fields).isSome then .text groupTag else .text simpleTag

def tagComplaint : Value → Complaint
  | .null => .tagAbsent
  | tag => .tagUnknown tag.display

/-- How many conditions of a request may stand within one another. -/
def nestingLimit : Nat := 254

/-- What is read where `room` more conditions may stand within one another. -/
def inside (room : Nat) (c : Checked Predicate) : Checked Predicate :=
  match room with
  | 0 => Checked.refuse .nestedTooDeep
  | _ + 1 => c

mutual
def read (room : Nat) : Value → Checked Predicate
  | .object fields =>
    if (tagOf fields).asText? = some simpleTag then
      (inside room (simpleOfFields fields)).under (.key simpleTag)
    else if (tagOf fields).asText? = some groupTag then
      (inside room (groupOfFields fields (readMembers (room - 1) fields))).under (.key groupTag)
    else Checked.refuse (tagComplaint (tagOf fields))
  | _ => Checked.refuse .tagAbsent

def readMembers (room : Nat) : List (String × Value) → Checked (List Predicate)
  | [] => .ok []
  | (k, v) :: rest =>
    if k = "predicates" then (readForest room v).under (.key "predicates")
    else readMembers room rest

def readForest (room : Nat) : Value → Checked (List Predicate)
  | .list items => readAll room 0 items
  | _ => Checked.refuse .notTuple

/-- Reads the conditions of a list, the first of which has the index `start`. -/
def readAll (room start : Nat) : List Value → Checked (List Predicate)
  | [] => .ok []
  | v :: rest =>
    (((read room v).under (.index start)).both (readAll room (start + 1) rest)).map
      fun (p, ps) => p :: ps
end

/-- Reads a fragment that needs no tag. -/
def readSimple : Value → Checked Predicate
  | .object fields => simpleOfFields fields
  | _ => Checked.refuse (.notModel "SimplePredicate")

/-- Reads a group that needs no tag, and that is not counted among the conditions within one another. -/
def readGroup : Value → Checked Predicate
  | .object fields => groupOfFields fields (readMembers nestingLimit fields)
  | _ => Checked.refuse (.notModel "CompoundPredicate")

end Predicate

namespace SortKey

def read : Value → Checked SortKey
  | .object fields =>
    let column := Checked.required fields "column" readText
    let direction := Checked.optional fields "direction" .ascending
      (readWord Direction.vocabulary Text.upper)
    ((column.both direction).map fun (c, d) => ⟨c, d⟩)
      |> Checked.closing fields ["column", "direction"]
  | _ => Checked.refuse (.notModel "SortClause")

def readAll : Value → Checked (List SortKey)
  | .list items => Checked.indexed read 0 items
  | _ => Checked.refuse .notTuple

end SortKey

namespace FetchRequest

def ofFields (fields : Record) : Checked FetchRequest :=
  let table := Checked.required fields "table" readText
  let predicates :=
    Checked.optional fields "predicates" [] (Predicate.readForest Predicate.nestingLimit)
  let sort := Checked.optional fields "sort" [] SortKey.readAll
  let limit := Checked.optional fields "limit" none (readNullable readCount)
  let offset := Checked.optional fields "offset" none (readNullable readCount)
  ((table.both (predicates.both (sort.both (limit.both offset)))).map
      fun (t, ps, s, l, o) => ⟨t, ps, s, l, o⟩)
    |> Checked.closing fields ["table", "predicates", "sort", "limit", "offset"]

def read : Value → Checked FetchRequest
  | .object fields => ofFields fields
  | _ => Checked.refuse (.notModel "FetchRequest")

end FetchRequest

end DataFetch
