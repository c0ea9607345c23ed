import DataFetch.Request.Reader
import DataFetch.Value.Plain

/-! # Dumping requests

The payload of a request, in the shape that reading accepts: plain values only, every condition with
its tag. Dumping fails at bytes that encode no text and where there are too many levels. Absent limits
are null, or left out of the compact form.
-/
namespace DataFetch

abbrev Dumped := Except PlainFault Value

namespace Predicate

def dumpFragment (text : String) (params : List Value) : Value :=
  .object [("kind", .text simpleTag), ("text", .text text), ("params", .list params)]

def dumpGroup (operatorKey : String) (operator : Operator) (members : List Value) : Value :=
  .object [("kind", .text groupTag), (operatorKey, .text operator.word), ("predicates", .list members)]

mutual
/-- The payload of a condition as a part of what is around it, where it takes one level. -/
def dumpPart? (operatorKey : String) (room : Nat) : Predicate → Option Value
  | simple text params =>
    if room = 0 then none
    else ((Value.plainItems (room - 1) params).toOption).map (dumpFragment text)
  | group operator members =>
    if room = 0 then none
    else (dumpParts? operatorKey (room - 1) members).map (dumpGroup operatorKey operator)

def dumpParts? (operatorKey : String) (room : Nat) : List Predicate → Option (List Value)
  | [] => some []
  | p :: rest =>
    match p.dumpPart? operatorKey room with
    | none => none
    | some v => (dumpParts? operatorKey room rest).map (v :: ·)
end

mutual
/-- The payload of a member of a list of conditions, for which `room` levels are left. What cannot be
made as a part of the whole is tried once more by itself, where a group takes two levels and its members
are members of a list in turn; the fault is that of the last attempt. -/
def dumpMember (operatorKey : String) (room : Nat) : Predicate → Dumped
  | simple text params =>
    if room = 0 then .error (.tooDeep false)
    else ((Value.plainItems (room - 1) params).mapError PlainFault.retried).map (dumpFragment text)
  | group operator members =>
    match dumpPart? operatorKey room (group operator members) with
    | some v => .ok v
    | none =>
      if room < 2 then .error (.tooDeep false)
      else (dumpMembers operatorKey (room - 2) members).map (dumpGroup operatorKey operator)

def dumpMembers (operatorKey : String) (room : Nat) :
    List Predicate → Except PlainFault (List Value)
  | [] => .ok []
  | p :: rest =>
    match p.dumpMember operatorKey room with
    | .error e => .error e
    | .ok v => (dumpMembers operatorKey room rest).map (v :: ·)
end

/-- The payload of a condition on its own, in which a fragment takes no level. -/
def dump (operatorKey : String) : Predicate → Dumped
  | simple text params => (Value.plainItems Value.levelLimit params).map (dumpFragment text)
  | group operator members =>
    (dumpMembers operatorKey (Value.levelLimit - 1) members).map (dumpGroup operatorKey operator)

/-- The payload of an outermost condition of a request, where a group takes two levels in either
attempt. -/
def dumpOutermost (operatorKey : String) : Predicate → Dumped
  | simple text params => (simple text params).dumpMember operatorKey Value.levelLimit
  | group operator members =>
    let room := Value.levelLimit - 2
    match dumpParts? operatorKey room members with
    | some ms => .ok (dumpGroup operatorKey operator ms)
    | none => (dumpMembers operatorKey room members).map (dumpGroup operatorKey operator)

def dumpAll (operatorKey : String) (ps : List Predicate) : Except PlainFault (List Value) :=
  ps.mapM (dumpOutermost operatorKey)

end Predicate

namespace SortKey

def dump (k : SortKey) : Value :=
  .object [("column", .text k.column), ("direction", .text k.direction.word)]

end SortKey

namespace FetchRequest

def dumpCount : Option Nat → Value
  | none => .null
  | some n => .int n

def dump (operatorKey : String) (r : FetchRequest) : Dumped :=
  (Predicate.dumpAll operatorKey r.predicates).map fun ps =>
    .object [("table", .text r.table), ("predicates", .list ps),
      ("sort", .list (r.sort.map SortKey.dump)),
      ("limit", dumpCount r.limit), ("offset", dumpCount r.offset)]

def countField (key : String) : Option Nat → Record
  | none => []
  | some n => [(key, .int n)]

/-- The payload without absent limits. -/
def compact (operatorKey : String) (r : FetchRequest) : Dumped :=
  (Predicate.dumpAll operatorKey r.predicates).map fun ps =>
    .object ([("table", .text r.table), ("predicates", .list ps),
      ("sort", .list (r.sort.map SortKey.dump))] ++
      countField "limit" r.limit ++ countField "offset" r.offset)

/-- The payload without absent limits, in which an operator stands under its own name. -/
def toPayload (r : FetchRequest) : Dumped :=
  r.compact "operator"

end FetchRequest

end DataFetch
