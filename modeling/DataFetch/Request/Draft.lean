import DataFetch.Request.Reader
import DataFetch.Statement.Layout
import DataFetch.Value.Arithmetic

/-! # Drafts of requests

A request put together step by step. Conditions and sort keys are checked when they are added; the
table and the window are kept as given and checked when the request is built.
-/
namespace DataFetch

structure Draft where
  table : Value
  predicates : List Predicate := []
  sort : List SortKey := []
  limit : Value := .null
  offset : Value := .null
  deriving Repr, Inhabited

inductive DraftStep where
  | condition (text params : Value)
  | group (operator : Operator) (clauses : List Value)
  | orderBy (column direction : Value)
  | limit (count : Value)
  | offset (count : Value)
  | page (number size : Value)
  | build
  | compile
  | refused (m : Misuse)
  deriving Repr, Inhabited

namespace DraftStep

def label : String := "FetchRequestBuilder"

/-- The parameters of the methods that take values in order, each with the number of those that have a
default. -/
def methods : List (String × List String × Nat) :=
  [("where", ["text", "params"], 1), ("order_by", ["column", "direction"], 1),
    ("limit", ["count"], 0), ("offset", ["count"], 0), ("page", ["number", "size"], 0),
    ("build", [], 0)]

def signature? (method : String) : Option Signature :=
  (methods.lookup method).map fun (parameters, optional) =>
    { callee := label ++ "." ++ method, ordered := "self" :: parameters, optional }

def ofClauses (method : String) (operator : Operator) (clauses : Value) : DraftStep :=
  match clauses.elements? with
  | some cs => .group operator cs
  | none =>
    .refused (.notSpreadable ("quarry.core.fetch.builder." ++ label ++ "." ++ method) clauses.kindName)

def ofFitting (method : String) (arguments : List Value) : DraftStep :=
  match method, arguments with
  | "where", text :: rest => .condition text (rest.headD (.list []))
  | "order_by", column :: rest => .orderBy column (rest.headD (.text Direction.ascending.word))
  | "limit", [count] => .limit count
  | "offset", [count] => .offset count
  | "page", [number, size] => .page number size
  | _, _ => .build

/-- The step that a call of a method stands for. The clauses of a group come as one value. -/
def ofCall (method : String) (arguments : List Value) : DraftStep :=
  match method, arguments with
  | "where_and", [clauses] => ofClauses method .and clauses
  | "where_or", [clauses] => ofClauses method .or clauses
  | "compile", _ => .compile
  | _, _ =>
    match signature? method with
    | none => .refused (.noMember label method)
    | some s =>
      match s.refuse? (arguments.length + 1) [] with
      | some m => .refused m
      | none => ofFitting method arguments

end DraftStep

inductive DraftReply where
  | done
  | request (r : FetchRequest)
  | command (c : Command)
  deriving Repr

namespace Draft

def start (table : Value) : Draft := { table }

/-- A fragment from an unchecked text and its values. -/
def fragment (text : Value) (params : List Value) : Except Refusal Predicate :=
  (Predicate.readSimple (.object [("text", text), ("params", .list params)])).mapError .invalid

/-- The values bound by a single condition: one text or byte string counts as one value. -/
def boundValues (params : Value) : Except Misuse (List Value) :=
  match params with
  | .text _ | .bytes _ | .backend _ => .ok [params]
  | _ => params.elements

/-- A clause taken apart into its text and the values after it. -/
def splitClause (clause : Value) : Except Misuse (Value × List Value) :=
  match clause.elements? with
  | none => .error (.notUnpackable clause.kindName)
  | some [] => .error .nothingToUnpack
  | some (text :: params) => .ok (text, params)

/-- The members of a group, in order; the first clause that is refused decides. -/
def members : List Value → Except Refusal (List Predicate)
  | [] => .ok []
  | clause :: rest => do
    let (text, params) ← (splitClause clause).mapError .misuse
    let p ← fragment text params
    let ps ← members rest
    return p :: ps

def addPredicate (d : Draft) (p : Predicate) : Draft :=
  { d with predicates := d.predicates ++ [p] }

def condition (d : Draft) (text params : Value) : Except Refusal Draft := do
  let values ← (boundValues params).mapError .misuse
  let p ← fragment text values
  return d.addPredicate p

def group (d : Draft) (operator : Operator) (clauses : List Value) : Except Refusal Draft := do
  let ps ← members clauses
  return d.addPredicate (.group operator ps)

def orderBy (d : Draft) (column direction : Value) : Except Refusal Draft := do
  let k ← (SortKey.read (.object [("column", column), ("direction", direction)])).mapError .invalid
  return { d with sort := d.sort ++ [k] }

/-- Restricts the draft to one page. The limit is set before the offset is computed, so it stays when
the offset cannot be computed. -/
def page (d : Draft) (number size : Value) : Draft × Except Refusal Unit :=
  let limited := { d with limit := size }
  match Value.pageOffset number size with
  | .ok before => ({ limited with offset := before }, .ok ())
  | .error m => (limited, .error (.misuse m))

def build (d : Draft) : Checked FetchRequest :=
  let table := (Validation.readText d.table).under (.key "table")
  let limit := (Validation.readNullable Validation.readCount d.limit).under (.key "limit")
  let offset := (Validation.readNullable Validation.readCount d.offset).under (.key "offset")
  (table.both (limit.both offset)).map fun (t, l, o) =>
    { table := t, predicates := d.predicates, sort := d.sort, limit := l, offset := o }

def compile (layout : Layout) (d : Draft) : Except Refusal Command := do
  let r ← d.build.mapError .invalid
  (layout.compile r).mapError .misuse

def summary (d : Draft) : String :=
  "FetchRequestBuilder(table=" ++ d.table.literal ++ ", predicates=" ++
    toString d.predicates.length ++ ", sort=" ++ toString d.sort.length ++ ")"

/-- A step that either succeeds or leaves the draft as it was. -/
def guarded (d : Draft) : Except Refusal Draft → Draft × Except Refusal DraftReply
  | .ok next => (next, .ok .done)
  | .error r => (d, .error r)

def apply (layout : Layout) (d : Draft) : DraftStep → Draft × Except Refusal DraftReply
  | .condition text params => d.guarded (d.condition text params)
  | .group operator clauses => d.guarded (d.group operator clauses)
  | .orderBy column direction => d.guarded (d.orderBy column direction)
  | .limit count => ({ d with limit := count }, .ok .done)
  | .offset count => ({ d with offset := count }, .ok .done)
  | .page number size =>
    let (next, outcome) := d.page number size
    (next, outcome.map fun _ => .done)
  | .build => (d, (d.build.mapError .invalid).map .request)
  | .compile => (d, (d.compile layout).map .command)
  | .refused m => (d, .error (.misuse m))

/-- The draft after some calls, whatever they answer. -/
def applyAll (layout : Layout) (d : Draft) (steps : List DraftStep) : Draft :=
  steps.foldl (fun d s => (d.apply layout s).1) d

/-- Applies steps up to the first that is refused. -/
def attempt (layout : Layout) (d : Draft) : List DraftStep → Except Refusal Draft
  | [] => .ok d
  | s :: rest =>
    match d.apply layout s with
    | (_, .error r) => .error r
    | (next, .ok _) => next.attempt layout rest

end Draft

end DataFetch
