import DataFetch.Value.Basic

/-! # Fetch requests

A read query without any dialect: a table, a forest of predicates that all have to hold, the sort
keys, and an optional window of rows.
-/
namespace DataFetch

/-- What joins the members of a group. -/
inductive Operator where
  | and
  | or
  deriving DecidableEq, Repr, Inhabited

namespace Operator

def word : Operator → String
  | .and => "AND"
  | .or => "OR"

def vocabulary : List (String × Operator) := [("AND", .and), ("OR", .or)]

end Operator

inductive Direction where
  | ascending
  | descending
  deriving DecidableEq, Repr, Inhabited

namespace Direction

def word : Direction → String
  | ascending => "ASC"
  | descending => "DESC"

def vocabulary : List (String × Direction) := [("ASC", ascending), ("DESC", descending)]

end Direction

/-- A condition: a fragment with the values bound to its placeholders, or a group of conditions. -/
inductive Predicate where
  | simple (text : String) (params : List Value)
  | group (operator : Operator) (members : List Predicate)
  deriving Repr, Inhabited

namespace Predicate

mutual
/-- The fragments of a condition with their values, from left to right. -/
def leaves : Predicate → List (String × List Value)
  | simple text params => [(text, params)]
  | group _ members => leavesOf members

def leavesOf : List Predicate → List (String × List Value)
  | [] => []
  | p :: rest => p.leaves ++ leavesOf rest
end

end Predicate

structure SortKey where
  column : String
  direction : Direction := .ascending
  deriving DecidableEq, Repr, Inhabited

structure FetchRequest where
  table : String
  predicates : List Predicate := []
  sort : List SortKey := []
  limit : Option Nat := none
  offset : Option Nat := none
  deriving Repr, Inhabited

namespace FetchRequest

def leaves (r : FetchRequest) : List (String × List Value) :=
  Predicate.leavesOf r.predicates

end FetchRequest

end DataFetch
