import DataFetch.Misuse

/-! # Signatures

What a call takes: parameters that are filled in order or by name, and perhaps any number of further
values or names. A call that does not fit is refused for its names before it is refused for the number
of its values.
-/
namespace DataFetch

structure Signature where
  /-- The name of the call in a refusal. -/
  callee : String
  /-- The parameters that values in order fill, the receiver among them. -/
  ordered : List String
  /-- How many parameters at the end of these have a default. -/
  optional : Nat := 0
  named : List String := []
  takesValues : Bool := false
  takesNames : Bool := false
  deriving Repr, Inhabited

namespace Signature

/-- The refusal of one name in a call with `given` values in order. -/
def refuseName? (s : Signature) (given : Nat) (name : String) : Option Misuse :=
  if (s.ordered.take given).contains name then some (.repeatedArgument s.callee name)
  else if s.ordered.contains name || s.named.contains name || s.takesNames then none
  else some (.unexpectedArgument s.callee name)

/-- The refusal of a call with too many or too few values in order. -/
def refuseNumber? (s : Signature) (given : Nat) (names : List String) : Option Misuse :=
  let least := s.ordered.length - s.optional
  if given > s.ordered.length && !s.takesValues then
    some (.surplusArguments s.callee least s.ordered.length given)
  else
    match ((s.ordered.take least).drop given).filter (!names.contains ·) with
    | [] => none
    | absent => some (.missingArguments s.callee absent)

def refuse? (s : Signature) (given : Nat) (names : List String) : Option Misuse :=
  (names.findSome? (s.refuseName? given)).or (s.refuseNumber? given names)

def check (s : Signature) (given : Nat) (names : List String) : Except Misuse Unit :=
  match s.refuse? given names with
  | some m => .error m
  | none => .ok ()

end Signature

end DataFetch
