import DataFetch.Value.Basic

/-! # Equality of values

Truth values, integers and floating point numbers are equal when they are the same number, compared
exactly; a text never equals bytes; the order of an object's fields does not count; and a number that
is not a number equals nothing.
-/
namespace DataFetch.Value

/-- The integer that a truth value or an integer stands for. -/
def asInt? : Value → Option Int
  | bool b => some (if b then 1 else 0)
  | int n => some n
  | _ => none

/-- Equality of values that hold no others. -/
def sameAtom (v w : Value) : Bool :=
  match v, w with
  | null, null => true
  | float x, float y => x.equals y
  | bytes a, bytes b => a == b
  | _, _ =>
    match v.asText?, w.asText? with
    | some s, some t => s == t
    | none, none =>
      match v.asInt?, w.asInt? with
      | some m, some n => m == n
      | some m, none => match w with
        | float y => y.toInt? == some m
        | _ => false
      | none, some n => match v with
        | float x => x.toInt? == some n
        | _ => false
      | none, none => false
    | _, _ => false

mutual
def same : Value → Value → Bool
  | list xs, list ys => sameItems xs ys
  | object fs, object gs => fs.length == gs.length && sameFields fs gs
  | v, w => sameAtom v w

def sameItems : List Value → List Value → Bool
  | [], [] => true
  | x :: xs, y :: ys => x.same y && sameItems xs ys
  | _, _ => false

/-- Has every field an equal one of the same name among `others`? -/
def sameFields : List (String × Value) → List (String × Value) → Bool
  | [], _ => true
  | (k, v) :: rest, others =>
    (match Record.get? others k with
      | some w => v.same w
      | none => false) && sameFields rest others
end

end DataFetch.Value
