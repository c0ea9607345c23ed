import DataFetch.Value.Arithmetic

/-! # Entries of values

The names with values that a value stands for: the fields of an object, or a sequence whose elements
have two parts each. A name read from a part need not be a text yet.
-/
namespace DataFetch.Value

def checkName : Value → Except Misuse Unit
  | list items => .error (.unhashable (list items).kindName)
  | object fields => .error (.unhashable (object fields).kindName)
  | _ => .ok ()

/-- The pairs that values with two parts each stand for; `index` is the place of the first. -/
def pairs (index : Nat) : List Value → Except Misuse (List (Value × Value))
  | [] => .ok []
  | v :: rest =>
    match v.elements? with
    | some [name, value] => do
      checkName name
      return (name, value) :: (← pairs (index + 1) rest)
    | some parts => .error (.pairLength index parts.length)
    | none => .error (.notPair index)

def entries (v : Value) : Except Misuse (List (Value × Value)) :=
  match v with
  | object fields => .ok (fields.map fun (k, w) => (text k, w))
  | _ => v.elements.bind (pairs 0)

/-- The text of a name, as it is shown where it is none. -/
def nameText (name : Value) : String :=
  name.asText?.getD name.display

end DataFetch.Value
