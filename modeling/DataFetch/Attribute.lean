import DataFetch.Misuse
import DataFetch.Value.Printer

/-! # Attributes

Names that every object has beside its own: its class, its attributes as a whole and the references
that do not keep it alive.
-/
namespace DataFetch.Attribute

/-- The name of an attribute, which has to be a text. -/
def nameOf (v : Value) : Except Misuse String :=
  match v.asText? with
  | some name => .ok name
  | none => .error (.memberName v.kindName)

/-- The refusal of a name of this sort on an object of the kind `label`. No value of a payload is a
class; the attributes as a whole can be replaced by an object. -/
def locked? (label name : String) (v : Value) : Option Misuse :=
  if name = "__class__" then
    some (.unsuitable ("__class__ must be set to a class, not '" ++ v.kindName ++ "' object"))
  else if name = "__dict__" then
    match v with
    | .object _ => none
    | _ => some (.unsuitable ("__dict__ must be set to a dictionary, not a '" ++ v.kindName ++ "'"))
  else if name = "__weakref__" then
    some (.readOnly ("attribute '__weakref__' of '" ++ label ++ "' objects is not writable"))
  else none

end DataFetch.Attribute
