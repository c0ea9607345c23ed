import DataFetch.Misuse
import DataFetch.Value.Equality
import DataFetch.Value.Printer

/-! # Arithmetic and elements of values

Subtraction, multiplication and clipping on values that nobody has checked yet, and the elements that
a value has. Whole numbers are exact; with a floating point number on one side the other is converted
first; a sequence times a whole number is repeated.
-/
namespace DataFetch.Value

/-- The elements of a value: items, characters, byte values or field names. -/
def elements? : Value → Option (List Value)
  | list items => some items
  | text s => some (s.toList.map fun c => text (String.singleton c))
  | backend b => some (b.name.toList.map fun c => text (String.singleton c))
  | bytes bs => some (bs.map fun b => int b.toNat)
  | object fields => some (fields.map fun (k, _) => text k)
  | _ => none

def elements (v : Value) : Except Misuse (List Value) :=
  match v.elements? with
  | some items => .ok items
  | none => .error (.notIterable v.kindName)

def asFloat (n : Int) : Except Misuse Binary64 :=
  match Binary64.ofInt? n with
  | some x => .ok x
  | none => .error .floatTooLarge

/-- `v - 1`. -/
def pred (v : Value) : Except Misuse Value :=
  match v with
  | float x => (asFloat 1).map fun one => float (x.sub one)
  | _ =>
    match v.asInt? with
    | some n => .ok (int (n - 1))
    | none => .error (.operands "-" v.kindName "int")

def clipBelow : Value → Value
  | int n => int (max n 0)
  | float x => if x.isBelowZero then int 0 else float x
  | v => v

/-- The number that a value is, or zero when that is larger. -/
def atLeastZero (v : Value) : Except Misuse Value :=
  match v, v.asInt? with
  | float _, _ | _, some _ => .ok (clipBelow v)
  | _, none => .error (.incomparable ">" "int" v.kindName)

/-- The longest sequence that can be addressed. -/
def longest : Nat := twoTo 63 - 1

/-- The longest sequence that can be held. -/
def holdable : Nat := twoTo 40

/-- `n` copies of a sequence, one after another. -/
def repeated {α : Type} (what : String) (n : Int) (items : List α) : Except Misuse (List α) :=
  if n > longest || n < -(longest : Int) - 1 then .error .indexTooLarge
  else
    let length := n.toNat * items.length
    if length > longest then .error (if what.isEmpty then .outOfMemory else .repetitionTooLong what)
    else if length > holdable then .error .outOfMemory
    else if items.isEmpty then .ok []
    else .ok (List.replicate n.toNat items).flatten

def intTimes (n : Int) (v : Value) : Except Misuse Value :=
  match v with
  | float y => (asFloat n).map fun x => float (x.mul y)
  | text s => (repeated "string is" n s.toList).map fun cs => text (String.ofList cs)
  | backend b => (repeated "string is" n b.name.toList).map fun cs => text (String.ofList cs)
  | bytes bs => (repeated "bytes are" n bs).map bytes
  | list items => (repeated "" n items).map list
  | _ =>
    match v.asInt? with
    | some m => .ok (int (n * m))
    | none => .error (.operands "*" "int" v.kindName)

def floatTimes (x : Binary64) (v : Value) : Except Misuse Value :=
  match v with
  | float y => .ok (float (x.mul y))
  | text _ | backend _ | bytes _ | list _ => .error (.repetition "float")
  | _ =>
    match v.asInt? with
    | some m => (asFloat m).map fun y => float (x.mul y)
    | none => .error (.operands "*" "float" v.kindName)

def times (u v : Value) : Except Misuse Value :=
  match u with
  | int n => intTimes n v
  | float x => floatTimes x v
  | _ => .error (.operands "*" u.kindName v.kindName)

/-- The number of rows before page `number`, counted from 1, when every page has `size` rows. -/
def pageOffset (number size : Value) : Except Misuse Value :=
  (pred number).bind fun before => times (clipBelow before) size

theorem pageOffset_int (n m : Int) :
    pageOffset (int n) (int m) = .ok (int (max (n - 1) 0 * m)) := rfl

end DataFetch.Value
