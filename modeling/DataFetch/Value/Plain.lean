import DataFetch.Text.Utf8
import DataFetch.Value.Basic

/-! # Plain values

The form of a value that plain interchange text can hold: bytes become the text they encode, a number
that is not finite becomes null, and the symbol of a backend becomes its name. The form has a limited
number of levels; lists, objects and the values in them count one each. A value whose form has to be
made is remembered while it is unfinished, so that it is known when a second attempt meets it again.
-/
namespace DataFetch

/-- Why a value has no plain form. -/
inductive PlainFault where
  | encoding (f : Text.Utf8Fault)
  /-- The first value below the last level; is it one that is remembered? -/
  | tooDeep (remembered : Bool)
  /-- A remembered value that is met again before it is finished. -/
  | repeated
  deriving DecidableEq, Repr

namespace PlainFault

def message : PlainFault → String
  | encoding f => f.message
  | tooDeep _ => "Maximum serialization depth exceeded"
  | repeated => "Circular reference detected (id repeated)"

/-- The fault of a second attempt, which meets the value that the first left unfinished. -/
def retried : PlainFault → PlainFault
  | tooDeep true => repeated
  | f => f

end PlainFault

namespace Value

/-- The most levels of a plain form. -/
def levelLimit : Nat := 255

def isPlain : Value → Bool
  | null | bool _ | int _ | text _ => true
  | _ => false

def plainLeaf : Value → Except PlainFault Value
  | float x => .ok (if x.isFinite then float x else null)
  | bytes bs => ((Text.decodeUtf8 bs).map text).mapError .encoding
  | backend b => .ok (text b.name)
  | v => .ok v

mutual
/-- The plain form of a value for which `room` levels are left; the first value without one decides. -/
def plain (room : Nat) : Value → Except PlainFault Value
  | list items =>
    if room = 0 then .error (.tooDeep true) else (plainItems (room - 1) items).map list
  | object fields =>
    if room = 0 then .error (.tooDeep true) else (plainFields (room - 1) fields).map object
  | v => if room = 0 then .error (.tooDeep (!v.isPlain)) else plainLeaf v

def plainItems (room : Nat) : List Value → Except PlainFault (List Value)
  | [] => .ok []
  | v :: rest =>
    match v.plain room with
    | .error e => .error e
    | .ok w => (plainItems room rest).map (w :: ·)

def plainFields (room : Nat) :
    List (String × Value) → Except PlainFault (List (String × Value))
  | [] => .ok []
  | (k, v) :: rest =>
    match v.plain room with
    | .error e => .error e
    | .ok w => (plainFields room rest).map ((k, w) :: ·)
end

end Value

end DataFetch
