import DataFetch.Decimal.Shortest
import DataFetch.Text.Quoted
import DataFetch.Value.Basic

/-! # Values in messages

The form in which a value is shown inside a message. A text at the top may stand bare; inside a list
or an object, and wherever the message asks for it, a text is quoted.
-/
namespace DataFetch.Value

def showBool (b : Bool) : String :=
  if b then "True" else "False"

def showInt (n : Int) : String :=
  String.ofList (if n < 0 then '-' :: Nat.toDigits 10 n.natAbs else Nat.toDigits 10 n.natAbs)

/-- Shown entries between brackets, with commas between them. -/
def enclose (opening closing : String) (parts : List String) : String :=
  opening ++ ", ".intercalate parts ++ closing

mutual
/-- The form of a value in which texts are quoted. -/
def literal : Value → String
  | null => "None"
  | bool b => showBool b
  | int n => showInt n
  | float x => Decimal.FloatStyle.message.show x
  | text s => Text.quoted s
  | bytes bs => Text.quotedBytes bs
  | list items => enclose "[" "]" (literals items)
  | object fields => enclose "\x7b" "\x7d" (fieldLiterals fields)
  | backend b => "<DatabaseType." ++ b.symbol ++ ": " ++ Text.quoted b.name ++ ">"

def literals : List Value → List String
  | [] => []
  | v :: rest => v.literal :: literals rest

def fieldLiterals : List (String × Value) → List String
  | [] => []
  | (k, v) :: rest => (Text.quoted k ++ ": " ++ v.literal) :: fieldLiterals rest
end

/-- The form of a value in which a text stands bare. -/
def display : Value → String
  | text s => s
  | backend b => "DatabaseType." ++ b.symbol
  | v => v.literal

def kindName : Value → String
  | null => "NoneType"
  | bool _ => "bool"
  | int _ => "int"
  | float _ => "float"
  | text _ => "str"
  | bytes _ => "bytes"
  | list _ => "list"
  | object _ => "dict"
  | backend _ => "DatabaseType"

end DataFetch.Value
