import DataFetch.Text.Printable

/-! # Quoted text

A text or a byte string as it is shown inside a message: between single quotes, or between double
quotes when it holds a single quote and no double quote; the enclosing quote, the backslash and
everything that cannot be shown are escaped.
-/
namespace DataFetch.Text

/-- The quote that encloses a text. -/
def quoteFor (cs : List Char) : Char :=
  if cs.contains '\'' && !cs.contains '"' then '"' else '\''

/-- The last `width` hexadecimal digits of `n`. -/
def hexDigits : Nat → Nat → List Char
  | 0, _ => []
  | width + 1, n => hexDigits width (n / 16) ++ [Nat.digitChar (n % 16)]

def escapeCode (c : Char) : List Char :=
  let n := c.toNat
  if n ≤ 0xff then '\\' :: 'x' :: hexDigits 2 n
  else if n ≤ 0xffff then '\\' :: 'u' :: hexDigits 4 n
  else '\\' :: 'U' :: hexDigits 8 n

/-- The form of one character between `quote`s, where characters in `plain` stand for themselves. -/
def escapeChar (plain : Char → Bool) (quote c : Char) : List Char :=
  if c = quote || c = '\\' then ['\\', c]
  else if c = '\n' then ['\\', 'n']
  else if c = '\r' then ['\\', 'r']
  else if c = '\t' then ['\\', 't']
  else if plain c then [c]
  else escapeCode c

def quoteChars (plain : Char → Bool) (cs : List Char) : List Char :=
  let quote := quoteFor cs
  quote :: cs.flatMap (escapeChar plain quote) ++ [quote]

def quoted (s : String) : String :=
  String.ofList (quoteChars isPrintable s.toList)

/-- A quoted byte string: a `b` and the bytes, only visible ASCII standing for itself. -/
def quotedBytes (bytes : List UInt8) : String :=
  let cs := bytes.map fun b => Char.ofNat b.toNat
  String.ofList ('b' :: quoteChars (fun c => 0x20 ≤ c.toNat && c.toNat < 0x7f) cs)

end DataFetch.Text
