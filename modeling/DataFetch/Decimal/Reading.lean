import DataFetch.Decimal.Binary64

/-! # Reading decimal numerals

A numeral has a sign, digits with a point among them, and a power of ten; it stands for the binary
number nearest to it. Digits may be separated by single underscores. Words stand for the numbers
without digits.
-/
namespace DataFetch.Decimal

/-- The number nearest to `num / den`. Enough binary digits of the quotient are computed that the last
of them only tells whether anything is left over. -/
def ofRatio (negative : Bool) (num den : Nat) : Binary64 :=
  let shift := 66 + den.log2 - num.log2
  let scaled := num * twoTo shift
  let rest := if scaled % den = 0 then 0 else 1
  Binary64.ofDyadic negative (2 * (scaled / den) + rest) (-(shift : Int) - 1)

/-- The number nearest to `n * 10 ^ exponent`. Beyond either end of the range no power is computed. -/
def ofDecimal (negative : Bool) (n : Nat) (exponent : Int) : Binary64 :=
  let place := exponent + (Nat.toDigits 10 n).length
  if n = 0 || place < -330 then Binary64.ofMagnitude negative 0
  else if place > 310 then Binary64.infinity negative
  else if exponent < 0 then ofRatio negative n (Nat.pow 10 (-exponent).toNat)
  else ofRatio negative (n * Nat.pow 10 exponent.toNat) 1

/-- The numeral without its separators, each of which has to stand between two digits. -/
def dropSeparators (previous : Char) : List Char → Option (List Char)
  | [] => if previous = '_' then none else some []
  | c :: rest =>
    if c = '_' then if previous.isDigit then dropSeparators c rest else none
    else if previous = '_' && !c.isDigit then none
    else (dropSeparators c rest).map (c :: ·)

/-- Is there a minus sign, and what follows the sign? -/
def splitSign : List Char → Bool × List Char
  | '-' :: rest => (true, rest)
  | '+' :: rest => (false, rest)
  | cs => (false, cs)

def exponent? : List Char → Option Int
  | [] => some 0
  | mark :: rest =>
    let (negative, digits) := splitSign rest
    if (mark = 'e' || mark = 'E') && !digits.isEmpty && digits.all Char.isDigit then
      let n := Nat.ofDigitChars 10 digits 0
      some (if negative then -(n : Int) else n)
    else none

def fraction : List Char → List Char × List Char
  | '.' :: rest => (rest.takeWhile Char.isDigit, rest.dropWhile Char.isDigit)
  | cs => ([], cs)

def infinityWords : List String := ["inf", "infinity"]

def nanWord : String := "nan"

/-- The number that stands for no number, with a sign. -/
def noNumber (negative : Bool) : Binary64 :=
  Binary64.ofMagnitude negative (2047 * twoTo 52 + twoTo 51)

def unsigned? (negative : Bool) (cs : List Char) : Option Binary64 :=
  let word := String.ofList (cs.map Char.toLower)
  if infinityWords.contains word then some (Binary64.infinity negative)
  else if word == nanWord then some (noNumber negative)
  else
    let whole := cs.takeWhile Char.isDigit
    let (places, rest) := fraction (cs.dropWhile Char.isDigit)
    if whole.isEmpty && places.isEmpty then none
    else
      (exponent? rest).map fun e =>
        ofDecimal negative (Nat.ofDigitChars 10 (whole ++ places) 0) (e - places.length)

def number? (cs : List Char) : Option Binary64 :=
  (dropSeparators ' ' cs).bind fun cs =>
    let (negative, rest) := splitSign cs
    unsigned? negative rest

end DataFetch.Decimal
