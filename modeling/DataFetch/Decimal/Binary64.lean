/-! # Binary floating point numbers

Numbers of the 64 bit binary interchange format, kept as their word. A word is decoded exactly into a
significand and a power of two, and every operation rounds its exact result once, to nearest with ties
to even, so no statement about a number depends on the machine's own arithmetic.
-/
namespace DataFetch

def twoTo (k : Nat) : Nat :=
  Nat.pow 2 k

structure Binary64 where
  bits : UInt64
  deriving DecidableEq, Repr, Inhabited

namespace Binary64

/-- What a word stands for; a finite number is `significand * 2 ^ exponent`, with a sign of its own. -/
inductive Datum where
  | nan
  | infinite (negative : Bool)
  | finite (negative : Bool) (significand : Nat) (exponent : Int)
  deriving DecidableEq, Repr

def isNegative (x : Binary64) : Bool :=
  twoTo 63 ≤ x.bits.toNat

def magnitude (x : Binary64) : Nat :=
  x.bits.toNat % twoTo 63

def datum (x : Binary64) : Datum :=
  let power : Nat := x.magnitude / twoTo 52
  let fraction : Nat := x.magnitude % twoTo 52
  if power = 2047 then
    if fraction = 0 then .infinite x.isNegative else .nan
  else if power = 0 then .finite x.isNegative fraction (-1074)
  else .finite x.isNegative (fraction + twoTo 52) ((power : Int) - 1075)

def isNaN (x : Binary64) : Bool :=
  x.datum == .nan

def isFinite (x : Binary64) : Bool :=
  x.magnitude / twoTo 52 != 2047

/-- The word with this sign and magnitude. -/
def ofMagnitude (negative : Bool) (magnitude : Nat) : Binary64 :=
  ⟨UInt64.ofNat (if negative then magnitude + twoTo 63 else magnitude)⟩

def infinity (negative : Bool) : Binary64 :=
  ofMagnitude negative (2047 * twoTo 52)

/-- The number that stands for an operation without a result. -/
def undefined : Binary64 :=
  ofMagnitude true (2047 * twoTo 52 + twoTo 51)

/-- `n / 2 ^ k` rounded to the nearest whole number, a half to the even neighbour. -/
def roundShift (n k : Nat) : Nat :=
  let whole := n / twoTo k
  let rest := 2 * (n % twoTo k)
  if rest > twoTo k || (rest == twoTo k && whole % 2 == 1) then whole + 1 else whole

/-- The number nearest to `significand * 2 ^ exponent`, infinite when that is out of range. -/
def ofDyadic (negative : Bool) (significand : Nat) (exponent : Int) : Binary64 :=
  if significand = 0 then ofMagnitude negative 0
  else
    let unit := max ((significand.log2 : Int) + exponent - 52) (-1074)
    let rounded :=
      if exponent < unit then roundShift significand (unit - exponent).toNat
      else significand * twoTo (exponent - unit).toNat
    if unit + 1074 ≥ 2046 then infinity negative
    else
      let magnitude := (unit + 1074).toNat * twoTo 52 + rounded
      if magnitude ≥ 2047 * twoTo 52 then infinity negative else ofMagnitude negative magnitude

/-- The number nearest to an integer, unless that is out of range. -/
def ofInt? (n : Int) : Option Binary64 :=
  let x := ofDyadic (decide (n < 0)) n.natAbs 0
  if x.isFinite then some x else none

/-- A finite number as a signed multiple of `2 ^ unit`, for a `unit` not above its own exponent. -/
def scaledTo (unit : Int) (negative : Bool) (significand : Nat) (exponent : Int) : Int :=
  let n := significand * twoTo (exponent - unit).toNat
  if negative then -(n : Int) else n

/-- A number that is not a number, in its quiet form. -/
def quiet (x : Binary64) : Binary64 :=
  ⟨x.bits ||| 0x0008000000000000⟩

def neg (x : Binary64) : Binary64 :=
  ofMagnitude (!x.isNegative) x.magnitude

def add (x y : Binary64) : Binary64 :=
  match x.datum, y.datum with
  | .nan, _ => x.quiet
  | _, .nan => y.quiet
  | .infinite s, .infinite t => if s = t then x else undefined
  | .infinite _, _ => x
  | _, .infinite _ => y
  | .finite s m p, .finite t n q =>
    let unit := min p q
    let sum := scaledTo unit s m p + scaledTo unit t n q
    if sum = 0 then ofMagnitude (s && t) 0
    else ofDyadic (decide (sum < 0)) sum.natAbs unit

def sub (x y : Binary64) : Binary64 :=
  if y.isNaN then (if x.isNaN then x.quiet else y.quiet) else x.add y.neg

def mul (x y : Binary64) : Binary64 :=
  match x.datum, y.datum with
  | .nan, _ => x.quiet
  | _, .nan => y.quiet
  | .infinite s, .infinite t => infinity (s != t)
  | .infinite s, .finite t n _ => if n = 0 then undefined else infinity (s != t)
  | .finite s m _, .infinite t => if m = 0 then undefined else infinity (s != t)
  | .finite s m p, .finite t n q => ofDyadic (s != t) (m * n) (p + q)

/-- The integer equal to a number, if there is one. -/
def toInt? (x : Binary64) : Option Int :=
  match x.datum with
  | .finite s m q =>
    let whole := if q < 0 then m / twoTo (-q).toNat else m * twoTo q.toNat
    if q < 0 && m % twoTo (-q).toNat != 0 then none
    else some (if s then -whole else whole)
  | _ => none

/-- Equality as numbers: both zeros are equal, and what is not a number equals nothing. -/
def equals (x y : Binary64) : Bool :=
  !x.isNaN && (x == y || (x.magnitude == 0 && y.magnitude == 0))

def isBelowZero (x : Binary64) : Bool :=
  !x.isNaN && x.isNegative && x.magnitude != 0

theorem equals_self {x : Binary64} (h : x.isNaN = false) : x.equals x = true := by
  simp [equals, h]

theorem isNaN_of_isFinite {x : Binary64} (h : x.isFinite = true) : x.isNaN = false := by
  have hp : x.magnitude / twoTo 52 ≠ 2047 := by simpa [isFinite] using h
  rw [isNaN, datum]
  by_cases h0 : x.magnitude / twoTo 52 = 0
  · simp [h0]
  · simp [hp, h0]

end Binary64

end DataFetch
