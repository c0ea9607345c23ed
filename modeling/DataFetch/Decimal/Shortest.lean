import DataFetch.Decimal.Binary64

/-! # Shortest decimal text of a binary number

The fewest decimal digits that read back as the same number, and among those the nearest to it. For
1, 2, …, 17 digits the two neighbours of the number on that decimal grid are tested in exact
arithmetic against the interval of reals that round to it.
-/
namespace DataFetch.Decimal

/-- A positive fraction. -/
structure Ratio where
  num : Nat
  den : Nat

namespace Ratio

/-- `num / den * 2 ^ e`. -/
def scale (r : Ratio) (base : Nat) (e : Int) : Ratio :=
  if e < 0 then ⟨r.num, r.den * Nat.pow base (-e).toNat⟩
  else ⟨r.num * Nat.pow base e.toNat, r.den⟩

def lt (r s : Ratio) : Bool :=
  r.num * s.den < s.num * r.den

def le (r s : Ratio) : Bool :=
  r.num * s.den ≤ s.num * r.den

def distance (r s : Ratio) : Ratio :=
  ⟨(r.num * s.den - s.num * r.den) + (s.num * r.den - r.num * s.den), r.den * s.den⟩

def leading (r : Ratio) : Int :=
  if r.den ≤ r.num then ((Nat.toDigits 10 (r.num / r.den)).length : Int) - 1
  else -((Nat.toDigits 10 ((r.den + r.num - 1) / r.num - 1)).length : Int)

end Ratio

/-- The reals that round to `significand * 2 ^ exponent`; the ends belong to them or not together. -/
structure Rounding where
  value : Ratio
  low : Ratio
  high : Ratio
  closed : Bool

def Rounding.of (significand : Nat) (exponent : Int) : Rounding :=
  let quarter (n : Nat) : Ratio := Ratio.scale ⟨n, 1⟩ 2 (exponent - 2)
  let below := if significand = twoTo 52 && exponent > -1074 then 1 else 2
  { value := quarter (4 * significand)
    low := quarter (4 * significand - below)
    high := quarter (4 * significand + 2)
    closed := significand % 2 == 0 }

def Rounding.holds (r : Rounding) (x : Ratio) : Bool :=
  if r.closed then r.low.le x && x.le r.high else r.low.lt x && x.lt r.high

/-- The better of the two neighbours of the value on the grid of multiples of `10 ^ e`. -/
def Rounding.neighbour? (r : Rounding) (e : Int) : Option Nat :=
  let at10 (n : Nat) : Ratio := Ratio.scale ⟨n, 1⟩ 10 e
  let scaled := r.value.scale 10 (-e)
  let down := scaled.num / scaled.den
  let up := down + 1
  match r.holds (at10 down), r.holds (at10 up) with
  | false, false => none
  | true, false => some down
  | false, true => some up
  | true, true =>
    let toDown := r.value.distance (at10 down)
    let toUp := r.value.distance (at10 up)
    if toDown.lt toUp || (!toUp.lt toDown && down % 2 == 0) then some down else some up

/-- The first grid with a hit, starting at `digits` digits and trying at most `fuel` grids. -/
def Rounding.search (r : Rounding) (lead : Int) : Nat → Nat → Nat × Int
  | 0, _ => (0, 0)
  | fuel + 1, digits =>
    let e := lead - digits + 1
    match r.neighbour? e with
    | some n => (n, e)
    | none => r.search lead fuel (digits + 1)

def dropZeros : Nat → Nat → Int → Nat × Int
  | 0, n, e => (n, e)
  | fuel + 1, n, e => if n ≠ 0 && n % 10 == 0 then dropZeros fuel (n / 10) (e + 1) else (n, e)

/-- The shortest decimal `n * 10 ^ e` for a positive number. -/
def shortest (significand : Nat) (exponent : Int) : Nat × Int :=
  let r := Rounding.of significand exponent
  let (n, e) := r.search r.value.leading 17 1
  dropZeros 18 n e

/-- Where positional notation ends and what stands for the values without digits. -/
structure FloatStyle where
  /-- Least exponent of the leading digit that is written positionally. -/
  least : Int
  /-- First exponent of the leading digit that is written with an exponent again. -/
  limit : Int
  exponentDigits : Nat
  nan : String
  infinite : String

/-- Numbers inside messages are positional from 1e-4 up to, but without, 1e16. -/
def FloatStyle.message : FloatStyle := ⟨-4, 16, 2, "nan", "inf"⟩

/-- The digits of `n`, with zeros in front up to `width`. -/
def padded (width n : Nat) : List Char :=
  let ds := Nat.toDigits 10 n
  List.replicate (width - ds.length) '0' ++ ds

/-- The digits `ds` with the point after position `place`. -/
def positional (ds : List Char) (place : Int) : List Char :=
  if place < 0 then
    '0' :: '.' :: (List.replicate (-place - 1).toNat '0' ++ ds)
  else
    let whole := place.toNat + 1
    let fraction := ds.drop whole
    ds.take whole ++ List.replicate (whole - ds.length) '0' ++
      '.' :: (if fraction.isEmpty then ['0'] else fraction)

/-- The digits `ds` with the point after the first and the exponent `place`. -/
def scientific (style : FloatStyle) (ds : List Char) (place : Int) : List Char :=
  let mantissa := if ds.length ≤ 1 then ds else ds.take 1 ++ '.' :: ds.drop 1
  mantissa ++ ['e', if place < 0 then '-' else '+'] ++ padded style.exponentDigits place.natAbs

def FloatStyle.show (style : FloatStyle) (x : Binary64) : String :=
  match x.datum with
  | .nan => style.nan
  | .infinite negative => (if negative then "-" else "") ++ style.infinite
  | .finite negative significand exponent =>
    let body :=
      if significand = 0 then ['0', '.', '0']
      else
        let (n, e) := shortest significand exponent
        let ds := Nat.toDigits 10 n
        let place := e + ds.length - 1
        if style.least ≤ place && place < style.limit then positional ds place
        else scientific style ds place
    String.ofList ((if negative then ['-'] else []) ++ body)

end DataFetch.Decimal
