/-! # Blank characters

The characters with the Unicode property `White_Space`, the slightly larger class of characters that
separate words on a line, and trimming by either.
-/
namespace DataFetch.Text

/-- A character of the property `White_Space`. -/
def isBlank (c : Char) : Bool :=
  let n := c.toNat
  (0x09 ≤ n && n ≤ 0x0d) || n == 0x20 || n == 0x85 || n == 0xa0 || n == 0x1680 ||
    (0x2000 ≤ n && n ≤ 0x200a) || n == 0x2028 || n == 0x2029 || n == 0x202f || n == 0x205f ||
    n == 0x3000

/-- A blank or one of the four information separators. -/
def isSpacing (c : Char) : Bool :=
  isBlank c || (0x1c ≤ c.toNat && c.toNat ≤ 0x1f)

/-- Drops the longest tail of characters that satisfy `p`. -/
def dropTail (p : Char → Bool) (cs : List Char) : List Char :=
  (cs.reverse.dropWhile p).reverse

/-- Drops blanks at both ends. -/
def trim (cs : List Char) : List Char :=
  dropTail isBlank (cs.dropWhile isBlank)

end DataFetch.Text
