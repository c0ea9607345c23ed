/-! # Reading UTF-8

Bytes are read as characters; where that fails, the answer is the place of the first bytes that start
no encoded character. Overlong forms, surrogates and code points past the last are refused.
-/
namespace DataFetch.Text

/-- The place where bytes stop being UTF-8: the longest part that could still have become a character,
or one byte that could not. -/
structure Utf8Fault where
  byte : UInt8
  position : Nat
  length : Nat
  deriving DecidableEq, Repr

def Utf8Fault.message (f : Utf8Fault) : String :=
  "'utf-8' codec can't decode " ++
    (if f.length = 1 then
      "byte 0x" ++
        String.ofList [Nat.digitChar (f.byte.toNat / 16), Nat.digitChar (f.byte.toNat % 16)] ++
        " in position " ++ toString f.position
    else
      "bytes in position " ++ toString f.position ++ "-" ++ toString (f.position + f.length - 1)) ++
    ": invalid utf-8"

def isContinuation (b : UInt8) : Bool :=
  0x80 ≤ b && b ≤ 0xbf

/-- Is `a b` the start of a three byte form that is neither overlong nor a surrogate? -/
def opensThree (a b : UInt8) : Bool :=
  (a == 0xe0 && 0xa0 ≤ b && b ≤ 0xbf) || (a == 0xed && 0x80 ≤ b && b ≤ 0x9f) ||
    (0xe1 ≤ a && a ≤ 0xef && a != 0xed && isContinuation b)

/-- Is `a b` the start of a four byte form within the code space? -/
def opensFour (a b : UInt8) : Bool :=
  (a == 0xf0 && 0x90 ≤ b && b ≤ 0xbf) || (a == 0xf4 && 0x80 ≤ b && b ≤ 0x8f) ||
    (0xf1 ≤ a && a ≤ 0xf3 && isContinuation b)

/-- The character with these groups of six bits, the leading group first. -/
def joinBits (lead : Nat) (rest : List UInt8) : Char :=
  Char.ofNat (rest.foldl (fun n b => n * 64 + b.toNat % 64) lead)

/-- The number of bytes that belong together where the character that `a` opens breaks off. -/
def brokenLength (a : UInt8) : List UInt8 → Nat
  | [] => 1
  | b :: rest =>
    if opensThree a b then 2
    else if opensFour a b then if rest.head?.any isContinuation then 3 else 2
    else 1

def decodeUtf8From (position : Nat) : List UInt8 → Except Utf8Fault (List Char)
  | [] => .ok []
  | a :: rest =>
    if a < 0x80 then
      (decodeUtf8From (position + 1) rest).map (Char.ofNat a.toNat :: ·)
    else
      let broken := ⟨a, position, brokenLength a rest⟩
      match rest with
      | [] => .error broken
      | b :: rest =>
        if 0xc2 ≤ a && a ≤ 0xdf && isContinuation b then
          (decodeUtf8From (position + 2) rest).map (joinBits (a.toNat % 32) [b] :: ·)
        else
          match rest with
          | [] => .error broken
          | c :: rest =>
            if opensThree a b && isContinuation c then
              (decodeUtf8From (position + 3) rest).map (joinBits (a.toNat % 16) [b, c] :: ·)
            else
              match rest with
              | [] => .error broken
              | d :: rest =>
                if opensFour a b && isContinuation c && isContinuation d then
                  (decodeUtf8From (position + 4) rest).map (joinBits (a.toNat % 8) [b, c, d] :: ·)
                else .error broken

def decodeUtf8 (bytes : List UInt8) : Except Utf8Fault String :=
  (decodeUtf8From 0 bytes).map String.ofList

def ofUtf8? (bytes : List UInt8) : Option String :=
  (decodeUtf8 bytes).toOption

end DataFetch.Text
