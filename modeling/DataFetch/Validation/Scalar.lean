import DataFetch.Text.Blank
import DataFetch.Text.CaseMap
import DataFetch.Text.Utf8
import DataFetch.Validation.Checked
import DataFetch.Value.Equality

/-! # Reading single values

Texts, whole numbers, truth values and members of a closed list of words, each read leniently from
whatever value plainly stands for one.
-/
namespace DataFetch.Validation

/-- A text, or bytes that encode one. -/
def readText (v : Value) : Checked String :=
  match v with
  | .text s => .ok s
  | .backend b => .ok b.name
  | .bytes bs =>
    match Text.ofUtf8? bs with
    | some s => .ok s
    | none => Checked.refuse .textEncoding
  | _ => Checked.refuse .notText

def readItems (v : Value) : Checked (List Value) :=
  match v with
  | .list items => .ok items
  | _ => Checked.refuse .notTuple

/-! ## Whole numbers -/

def numeralLimit : Nat := 4300

/-- The least size of a floating point number that is too large to be read as a whole number. -/
def wholeLimit : Nat := twoTo 63

def isNonzeroDigit (c : Char) : Bool :=
  '1' ≤ c && c ≤ '9'

/-- The digits that a text opens with, behind at most a minus sign, if the first is not zero. -/
def openingDigits (cs : List Char) : List Char :=
  let unsigned := if cs.head? == some '-' then cs.drop 1 else cs
  if unsigned.head?.any isNonzeroDigit then unsigned.takeWhile Char.isDigit else []

/-- Drops zeros and separators in front of a numeral. A point keeps the character before it, a
minus sign ends the zeros as a digit does, and a numeral of nothing else keeps its last
character. -/
def dropLeadingZeros (previous : Char) : List Char → Option (List Char)
  | [] => some [previous]
  | c :: rest =>
    if c = '0' || c = '_' then dropLeadingZeros c rest
    else if c = '.' then some (previous :: c :: rest)
    else if isNonzeroDigit c || c = '-' then some (c :: rest)
    else none

def stripFront : List Char → Option (List Char)
  | [] => none
  | c :: rest =>
    if isNonzeroDigit c || c = '-' then some (c :: rest)
    else if c = '0' then dropLeadingZeros c rest
    else none

/-- Drops a point with one or more zeros behind it at the end. -/
def dropFraction (cs : List Char) : List Char :=
  match cs.span (· ≠ '.') with
  | (whole, '.' :: zeros) => if !zeros.isEmpty && zeros.all (· = '0') then whole else cs
  | _ => cs

/-- Removes separators, unless one stands at an end or beside another. -/
def joinDigits (cs : List Char) : Option (List Char) :=
  let bad := cs.head? == some '_' || cs.getLast? == some '_' ||
    (cs.zip (cs.drop 1)).any fun (a, b) => a == '_' && b == '_'
  if bad then none else some (cs.filter (· ≠ '_'))

def readDigits (cs : List Char) : Option Nat :=
  if cs.isEmpty || cs.length > numeralLimit || !cs.all Char.isDigit then none
  else if cs.head? == some '0' && cs.length ≠ 1 then none
  else some (Nat.ofDigitChars 10 cs 0)

def readSigned : List Char → Option Int
  | '-' :: rest => (readDigits rest).map fun n => -(n : Int)
  | cs => (readDigits cs).map Int.ofNat

/-- The numeral without one plus sign in front, which no minus sign may follow. -/
def dropPlus : List Char → Option (List Char)
  | '+' :: '-' :: _ => none
  | '+' :: rest => some rest
  | cs => some cs

/-- A numeral with the zeros in front of its digits dropped; a minus sign stays where it is. -/
def trimZeros : List Char → Option (List Char)
  | '-' :: rest => (stripFront rest).map ('-' :: ·)
  | cs => stripFront cs

def numeral? (cs : List Char) : Option Int :=
  (dropPlus (Text.trim cs)).bind fun cs =>
    (trimZeros cs).bind fun cs =>
      (joinDigits (dropFraction cs)).bind readSigned

/-- The whole number that a text spells. A text that opens with too many digits is too large
whatever follows them; one whose digits are too many only after tidying is no numeral. -/
def readNumeral (s : String) : Checked Int :=
  let cs := s.toList
  if (openingDigits cs).length > numeralLimit then Checked.refuse .integerSize
  else
    match numeral? cs with
    | some n => .ok n
    | none => Checked.refuse .integerText

def readInteger (v : Value) : Checked Int :=
  match v with
  | .int n => .ok n
  | .bool b => .ok (if b then 1 else 0)
  | .float x =>
    if !x.isFinite then Checked.refuse .notFinite
    else
      match x.toInt? with
      | none => Checked.refuse .integerFraction
      | some n => if n.natAbs < wholeLimit then .ok n else Checked.refuse .integerSize
  | .text s => readNumeral s
  | .backend b => readNumeral b.name
  | .bytes bs =>
    match Text.ofUtf8? bs with
    | some s => readNumeral s
    | none => Checked.refuse .integerText
  | _ => Checked.refuse .notInteger

/-- A whole number within bounds; the lower bound is tested first. -/
def readBounded (least : Int) (most : Option Int) (v : Value) : Checked Int :=
  match readInteger v with
  | .error is => .error is
  | .ok n =>
    if n < least then Checked.refuse (.belowMinimum least)
    else
      match most with
      | some m => if n > m then Checked.refuse (.aboveMaximum m) else .ok n
      | none => .ok n

/-- A count: a whole number that is not negative. -/
def readCount (v : Value) : Checked Nat :=
  (readBounded 0 none v).map Int.toNat

def readNullable {α : Type} (read : Value → Checked α) (v : Value) : Checked (Option α) :=
  match v with
  | .null => .ok none
  | _ => (read v).map some

/-! ## Truth values -/

def falseWords : List String := ["0", "off", "f", "false", "n", "no"]

def trueWords : List String := ["1", "on", "t", "true", "y", "yes"]

/-- The truth value that a word stands for, whatever the case of its ASCII letters. -/
def readTruthWord (s : String) : Checked Bool :=
  let word := String.ofList (s.toList.map Char.toLower)
  if falseWords.contains word then .ok false
  else if trueWords.contains word then .ok true
  else Checked.refuse .booleanText

def readTruth (v : Value) : Checked Bool :=
  match v with
  | .bool b => .ok b
  | .text s => readTruthWord s
  | .backend b => readTruthWord b.name
  | .bytes bs =>
    match Text.ofUtf8? bs with
    | some s => readTruthWord s
    | none => Checked.refuse .booleanText
  | .int n =>
    if n = 0 then .ok false
    else if n = 1 then .ok true
    else if -(wholeLimit : Int) ≤ n ∧ n < wholeLimit then Checked.refuse .booleanText
    else Checked.refuse .notBoolean
  | .float x =>
    match x.toInt? with
    | none => Checked.refuse .notBoolean
    | some n =>
      if n = 0 then .ok false
      else if n = 1 then .ok true
      else if n.natAbs < wholeLimit then Checked.refuse .booleanText
      else Checked.refuse .notBoolean
  | _ => Checked.refuse .notBoolean

/-! ## Words of a closed list -/

/-- A closed list of words with their meanings. -/
abbrev Vocabulary (α : Type) := List (String × α)

/-- A word of the vocabulary. A text is first put through `recase`; bytes count as their text. -/
def readWord {α : Type} (vocabulary : Vocabulary α) (recase : String → String) (v : Value) :
    Checked α :=
  let word :=
    match v with
    | .bytes bs => Text.ofUtf8? bs
    | v => v.asText?.map recase
  match word.bind fun w => vocabulary.lookup w with
  | some a => .ok a
  | none => Checked.refuse (.notMember (vocabulary.map (·.1)))

theorem readBounded_ok {least : Int} {most : Option Int} {v : Value} {n : Int}
    (h : readBounded least most v = .ok n) : readInteger v = .ok n ∧ least ≤ n := by
  unfold readBounded at h
  cases hi : readInteger v with
  | error is => simp [hi] at h
  | ok m =>
    simp only [hi] at h
    split at h
    · cases h
    · rename_i hm
      cases most with
      | none =>
        cases h
        exact ⟨rfl, by omega⟩
      | some top =>
        dsimp only at h
        split at h
        · cases h
        · cases h
          exact ⟨rfl, by omega⟩

end DataFetch.Validation
