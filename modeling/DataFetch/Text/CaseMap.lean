import DataFetch.Text.CaseTable

/-! # Full case mapping

Upper and lower case of whole texts. A character may become several, and a capital sigma at the end
of a word becomes the final small sigma. ASCII letters move by 32 without a table.
-/
namespace DataFetch.Text

/-- The image of a character outside ASCII under the given tables, itself if they do not mention it. -/
def mapCase (runs : List CaseRun) (expansions : List (Nat × List Nat)) (c : Char) : List Char :=
  match expansions.lookup c.toNat with
  | some image => image.map Char.ofNat
  | none =>
    match runs.findSome? (·.image? c.toNat) with
    | some n => [Char.ofNat n]
    | none => [c]

def upperChar (c : Char) : List Char :=
  if c.toNat < 0x80 then [c.toUpper] else mapCase upperRuns upperExpansions c

/-- The lower case of one character, a capital sigma taken to stand inside a word. -/
def lowerChar (c : Char) : List Char :=
  if c.toNat < 0x80 then [c.toLower] else mapCase lowerRuns lowerExpansions c

def upperChars (cs : List Char) : List Char :=
  cs.flatMap upperChar

/-- Is the first character that is not passed over a letter with a case? -/
def meetsLetter (cs : List Char) : Bool :=
  match cs.dropWhile (fun c => inRanges caseIgnorableRanges c.toNat) with
  | [] => false
  | c :: _ => inRanges casedRanges c.toNat

/-- Lower case of the text after `before`, which is given in reverse. -/
def lowerAfter (before : List Char) : List Char → List Char
  | [] => []
  | c :: rest =>
    let image :=
      if c = 'Σ' then
        if meetsLetter before && !meetsLetter rest then ['ς'] else ['σ']
      else lowerChar c
    image ++ lowerAfter (c :: before) rest

def lowerChars (cs : List Char) : List Char :=
  lowerAfter [] cs

def upper (s : String) : String :=
  String.ofList (upperChars s.toList)

def lower (s : String) : String :=
  String.ofList (lowerChars s.toList)

end DataFetch.Text
