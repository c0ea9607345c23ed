import DataFetch.Text.Blank

/-! # Settings files

A settings file has one assignment on a line: a key, an equals sign and a value, which may be quoted.
A line that is no assignment is skipped. Afterwards references to other names are replaced by their
values.
-/
namespace DataFetch.Dotenv

/-- Line ends of either convention as one line feed. -/
def unifyLines : List Char → List Char
  | '\r' :: '\n' :: rest => '\n' :: unifyLines rest
  | '\r' :: rest => '\n' :: unifyLines rest
  | c :: rest => c :: unifyLines rest
  | [] => []

def isInlineSpacing (c : Char) : Bool :=
  Text.isSpacing c && c ≠ '\n' && c ≠ '\r'

/-- An assignment, or a key alone. -/
structure Binding where
  key : String
  value : Option String
  deriving DecidableEq, Repr

/-- A part of a line that was read, with the rest, or the place where reading stopped. -/
inductive Scan (α : Type) where
  | found (a : α) (rest : List Char)
  | stuck (rest : List Char)

def dropExport (cs : List Char) : List Char :=
  match cs with
  | 'e' :: 'x' :: 'p' :: 'o' :: 'r' :: 't' :: c :: rest =>
    if isInlineSpacing c then rest.dropWhile isInlineSpacing else cs
  | _ => cs

/-- A key, between single quotes or bare; none before a comment. -/
def scanKey (cs : List Char) : Scan (Option String) :=
  match cs with
  | '#' :: _ => .found none cs
  | '\'' :: rest =>
    let name := rest.takeWhile (· ≠ '\'')
    match rest.dropWhile (· ≠ '\'') with
    | _ :: after => if name.isEmpty then .stuck cs else .found (some (String.ofList name)) after
    | [] => .stuck cs
  | _ =>
    let bare := fun c : Char => c ≠ '=' && c ≠ '#' && !Text.isSpacing c
    let name := cs.takeWhile bare
    if name.isEmpty then .stuck cs else .found (some (String.ofList name)) (cs.dropWhile bare)

/-- The text up to the closing quote, which is the first that no backslash takes: a backslash takes
the character behind it, whatever it is. -/
def scanQuoted (quote : Char) : List Char → Option (List Char × List Char)
  | [] => none
  | ['\\'] => none
  | '\\' :: d :: rest => (scanQuoted quote rest).map fun (text, after) => ('\\' :: d :: text, after)
  | c :: rest =>
    if c = quote then some ([], rest)
    else (scanQuoted quote rest).map fun (text, after) => (c :: text, after)

def singleEscape? : Char → Option Char
  | '\\' => some '\\'
  | '\'' => some '\''
  | _ => none

def doubleEscape? : Char → Option Char
  | '\\' => some '\\'
  | '\'' => some '\''
  | '"' => some '"'
  | 'a' => some '\x07'
  | 'b' => some '\x08'
  | 'f' => some '\x0c'
  | 'n' => some '\n'
  | 'r' => some '\r'
  | 't' => some '\t'
  | 'v' => some '\x0b'
  | _ => none

/-- The text with its escapes replaced; other backslashes stay. -/
def unescape (escape? : Char → Option Char) : List Char → List Char
  | '\\' :: c :: rest =>
    match escape? c with
    | some d => d :: unescape escape? rest
    | none => '\\' :: unescape escape? (c :: rest)
  | c :: rest => c :: unescape escape? rest
  | [] => []
termination_by cs => cs.length

/-- The text before a comment, which is a number sign behind spacing; `spaced` says whether spacing
stands in front of the text. -/
def cutComment (spaced : Bool) : List Char → List Char
  | [] => []
  | c :: rest =>
    if c = '#' && spaced then [] else c :: cutComment (Text.isSpacing c) rest

def scanValue (field : List Char) : Scan String :=
  let cs := field.dropWhile isInlineSpacing
  let inQuotes (quote : Char) (escape? : Char → Option Char) (rest : List Char) : Scan String :=
    match scanQuoted quote rest with
    | some (text, after) => .found (String.ofList (unescape escape? text)) after
    | none => .stuck cs
  match cs with
  | '\'' :: rest => inQuotes '\'' singleEscape? rest
  | '"' :: rest => inQuotes '"' doubleEscape? rest
  | _ =>
    let line := cs.takeWhile (· ≠ '\n')
    let spaced := field.head?.any isInlineSpacing
    .found (String.ofList (Text.dropTail Text.isSpacing (cutComment spaced line)))
      (cs.dropWhile (· ≠ '\n'))

def scanEnd (cs : List Char) : Scan Unit :=
  let inner := cs.dropWhile isInlineSpacing
  let rest := match inner with
    | '#' :: _ => inner.dropWhile (· ≠ '\n')
    | _ => inner
  match rest with
  | [] => .found () []
  | '\n' :: after => .found () after
  | _ => .stuck rest

/-- One line at the start of `cs`, which is neither empty nor spacing. -/
def scanLine (cs : List Char) : Scan (Option Binding) :=
  match scanKey (dropExport cs) with
  | .stuck rest => .stuck rest
  | .found key rest =>
    let rest := rest.dropWhile isInlineSpacing
    let value : Scan (Option String) :=
      match rest with
      | '=' :: after =>
        match scanValue after with
        | .found v rest => .found (some v) rest
        | .stuck rest => .stuck rest
      | _ => .found none rest
    match value with
    | .stuck rest => .stuck rest
    | .found value rest =>
      match scanEnd rest with
      | .stuck rest => .stuck rest
      | .found () rest => .found (key.map fun k => ⟨k, value⟩) rest

def dropLine (cs : List Char) : List Char :=
  (cs.dropWhile (· ≠ '\n')).drop 1

def bindingsWithin : Nat → List Char → List Binding
  | 0, _ => []
  | fuel + 1, cs =>
    match cs.dropWhile Text.isSpacing with
    | [] => []
    | c :: rest =>
      match scanLine (c :: rest) with
      | .stuck after => bindingsWithin fuel (dropLine after)
      | .found none after => bindingsWithin fuel after
      | .found (some b) after => b :: bindingsWithin fuel after

def dropMark : List Char → List Char
  | '\ufeff' :: rest => rest
  | cs => cs

/-- The assignments of a text in order. Each line takes at least one character. -/
def bindings (text : String) : List Binding :=
  let cs := unifyLines (dropMark text.toList)
  bindingsWithin (cs.length + 1) cs

/-! ## References -/

def scanReference (cs : List Char) : Option (String × String × List Char) :=
  let close := '\x7d'
  let name := cs.takeWhile fun c => c ≠ close && c ≠ ':'
  match cs.dropWhile fun c => c ≠ close && c ≠ ':' with
  | ':' :: '-' :: rest =>
    match rest.dropWhile (· ≠ close) with
    | _ :: after =>
      some (String.ofList name, String.ofList (rest.takeWhile (· ≠ close)), after)
    | [] => none
  | c :: after => if c = close then some (String.ofList name, "", after) else none
  | [] => none

/-- The text with at most `fuel` characters or references replaced by what `value?` says. -/
def expandWithin (value? : String → Option String) : Nat → List Char → List Char
  | 0, cs => cs
  | _, [] => []
  | fuel + 1, c :: rest =>
    match c, rest with
    | '$', '\x7b' :: inner =>
      match scanReference inner with
      | some (name, default, after) =>
        ((value? name).getD default).toList ++ expandWithin value? fuel after
      | none => c :: expandWithin value? fuel rest
    | _, _ => c :: expandWithin value? fuel rest

def expand (value? : String → Option String) (text : String) : String :=
  String.ofList (expandWithin value? text.toList.length text.toList)

def assign : List (String × Option String) → String → Option String →
    List (String × Option String)
  | [], k, v => [(k, v)]
  | (j, w) :: rest, k, v => if j = k then (j, v) :: rest else (j, w) :: assign rest k v

/-- What a name stands for: what the file has said of it so far, then the environment. A key alone
stands for the empty text. -/
def valueOf (environment : List (String × String)) (sofar : List (String × Option String))
    (name : String) : Option String :=
  match sofar.lookup name with
  | some v => some (v.getD "")
  | none => environment.lookup name

def load (environment : List (String × String)) (text : String) :
    List (String × Option String) :=
  (bindings text).foldl (fun sofar b =>
    assign sofar b.key (b.value.map (expand (valueOf environment sofar)))) []

end DataFetch.Dotenv
