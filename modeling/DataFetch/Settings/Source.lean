import DataFetch.Settings.Dotenv
import DataFetch.Signature
import DataFetch.Text.CaseMap
import DataFetch.Value.Entries

/-! # Sources of settings

Named arguments, the environment and a settings file, and how they are read: which names variables
have, whether empty ones count, which text stands for null, and whether and in which encoding the file
is read. Arguments with names of their own decide this; all other arguments are values of fields.
-/
namespace DataFetch

structure SettingsOptions where
  namePrefix : String := "QUARRY_DB_"
  caseSensitive : Bool := false
  ignoresEmpty : Bool := false
  /-- The text that stands for null. -/
  nullText : Option String := none
  deriving DecidableEq, Repr, Inhabited

namespace SettingsOptions

def fold (o : SettingsOptions) (name : String) : String :=
  if o.caseSensitive then name else Text.lower name

/-- Is a variable the one of a field? -/
def names (o : SettingsOptions) (field name : String) : Bool :=
  o.fold name == o.fold (o.namePrefix ++ field)

def counts (o : SettingsOptions) (text : String) : Bool :=
  !(o.ignoresEmpty && text.isEmpty)

def valueOf (o : SettingsOptions) (text : String) : Value :=
  if o.nullText = some text then .null else .text text

end SettingsOptions

inductive FileEncoding where
  | utf8
  | latin1
  | ascii
  deriving DecidableEq, Repr, Inhabited

namespace FileEncoding

/-- The names of the encodings, in lower case and with underscores. -/
def vocabulary : List (String × FileEncoding) :=
  [("utf_8", utf8), ("utf8", utf8), ("u8", utf8), ("utf", utf8), ("utf_8_sig", utf8),
    ("latin_1", latin1), ("latin1", latin1), ("latin", latin1), ("l1", latin1), ("8859", latin1),
    ("iso_8859_1", latin1), ("iso8859_1", latin1), ("iso8859", latin1), ("cp819", latin1),
    ("ascii", ascii), ("us_ascii", ascii), ("646", ascii)]

/-- The encoding that a value names; what counts as absent is the usual one. -/
def ofValue (v : Value) : Except Misuse FileEncoding :=
  if !v.isTruthy then .ok utf8
  else
    match v.asText? with
    | none => .error (.encodingName v.kindName)
    | some s =>
      let name := (Text.lower s).map fun c => if c = '-' || c = ' ' then '_' else c
      match vocabulary.lookup name with
      | some e => .ok e
      | none => .error (.unknownEncoding s)

/-- What a file that was written as `text` reads as. -/
def decode (e : FileEncoding) (text : String) : Except Misuse String :=
  let bytes := text.toUTF8.toList
  match e with
  | utf8 => .ok text
  | latin1 => .ok (String.ofList (bytes.map fun b => Char.ofNat b.toNat))
  | ascii =>
    match bytes.findIdx? (0x80 ≤ ·) with
    | none => .ok text
    | some i => .error (.notAscii (bytes.getD i 0) i)

end FileEncoding

/-- Where settings come from, the first source before the others. -/
structure SettingsSources where
  arguments : Record := []
  environment : List (String × String) := []
  file : Option String := none
  options : SettingsOptions := {}
  deriving Repr, Inhabited

namespace SettingsSources

def signature : Signature :=
  { callee := "BaseSettings.__init__", ordered := ["__pydantic_self__"], takesNames := true }

def fileName : String := ".env"

def isFilePath (path : String) : Bool :=
  let parts := path.splitOn "/"
  parts.head? != some "" && parts.filter (fun p => p != "" && p != ".") == [fileName]

def pathsOf : Value → Except Misuse (List String)
  | .null => .ok []
  | .text path => .ok [path]
  | .backend b => .ok [b.name]
  | v => do
    (← v.elements).mapM fun path =>
      match path.asText? with
      | some s => .ok s
      | none => .error (.notPath path.kindName)

def fileOf (arguments : Record) (file : Option String) : Except Misuse (Option String) := do
  let paths ← pathsOf (arguments.getD "_env_file" (.text fileName))
  match file with
  | some text =>
    if paths.any isFilePath then
      let encoding ← FileEncoding.ofValue (arguments.getD "_env_file_encoding" .null)
      return some (← encoding.decode text)
    else return none
  | none => return none

def checkPrefix (v : Value) : Except Misuse Unit :=
  match v with
  | .bool _ | .int _ | .float _ => .error (.noLength v.kindName)
  | _ => .ok ()

/-- The prefix that a value names; null leaves the usual one. -/
def prefixOf : Value → Except Misuse String
  | .null => .ok ({} : SettingsOptions).namePrefix
  | v =>
    match v.asText? with
    | some s => .ok s
    | none => .error (.variableNames "backend")

def ofArguments (arguments : Record) (environment : List (String × String))
    (file : Option String) : Except Misuse SettingsSources := do
  signature.check 1 arguments.keys
  let stated := arguments.getD "_env_prefix" .null
  checkPrefix stated
  let text ← fileOf arguments file
  let namePrefix ← prefixOf stated
  return {
    arguments, environment, file := text
    options := {
      namePrefix
      caseSensitive := (arguments.getD "_case_sensitive" .null).isTruthy
      ignoresEmpty := (arguments.getD "_env_ignore_empty" .null).isTruthy
      nullText := (arguments.getD "_env_parse_none_str" .null).asText? } }

/-- The argument for a field: under its very name, or else the last one in any case. -/
def argument? (s : SettingsSources) (field : String) : Option Value :=
  (s.arguments.get? field).or
    (s.arguments.reverse.findSome? fun (k, v) => if Text.lower k = field then some v else none)

def fromEnvironment? (s : SettingsSources) (field : String) : Option String :=
  s.environment.reverse.findSome? fun (k, v) =>
    if s.options.names field k && s.options.counts v then some v else none

def fileEntries (s : SettingsSources) : List (String × Option String) :=
  match s.file with
  | none => []
  | some text => Dotenv.load s.environment text

/-- The text of the last entry of the file for a field; a name alone has none. -/
def fromFile? (s : SettingsSources) (field : String) : Option String :=
  (s.fileEntries.reverse.findSome? fun (k, v) =>
    if s.options.names field k && v.all s.options.counts then some v else none).join

def value? (s : SettingsSources) (field : String) : Option Value :=
  (s.argument? field).or
    (((s.fromEnvironment? field).or (s.fromFile? field)).map s.options.valueOf)

def ambient (environment : List (String × String)) (file : Option String) : SettingsSources :=
  { environment, file }

end SettingsSources

end DataFetch
