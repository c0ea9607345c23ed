import DataFetch.Misuse
import DataFetch.Text.CaseMap
import DataFetch.Value.Equality
import DataFetch.Value.Printer

/-! # Dialects

The fragments of a statement that differ between backends, and quoted identifiers. Conditions of a
request do not pass through here: their text belongs to the caller.
-/
namespace DataFetch

def doubleBackticks (cs : List Char) : List Char :=
  cs.flatMap fun c => if c = '`' then ['`', '`'] else [c]

/-- An identifier between backticks, the backticks inside it doubled. -/
def quoteIdentifier (name : String) : String :=
  String.ofList ('`' :: doubleBackticks name.toList ++ ['`'])

def nameGiven (v : Value) : Except Misuse String :=
  match v, v.asText? with
  | _, some name => .ok name
  | .bytes _, none => .error .notText
  | _, none => .error (.noMember v.kindName "replace")

def quoteName (v : Value) : Except Misuse String :=
  (nameGiven v).map quoteIdentifier

/-- So many placeholders, with commas between them; none for a count below one. -/
def placeholders (count : Int) : String :=
  ", ".intercalate (List.replicate count.toNat "?")

def placeholdersFor (v : Value) : Except Misuse String :=
  match v.asInt? with
  | some count => .ok (placeholders count)
  | none => .error (.notCount v.kindName)

namespace Backend

def insertDefaults (b : Backend) (quotedTable : String) : String :=
  match b with
  | sqlite => "INSERT INTO " ++ quotedTable ++ " DEFAULT VALUES"
  | mysql => "INSERT INTO " ++ quotedTable ++ " () VALUES ()"

def tableExistsQuery : Backend → String
  | sqlite => "SELECT COUNT(1) FROM sqlite_master WHERE type = 'table' AND name = ?"
  | mysql =>
    "SELECT COUNT(*) FROM INFORMATION_SCHEMA.TABLES " ++
      "WHERE TABLE_SCHEMA = DATABASE() AND TABLE_NAME = ?"

/-- A statement whose one value counts the columns of a table and a name, where the backend can bind
both. -/
def columnExistsQuery? : Backend → Option String
  | sqlite => none
  | mysql => some
    ("SELECT COUNT(1) FROM INFORMATION_SCHEMA.COLUMNS " ++
      "WHERE TABLE_SCHEMA = DATABASE() AND TABLE_NAME = ? AND COLUMN_NAME = ?")

def unboundedLimit : Backend → String
  | sqlite => "-1"
  | mysql => "18446744073709551615"

end Backend

namespace Dialect

def names : List (String × Backend) :=
  [("sqlite", .sqlite), ("mysql", .mysql), ("mariadb", .mysql)]

/-- The dialects that are named in a refusal. -/
def supported : List String := ["mysql", "sqlite"]

/-- The dialect of a name in any case. -/
def find (name : String) : Except Misuse Backend :=
  match names.lookup (Text.lower name) with
  | some b => .ok b
  | none => .error (.unknownDialect name supported)

def ofValue (v : Value) : Except Misuse Backend :=
  match v.asText? with
  | some name => find name
  | none => .error (.noMember v.kindName "value")

end Dialect

end DataFetch
