import DataFetch.Engine.Basic

/-! # Rows

What a statement yields, as records. The two backends name the values of a row differently when names
occur more than once.
-/
namespace DataFetch

structure StatementResult where
  rows : List Record := []
  rowcount : Value := .int (-1)
  lastrowid : Value := .null
  deriving Repr, Inhabited

namespace Rows

/-- Equality of names; between two ASCII names the case of letters does not matter. -/
def sameName (a b : String) : Bool :=
  let isAscii (s : String) : Bool := s.toList.all (·.val < 0x80)
  a == b || (isAscii a && isAscii b && a.toList.map Char.toLower == b.toList.map Char.toLower)

/-- The value of the first column with a name. A row may have more values than there are columns, but
the value of a column that is asked for must be there. -/
def named (columns : List String) (values : List Value) (name : String) : Except Misuse Value :=
  match values[columns.findIdx fun c => sameName c name]? with
  | some v => .ok v
  | none => .error .rowTooShort

/-- A row in which every name stands for the first column of that name. -/
def byName (columns : List String) (values : List Value) : Except Misuse Record :=
  columns.foldlM (fun acc c => (named columns values c).map (Record.put acc c)) []

/-- A row in which the values are taken in turn; a later value takes the place of an earlier one of
the same name. -/
def inTurn (columns : List String) (values : List Value) : Record :=
  Record.ofEntries (columns.zip values)

end Rows

namespace StatementReply

def hasColumns (r : StatementReply) : Bool :=
  r.columns.any fun columns => !columns.isEmpty

/-- The rows by name; without columns there are none. -/
def rowsByName (r : StatementReply) : Except Misuse (List Record) :=
  if r.hasColumns then r.rows.mapM (Rows.byName (r.columns.getD [])) else .ok []

/-- The rows in turn; without columns they are empty. -/
def rowsInTurn (r : StatementReply) : List Record :=
  r.rows.map (Rows.inTurn (r.columns.getD []))

def result (r : StatementReply) (rows : List Record) : StatementResult :=
  { rows, rowcount := r.rowcount, lastrowid := r.lastrowid }

end StatementReply

end DataFetch
