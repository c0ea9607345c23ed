import DataFetch.Request.Basic
import DataFetch.Signature
import DataFetch.Value.Printer

/-! # Writing statements

A request becomes one statement with positional parameters. Each part is written together with the
values that it binds, so the values stand in the order of their placeholders. What has no text is left
out together with its values.
-/
namespace DataFetch

/-- A statement, or a part of one, with the values bound to its placeholders. -/
structure Command where
  text : String
  params : List Value
  deriving Repr, Inhabited

namespace Command

def empty : Command := ⟨"", []⟩

def join (separator : String) (parts : List Command) : Command :=
  ⟨separator.intercalate (parts.map (·.text)), parts.flatMap (·.params)⟩

def parenthesized (c : Command) : Command :=
  ⟨"(" ++ c.text ++ ")", c.params⟩

def nonempty? (c : Command) : Option Command :=
  if c.text = "" then none else some c

end Command

def Operator.combine (operator : Operator) (parts : List Command) : Command :=
  Command.join (" " ++ operator.word ++ " ") parts

namespace Predicate

mutual
/-- The written form of a condition. A group whose members write nothing is empty, and binds nothing. -/
def written : Predicate → Command
  | simple text params => Command.parenthesized ⟨text, params⟩
  | group operator members =>
    ((operator.combine (fragments members)).nonempty?.map Command.parenthesized).getD Command.empty

def fragments : List Predicate → List Command
  | [] => []
  | p :: rest => p.written.nonempty?.toList ++ fragments rest
end

def write? (p : Predicate) : Option Command :=
  p.written.nonempty?

/-- Conditions side by side, without parentheses around them. -/
def writeTogether (operator : Operator) (forest : List Predicate) : Command :=
  operator.combine (fragments forest)

def writeAll? (operator : Operator) (forest : List Predicate) : Option Command :=
  (writeTogether operator forest).nonempty?

end Predicate

def orderText (sort : List SortKey) : String :=
  "ORDER BY " ++ ", ".intercalate (sort.map fun k => k.column ++ " " ++ k.direction.word)

structure Layout where
  columns : String := "*"
  separator : String := "\n"
  /-- The limit that stands for none, since no backend takes an offset without a limit. -/
  unboundedLimit : String := "-1"
  /-- Why nothing can be joined, where the separator that was asked for is no text. -/
  joinFault : Option Misuse := none
  deriving DecidableEq, Repr, Inhabited

namespace Layout

def signature : Signature :=
  { callee := "FetchRequestSQLWriter.__init__"
    ordered := ["self", "columns", "separator", "unbounded_limit"], optional := 3 }

def joinFaultOf : Value → Option Misuse
  | .text _ | .backend _ => none
  | .bytes _ => some .joinedByBytes
  | v => some (.noMember v.kindName "join")

/-- The layout that named arguments ask for; columns and limit are written as they are shown. -/
def ofArguments (arguments : Record) : Except Misuse Layout :=
  (signature.check 1 arguments.keys).map fun _ =>
    let base : Layout := {}
    let shown (key default : String) : String := (arguments.getD key (.text default)).display
    { columns := shown "columns" base.columns
      separator := ((arguments.getD "separator" (.text base.separator)).asText?).getD base.separator
      unboundedLimit := shown "unbounded_limit" base.unboundedLimit
      joinFault := (arguments.get? "separator").bind joinFaultOf }

def windowLines (layout : Layout) (limit offset : Option String) : List String :=
  if limit.isNone && offset.isNone then []
  else ("LIMIT " ++ limit.getD layout.unboundedLimit) ::
    (offset.map fun o => "OFFSET " ++ o).toList

def whereLines (forest : List Predicate) : List String :=
  ((Predicate.writeAll? .and forest).map fun c => "WHERE " ++ c.text).toList

def orderLines (sort : List SortKey) : List String :=
  if sort.isEmpty then [] else [orderText sort]

def numeral (n : Nat) : String :=
  Value.showInt n

def selectLine (layout : Layout) (table : String) : String :=
  "SELECT " ++ layout.columns ++ " FROM " ++ table

def closingLines (layout : Layout) (r : FetchRequest) : List String :=
  orderLines r.sort ++ layout.windowLines (r.limit.map numeral) (r.offset.map numeral)

def lines (layout : Layout) (r : FetchRequest) : List String :=
  layout.selectLine r.table :: (whereLines r.predicates ++ layout.closingLines r)

/-- The statement of a request. -/
def write (layout : Layout) (r : FetchRequest) : Command :=
  ⟨layout.separator.intercalate (layout.lines r), (Predicate.writeTogether .and r.predicates).params⟩

/-- The most digits that a bound of the window may have. -/
def digitLimit : Nat := 4300

def isWritable (bound : Option Nat) : Bool :=
  bound.all fun n => n < Nat.pow 10 digitLimit

/-- The statement of a request, unless a bound of its window has too many digits to be written or its
lines cannot be joined. -/
def compile (layout : Layout) (r : FetchRequest) : Except Misuse Command :=
  if isWritable r.limit && isWritable r.offset then
    match layout.joinFault with
    | none => .ok (layout.write r)
    | some m => .error m
  else .error (.numeralTooLong digitLimit)

end Layout

end DataFetch
