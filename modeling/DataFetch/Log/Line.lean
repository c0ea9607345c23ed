import DataFetch.Log.Call

/-! # Log lines

How an event becomes the fields of one log line. The fields passed with the event come first, then
whatever is bound and not yet there; level and logger are always those of the call; the service is
added unless the event names one; at last two fields get the names that a search index expects.
-/
namespace DataFetch

structure LogConfig where
  service : Value := .text "quarry"
  threshold : LogLevel := .info
  asObjects : Bool := true
  addTimestamp : Bool := true
  deriving Repr, Inhabited

namespace LogLine

def addService (service : Value) (r : Record) : Record :=
  r.putNew "service.name" service

/-- Moves a field to another name, where it takes the place of what is there. -/
def rename (r : Record) (old new : String) : Record :=
  match r.pop? old with
  | some (v, rest) => rest.put new v
  | none => r

/-- The names that a search index expects for the time and the level. -/
def indexNames (r : Record) : Record :=
  rename (rename r "timestamp" "@timestamp") "level" "log.level"

/-- The record without the request for a stack, when that is off. -/
def dropStackRequest (r : Record) : Record :=
  r.erase "stack_info"

/-- The bound values under those that are there. -/
def mergeContext (r : Record) (context : LogContext) : Record :=
  context.foldl (fun acc (k, v) => acc.putNew k v) r

/-- The name that a record of its own gives to the logger. -/
def nameIn (r : Record) (logger : Value) : Except Misuse Value :=
  match r.getD "_record" .null with
  | .null => .ok logger
  | .backend b => .ok (.text b.symbol)
  | v => .error (.noMember v.kindName "name")

/-- The record of a call at `level` and time `now`. -/
def record (config : LogConfig) (context : LogContext) (now : Value) (level : LogLevel)
    (logger : Value) (stated : Record) : Except Misuse Record :=
  let timed := if config.addTimestamp then stated.put "timestamp" now else stated
  let levelled := (mergeContext timed context).put "level" (.text level.name)
  (nameIn levelled logger).map fun name =>
    indexNames (addService config.service (dropStackRequest (levelled.put "logger" name)))

mutual
/-- A value as it is read back from a line: bytes become their quoted form, and all that is not a
number becomes one and the same. -/
def written : Value → Value
  | .float x => .float (if x.isNaN then ⟨0x7ff8000000000000⟩ else x)
  | .bytes bs => .text (Text.quotedBytes bs)
  | .backend b => .text b.name
  | .list items => .list (writtenItems items)
  | .object fields => .object (writtenFields fields)
  | v => v

def writtenItems : List Value → List Value
  | [] => []
  | v :: rest => written v :: writtenItems rest

def writtenFields : List (String × Value) → List (String × Value)
  | [] => []
  | (k, v) :: rest => (k, written v) :: writtenFields rest
end

/-- The most digits that an integer in a line may have. -/
def digitLimit : Nat := 4300

mutual
/-- Can every integer in a value be written out? -/
def isWritable : Value → Bool
  | .int n => n.natAbs < Nat.pow 10 digitLimit
  | .list items => areWritable items
  | .object fields => fieldsAreWritable fields
  | _ => true

def areWritable : List Value → Bool
  | [] => true
  | v :: rest => isWritable v && areWritable rest

def fieldsAreWritable : List (String × Value) → Bool
  | [] => true
  | (_, v) :: rest => isWritable v && fieldsAreWritable rest
end

/-- The line of a record, unless an integer in it has too many digits to be written. -/
def ofRecord (r : Record) : Except Misuse Record :=
  if fieldsAreWritable r then .ok (writtenFields r) else .error (.numeralTooLong digitLimit)

/-- The line of a call and the level at which it is handed on. There is none below the threshold; lines
for people are left out. -/
def ofCall (config : LogConfig) (context : LogContext) (now : Value) (call : LogCall) :
    Except Misuse (Option (LogLevel × Record)) := do
  match ← call.outcome config.threshold true with
  | none => return none
  | some (level, fields) =>
    let r ← record config context now level call.loggerName fields
    if config.asObjects then return some (level, ← ofRecord r) else return none

end LogLine

end DataFetch
