/-! # Validation issues

What can be wrong with a payload, where, and the wording of each complaint. Reading goes on after an
issue, so one refusal carries every issue in the order of the fields.
-/
namespace DataFetch

/-- One step into a payload. -/
inductive PathStep where
  | key (name : String)
  | index (i : Nat)
  deriving DecidableEq, Repr

inductive Complaint where
  | missing
  | extra
  | notModel (model : String)
  | notText
  | textEncoding
  | notLiteral (expected : String)
  | notMember (expected : List String)
  | notTuple
  | tagAbsent
  | tagUnknown (shown : String)
  | nestedTooDeep
  | notInteger
  | integerText
  | integerFraction
  | integerSize
  | notFinite
  | belowMinimum (bound : Int)
  | aboveMaximum (bound : Int)
  | notBoolean
  | booleanText
  /-- An attempt to change a field of a finished model. -/
  | frozen
  deriving DecidableEq, Repr

namespace Complaint

/-- Quoted alternatives, the last two joined by "or". -/
def alternatives : List String → String
  | [] => ""
  | [a] => "'" ++ a ++ "'"
  | [a, b] => "'" ++ a ++ "' or '" ++ b ++ "'"
  | a :: rest => "'" ++ a ++ "', " ++ alternatives rest

def code : Complaint → String
  | missing => "missing"
  | extra => "extra_forbidden"
  | notModel _ => "model_type"
  | notText => "string_type"
  | textEncoding => "string_unicode"
  | notLiteral _ => "literal_error"
  | notMember _ => "enum"
  | notTuple => "tuple_type"
  | tagAbsent => "union_tag_not_found"
  | tagUnknown _ => "union_tag_invalid"
  | nestedTooDeep => "recursion_loop"
  | notInteger => "int_type"
  | integerText => "int_parsing"
  | integerFraction => "int_from_float"
  | integerSize => "int_parsing_size"
  | notFinite => "finite_number"
  | belowMinimum _ => "greater_than_equal"
  | aboveMaximum _ => "less_than_equal"
  | notBoolean => "bool_type"
  | booleanText => "bool_parsing"
  | frozen => "frozen_instance"

def message : Complaint → String
  | missing => "Field required"
  | extra => "Extra inputs are not permitted"
  | notModel model => "Input should be a valid dictionary or instance of " ++ model
  | notText => "Input should be a valid string"
  | textEncoding =>
    "Input should be a valid string, unable to parse raw data as a unicode string"
  | notLiteral expected => "Input should be " ++ alternatives [expected]
  | notMember expected => "Input should be " ++ alternatives expected
  | notTuple => "Input should be a valid tuple"
  | tagAbsent => "Unable to extract tag using discriminator _predicate_kind()"
  | tagUnknown shown =>
    "Input tag '" ++ shown ++ "' found using _predicate_kind() does not match any of the expected " ++
      "tags: 'simple', 'compound'"
  | nestedTooDeep => "Recursion error - cyclic reference detected"
  | notInteger => "Input should be a valid integer"
  | integerText => "Input should be a valid integer, unable to parse string as an integer"
  | integerFraction => "Input should be a valid integer, got a number with a fractional part"
  | integerSize => "Unable to parse input string as an integer, exceeded maximum size"
  | notFinite => "Input should be a finite number"
  | belowMinimum bound => "Input should be greater than or equal to " ++ toString bound
  | aboveMaximum bound => "Input should be less than or equal to " ++ toString bound
  | notBoolean => "Input should be a valid boolean"
  | booleanText => "Input should be a valid boolean, unable to interpret input"
  | frozen => "Instance is frozen"

end Complaint

structure Issue where
  path : List PathStep
  complaint : Complaint
  deriving DecidableEq, Repr

namespace Issue

/-- The issue as seen from one step further out. -/
def under (step : PathStep) (issue : Issue) : Issue :=
  { issue with path := step :: issue.path }

end Issue

end DataFetch
