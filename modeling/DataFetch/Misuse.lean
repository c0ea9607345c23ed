import DataFetch.Text.Quoted
import DataFetch.Validation.Checked

/-! # Misuse

What goes wrong when a call is given values it cannot work with at all, before any model is read, and
the refusals that building a request can end in.
-/
namespace DataFetch

inductive Misuse where
  | notIterable (kind : String)
  /-- A value of this kind cannot be taken apart into a text and its parameters. -/
  | notUnpackable (kind : String)
  | nothingToUnpack
  | operands (sign left right : String)
  | incomparable (sign left right : String)
  /-- An entry of something that is to be read as names with values has no parts. -/
  | notPair (index : Nat)
  | pairLength (index length : Nat)
  | unhashable (kind : String)
  | noEntries (kind : String)
  | listIndex
  | rowTooShort
  /-- A sequence repeated by a number of this kind, which is not whole. -/
  | repetition (kind : String)
  | repetitionTooLong (what : String)
  | outOfMemory
  | indexTooLarge
  | floatTooLarge
  /-- A number has more digits than may be written. -/
  | numeralTooLong (limit : Nat)
  | noMember (kind member : String)
  | noLevel (name : String)
  | memberName (kind : String)
  | loggerName
  | notCallable (kind : String)
  | notNumber (kind : String)
  | numberText (literal : String)
  | missingKey (literal : String)
  | missingArguments (callee : String) (names : List String)
  /-- More arguments in order than the `least` to `most` that a call takes. -/
  | surplusArguments (callee : String) (least most given : Nat)
  | unexpectedArgument (callee argument : String)
  | repeatedArgument (callee argument : String)
  | repeatedKeyword (callee argument : String)
  | notMapping (callee kind : String)
  | notSpreadable (callee kind : String)
  | keywordName
  | notMember (literal enumeration : String)
  | joinedByBytes
  | notCount (kind : String)
  /-- Texts cannot be replaced in bytes. -/
  | notText
  | noLength (kind : String)
  | notPath (kind : String)
  | encodingName (kind : String)
  | unknownEncoding (name : String)
  | notAscii (byte : UInt8) (position : Nat)
  /-- The names of variables cannot be made. -/
  | variableNames (field : String)
  | notOverridden (label method : String)
  | unknownDialect (shown : String) (supported : List String)
  | unsuitable (message : String)
  | readOnly (message : String)
  deriving DecidableEq, Repr

namespace Misuse

def message : Misuse → String
  | notIterable kind => "'" ++ kind ++ "' object is not iterable"
  | notUnpackable kind => "cannot unpack non-iterable " ++ kind ++ " object"
  | nothingToUnpack => "not enough values to unpack (expected at least 1, got 0)"
  | operands sign left right =>
    "unsupported operand type(s) for " ++ sign ++ ": '" ++ left ++ "' and '" ++ right ++ "'"
  | incomparable sign left right =>
    "'" ++ sign ++ "' not supported between instances of '" ++ left ++ "' and '" ++ right ++ "'"
  | notPair index =>
    "cannot convert dictionary update sequence element #" ++ toString index ++ " to a sequence"
  | pairLength index length =>
    "dictionary update sequence element #" ++ toString index ++ " has length " ++ toString length ++
      "; 2 is required"
  | unhashable kind => "unhashable type: '" ++ kind ++ "'"
  | noEntries kind => "'" ++ kind ++ "' object does not support item assignment"
  | listIndex => "list indices must be integers or slices, not str"
  | rowTooShort => "tuple index out of range"
  | repetition kind => "can't multiply sequence by non-int of type '" ++ kind ++ "'"
  | repetitionTooLong what => "repeated " ++ what ++ " too long"
  | outOfMemory => ""
  | indexTooLarge => "cannot fit 'int' into an index-sized integer"
  | floatTooLarge => "int too large to convert to float"
  | numeralTooLong limit =>
    "Exceeds the limit (" ++ toString limit ++ " digits) for integer string conversion; " ++
      "use sys.set_int_max_str_digits() to increase the limit"
  | noMember kind member => "'" ++ kind ++ "' object has no attribute '" ++ member ++ "'"
  | noLevel name => "module 'logging' has no attribute '" ++ name ++ "'"
  | memberName kind => "attribute name must be string, not '" ++ kind ++ "'"
  | loggerName => "A logger name must be a string"
  | notCallable kind => "'" ++ kind ++ "' object is not callable"
  | notNumber kind =>
    "float() argument must be a string or a real number, not '" ++ kind ++ "'"
  | numberText literal => "could not convert string to float: " ++ literal
  | missingKey literal => literal
  | missingArguments callee names =>
    callee ++ "() missing " ++ toString names.length ++ " required positional argument" ++
      (if names.length = 1 then "" else "s") ++ ": " ++
      " and ".intercalate (names.map fun n => "'" ++ n ++ "'")
  | surplusArguments callee least most given =>
    callee ++ "() takes " ++
      (if least = most then toString most else "from " ++ toString least ++ " to " ++ toString most) ++
      " positional argument" ++ (if least = 1 && most = 1 then "" else "s") ++ " but " ++
      toString given ++ " were given"
  | unexpectedArgument callee argument =>
    callee ++ "() got an unexpected keyword argument '" ++ argument ++ "'"
  | repeatedArgument callee argument =>
    callee ++ "() got multiple values for argument '" ++ argument ++ "'"
  | repeatedKeyword callee argument =>
    callee ++ "() got multiple values for keyword argument '" ++ argument ++ "'"
  | notMapping callee kind =>
    callee ++ "() argument after ** must be a mapping, not " ++ kind
  | notSpreadable callee kind =>
    callee ++ "() argument after * must be an iterable, not " ++ kind
  | keywordName => "keywords must be strings"
  | notMember literal enumeration => literal ++ " is not a valid " ++ enumeration
  | joinedByBytes => "sequence item 0: expected a bytes-like object, str found"
  | notCount kind => "'" ++ kind ++ "' object cannot be interpreted as an integer"
  | notText => "a bytes-like object is required, not 'str'"
  | noLength kind => "object of type '" ++ kind ++ "' has no len()"
  | notPath kind => "expected str, bytes or os.PathLike object, not " ++ kind
  | encodingName kind => "open() argument 'encoding' must be str or None, not " ++ kind
  | unknownEncoding name => "unknown encoding: " ++ name
  | notAscii byte position =>
    "'ascii' codec can't decode byte 0x" ++ String.ofList (Text.hexDigits 2 byte.toNat) ++
      " in position " ++ toString position ++ ": ordinal not in range(128)"
  | variableNames field =>
    "error getting value for field \"" ++ field ++ "\" from source \"EnvSettingsSource\""
  | notOverridden label method => label ++ " must override " ++ method ++ "()"
  | unknownDialect shown supported =>
    "Unknown dialect '" ++ shown ++ "'. Supported: [" ++
      ", ".intercalate (supported.map fun s => "'" ++ s ++ "'") ++ "]"
  | unsuitable message => message
  | readOnly message => message

end Misuse

/-- Why a request or a part of one was not built. -/
inductive Refusal where
  | invalid (issues : List Issue)
  | misuse (m : Misuse)
  deriving DecidableEq, Repr

end DataFetch
