import ChunkStore.Json.Value
import ChunkStore.Text.Quoted
/-!
# Why a JSON text does not decode

A decoding error is either a fault of the text (`SyntaxFault`) or a value that does not fit the
expected shape (`Fault`), with the line and column where it was noticed. Columns count bytes
since the last newline; the first line is line 1. An error raised away from the text, such as a
missing field, gets its position from the enclosing container when that container ends.
-/

namespace ChunkStore.Json

/-- Faults of the JSON text itself. -/
inductive SyntaxFault where
  | eofList
  | eofObject
  | eofString
  | eofValue
  | expectedColon
  | expectedListCommaOrEnd
  | expectedObjectCommaOrEnd
  | expectedIdent
  | expectedValue
  | invalidEscape
  | invalidNumber
  | numberOutOfRange
  | invalidUnicode
  | controlCharacter
  | keyMustBeString
  | loneLeadingSurrogate
  | trailingComma
  | trailingCharacters
  | unexpectedEndOfHexEscape
  | recursionLimit
  deriving Repr, DecidableEq

/-- The wording of a syntax fault. -/
def SyntaxFault.message : SyntaxFault → String
  | .eofList => "EOF while parsing a list"
  | .eofObject => "EOF while parsing an object"
  | .eofString => "EOF while parsing a string"
  | .eofValue => "EOF while parsing a value"
  | .expectedColon => "expected `:`"
  | .expectedListCommaOrEnd => "expected `,` or `]`"
  | .expectedObjectCommaOrEnd => "expected `,` or `\x7d`"
  | .expectedIdent => "expected ident"
  | .expectedValue => "expected value"
  | .invalidEscape => "invalid escape"
  | .invalidNumber => "invalid number"
  | .numberOutOfRange => "number out of range"
  | .invalidUnicode => "invalid unicode code point"
  | .controlCharacter => "control character (\\u0000-\\u001F) found while parsing a string"
  | .keyMustBeString => "key must be a string"
  | .loneLeadingSurrogate => "lone leading surrogate in hex escape"
  | .trailingComma => "trailing comma"
  | .trailingCharacters => "trailing characters"
  | .unexpectedEndOfHexEscape => "unexpected end of hex escape"
  | .recursionLimit => "recursion limit exceeded"

/-- What a value turned out to be, when it is not what was expected. -/
inductive Found where
  | null
  | bool (b : Bool)
  | unsigned (n : Nat)
  | signed (i : Int)
  | float (x : Float)
  | str (s : String)
  | seq
  | map

/-- The wording of a found value: integers and floats in backticks, strings quoted. -/
def Found.describe : Found → String
  | .null => "null"
  | .bool b => "boolean `" ++ toString b ++ "`"
  | .unsigned n => "integer `" ++ toString n ++ "`"
  | .signed i => "integer `" ++ toString i ++ "`"
  | .float x => "floating point `" ++ Decimal.jsonFloatText x ++ "`"
  | .str s => "string " ++ Text.quote s
  | .seq => "sequence"
  | .map => "map"

/-- What went wrong while decoding. -/
inductive Fault where
  | malformed (f : SyntaxFault)
  | invalidType (found : Found) (expected : String)
  | invalidValue (found : Found) (expected : String)
  | invalidLength (n : Nat) (expected : String)
  | missingField (name : String)
  | duplicateField (name : String)
  | custom (message : String)

/-- The wording of a fault. -/
def Fault.message : Fault → String
  | .malformed f => f.message
  | .invalidType found e => "invalid type: " ++ found.describe ++ ", expected " ++ e
  | .invalidValue found e => "invalid value: " ++ found.describe ++ ", expected " ++ e
  | .invalidLength n e => "invalid length " ++ toString n ++ ", expected " ++ e
  | .missingField name => "missing field `" ++ name ++ "`"
  | .duplicateField name => "duplicate field `" ++ name ++ "`"
  | .custom m => m

/-- A line and a byte column in a text. -/
structure Position where
  line : Nat
  column : Nat
  deriving Repr, DecidableEq

/-- A decoding error and, once known, where it was noticed. -/
structure DecodeError where
  fault : Fault
  position : Option Position := none

/-- The message of a decoding error, with `at line L column C` once it has a position. -/
def DecodeError.message (e : DecodeError) : String :=
  match e.position with
  | some p => e.fault.message ++ " at line " ++ toString p.line ++ " column " ++ toString p.column
  | none => e.fault.message

end ChunkStore.Json
