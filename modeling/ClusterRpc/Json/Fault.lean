import ClusterRpc.Text.Utf8

/-! # Why a text is not JSON, and where -/

namespace ClusterRpc.Json

/-- What a reader of JSON objects to. -/
inductive Cause where
  | endInValue
  | endInList
  | endInObject
  | endInString
  | expectedColon
  | expectedListEnd
  | expectedObjectEnd
  | expectedIdent
  | expectedValue
  | invalidEscape
  | invalidNumber
  | numberOutOfRange
  | invalidCodePoint
  | controlCharacter
  | keyMustBeString
  | loneSurrogate
  | endInHexEscape
  | trailingComma
  | trailingCharacters
  | recursionLimit
  /-- A value of another type than the one asked for. -/
  | wrongType (found expected : String)
deriving DecidableEq, Repr

def Cause.message : Cause → String
  | endInValue => "EOF while parsing a value"
  | endInList => "EOF while parsing a list"
  | endInObject => "EOF while parsing an object"
  | endInString => "EOF while parsing a string"
  | expectedColon => "expected `:`"
  | expectedListEnd => "expected `,` or `]`"
  | expectedObjectEnd => "expected `,` or `\x7d`"
  | expectedIdent => "expected ident"
  | expectedValue => "expected value"
  | invalidEscape => "invalid escape"
  | invalidNumber => "invalid number"
  | numberOutOfRange => "number out of range"
  | invalidCodePoint => "invalid unicode code point"
  | controlCharacter => "control character (\\u0000-\\u001F) found while parsing a string"
  | keyMustBeString => "key must be a string"
  | loneSurrogate => "lone leading surrogate in hex escape"
  | endInHexEscape => "unexpected end of hex escape"
  | trailingComma => "trailing comma"
  | trailingCharacters => "trailing characters"
  | recursionLimit => "recursion limit exceeded"
  | wrongType found expected => s!"invalid type: {found}, expected {expected}"

/-- A fault while reading: its cause, and what was still unread then. -/
structure Stop where
  cause : Cause
  rest : Bytes
deriving DecidableEq, Repr

/-- A fault with its place in the whole text: the line, counted from one, and the number of octets
read on that line. -/
structure Fault where
  cause : Cause
  line : Nat
  column : Nat
deriving DecidableEq, Repr

/-- The line feed. -/
def lineFeed : UInt8 := 0x0A

/-- The fault for stopping with `stop.rest` unread while reading `text`. -/
def Stop.locate (stop : Stop) (text : Bytes) : Fault :=
  let read := text.take (text.length - stop.rest.length)
  { cause := stop.cause
    line := 1 + read.count lineFeed
    column := (read.reverse.takeWhile (· != lineFeed)).length }

def Fault.message (f : Fault) : String :=
  let what := f.cause.message
  let line := f.line
  let column := f.column
  s!"{what} at line {line} column {column}"

end ClusterRpc.Json
