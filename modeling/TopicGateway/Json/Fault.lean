import TopicGateway.Json.Basic
import TopicGateway.Mismatch

/-! Why a text cannot be read as JSON. A failure keeps the bytes that were not consumed when it
arose. Its place is found from them: the line, counted from 1, and the number of bytes consumed on
that line. -/

namespace TopicGateway.Json

inductive Fault where
  | endInValue
  | endInList
  | endInObject
  | endInText
  | expectedColon
  | expectedListEnd
  | expectedObjectEnd
  | expectedWord
  | expectedValue
  | badEscape
  | badNumber
  | numberRange
  | badUtf8
  | controlCharacter
  | nameNotText
  | loneSurrogate
  | escapeCutShort
  | trailingComma
  | trailingBytes
  | tooDeep
  | mismatch (m : Mismatch)
  deriving DecidableEq

structure Failure where
  fault : Fault
  rest : List UInt8
  deriving DecidableEq

/-- In JSON an absent value is `null`, and a float is named as it is written. -/
def wording : Wording where
  absent := "null"
  real
    | .finite r => r.text
    | other => other.plainText

def Fault.message : Fault → String
  | .endInValue => "EOF while parsing a value"
  | .endInList => "EOF while parsing a list"
  | .endInObject => "EOF while parsing an object"
  | .endInText => "EOF while parsing a string"
  | .expectedColon => "expected `:`"
  | .expectedListEnd => "expected `,` or `]`"
  | .expectedObjectEnd => "expected `,` or `\x7d`"
  | .expectedWord => "expected ident"
  | .expectedValue => "expected value"
  | .badEscape => "invalid escape"
  | .badNumber => "invalid number"
  | .numberRange => "number out of range"
  | .badUtf8 => "invalid unicode code point"
  | .controlCharacter => "control character (\\u0000-\\u001F) found while parsing a string"
  | .nameNotText => "key must be a string"
  | .loneSurrogate => "lone leading surrogate in hex escape"
  | .escapeCutShort => "unexpected end of hex escape"
  | .trailingComma => "trailing comma"
  | .trailingBytes => "trailing characters"
  | .tooDeep => "recursion limit exceeded"
  | .mismatch m => m.message wording

/-- The line on which the consumed bytes end and how many of them stand on it. -/
def place (consumed : List UInt8) : Nat × Nat :=
  (consumed.count 0x0a + 1, (consumed.reverse.takeWhile (· != 0x0a)).length)

def Failure.message (input : List UInt8) (f : Failure) : String :=
  let (line, column) := place (input.take (input.length - f.rest.length))
  f.fault.message ++ " at line " ++ toString line ++ " column " ++ toString column

def fail {α : Type} (fault : Fault) (rest : List UInt8) : Except Failure α :=
  .error ⟨fault, rest⟩

def Number.found : Number → Found
  | .integer n _ => .integer n
  | .real r => .real (.finite r)

end TopicGateway.Json
