import BlockCoverage.Found
import BlockCoverage.Text.Utf8

/-!
# Faults in a document

A document is read in one pass, so the first fault met ends the reading. A fault is a cause and the
place where it was noticed, given by line and by octet within the line.
-/

namespace BlockCoverage.Json

open Text (Bytes)

/-- Why reading stopped. -/
inductive Cause where
  /-- The document ended where a value was due. -/
  | endInValue
  /-- The document ended inside a string. -/
  | endInString
  /-- The document ended inside a list. -/
  | endInList
  /-- The document ended inside an object. -/
  | endInObject
  /-- No value starts here. -/
  | expectedValue
  /-- A literal is misspelled. -/
  | expectedIdent
  /-- A number is misspelled. -/
  | invalidNumber
  /-- A number is too large for a double. -/
  | numberOutOfRange
  /-- A raw control character in a string. -/
  | controlInString
  /-- An unknown escape. -/
  | invalidEscape
  /-- Half of a surrogate pair. -/
  | loneSurrogate
  /-- A surrogate that is not followed by an escape. -/
  | endOfHexEscape
  /-- A list element is followed by neither comma nor bracket. -/
  | expectedListEnd
  /-- An object member is followed by neither comma nor brace. -/
  | expectedObjectEnd
  /-- A key is not followed by a colon. -/
  | expectedColon
  /-- A comma with nothing after it. -/
  | trailingComma
  /-- Something follows where nothing may. -/
  | trailingCharacters
  /-- A key that is not a string. -/
  | keyNotString
  /-- A value of the wrong kind. -/
  | wrongType (found : Found) (expected : String)
  /-- A whole number outside the wanted range. -/
  | wrongValue (value : Int) (expected : String)
  /-- A field given twice. -/
  | duplicateField (name : String)
  /-- A field that is not given. -/
  | missingField (name : String)
  /-- A record written as a list that is too short. -/
  | wrongLength (length : Nat) (expected : String)
deriving DecidableEq, Repr

/-- Numbers in messages are plain between `10 ^ -5` and `10 ^ 16`; outside they have a signed
exponent. -/
def doubleFormat : Number.DoubleFormat where
  plain := fun order => decide (-5 ≤ order ∧ order ≤ 15)
  plus := "+"
  nan := "NaN"
  infinity := "inf"

/-- The text of a cause. -/
def Cause.message : Cause → String
  | endInValue => "EOF while parsing a value"
  | endInString => "EOF while parsing a string"
  | endInList => "EOF while parsing a list"
  | endInObject => "EOF while parsing an object"
  | expectedValue => "expected value"
  | expectedIdent => "expected ident"
  | invalidNumber => "invalid number"
  | numberOutOfRange => "number out of range"
  | controlInString => "control character (\\u0000-\\u001F) found while parsing a string"
  | invalidEscape => "invalid escape"
  | loneSurrogate => "lone leading surrogate in hex escape"
  | endOfHexEscape => "unexpected end of hex escape"
  | expectedListEnd => "expected `,` or `]`"
  | expectedObjectEnd => "expected `,` or `\x7d`"
  | expectedColon => "expected `:`"
  | trailingComma => "trailing comma"
  | trailingCharacters => "trailing characters"
  | keyNotString => "key must be a string"
  | wrongType found expected =>
    "invalid type: " ++ found.describe doubleFormat ++ ", expected " ++ expected
  | wrongValue value expected =>
    "invalid value: integer `" ++ writeInt value ++ "`, expected " ++ expected
  | duplicateField name => "duplicate field `" ++ name ++ "`"
  | missingField name => "missing field `" ++ name ++ "`"
  | wrongLength length expected => "invalid length " ++ Nat.repr length ++ ", expected " ++ expected

/-- A cause, and how many octets of the document lie after the place where it was noticed. -/
structure Halt where
  /-- Why reading stopped. -/
  cause : Cause
  /-- How many octets lie after the fault. -/
  left : Nat
deriving DecidableEq, Repr

/-- A fault noticed after consuming everything before `rest`. -/
def Halt.after (cause : Cause) (rest : Bytes) : Halt := ⟨cause, rest.length⟩

/-- A fault noticed by looking at the next octet of `rest`; at the end there is none to count. -/
def Halt.peeking (cause : Cause) (rest : Bytes) : Halt := ⟨cause, rest.length - 1⟩

/-- A cause with its place. -/
structure Fault where
  /-- Why reading stopped. -/
  cause : Cause
  /-- The line, counted from one. -/
  line : Nat
  /-- The octets between the line's start and the place. -/
  column : Nat
deriving DecidableEq, Repr

/-- The text of a fault. -/
def Fault.message (f : Fault) : String :=
  f.cause.message ++ " at line " ++ Nat.repr f.line ++ " column " ++ Nat.repr f.column

/-- Turns a distance from the end into line and column. -/
def Halt.locate (h : Halt) (document : Bytes) : Fault :=
  let before := document.take (document.length - h.left)
  { cause := h.cause
    line := 1 + before.countP (fun b => b == 10)
    column := (before.reverse.takeWhile (fun b => b != 10)).length }

end BlockCoverage.Json
