import TaskProbe.Mismatch

/-!
# Errors of JSON texts

A reader that stops says why (`Fault`) and how many bytes it left unread (`Failure`). Line and column
follow from the whole text: lines count from one, columns count the bytes of the line that have been
read.
-/

namespace TaskProbe.Json

/-- Why a JSON text was refused. -/
inductive Fault where
  | eofValue
  | eofList
  | eofObject
  | eofString
  | expectedColon
  | expectedListCommaOrEnd
  | expectedObjectCommaOrEnd
  | expectedWord
  | expectedValue
  | invalidEscape
  | invalidNumber
  | numberOutOfRange
  | invalidCodePoint
  | controlCharacter
  | keyMustBeString
  | loneSurrogate
  | trailingComma
  | trailingCharacters
  | endOfHexEscape
  | tooDeep
  | mismatch (m : Mismatch)
  deriving DecidableEq, Repr

/-- The reason in words. -/
def Fault.message : Fault → String
  | .eofValue => "EOF while parsing a value"
  | .eofList => "EOF while parsing a list"
  | .eofObject => "EOF while parsing an object"
  | .eofString => "EOF while parsing a string"
  | .expectedColon => "expected `:`"
  | .expectedListCommaOrEnd => "expected `,` or `]`"
  | .expectedObjectCommaOrEnd => "expected `,` or `\x7d`"
  | .expectedWord => "expected ident"
  | .expectedValue => "expected value"
  | .invalidEscape => "invalid escape"
  | .invalidNumber => "invalid number"
  | .numberOutOfRange => "number out of range"
  | .invalidCodePoint => "invalid unicode code point"
  | .controlCharacter => "control character (\\u0000-\\u001F) found while parsing a string"
  | .keyMustBeString => "key must be a string"
  | .loneSurrogate => "lone leading surrogate in hex escape"
  | .trailingComma => "trailing comma"
  | .trailingCharacters => "trailing characters"
  | .endOfHexEscape => "unexpected end of hex escape"
  | .tooDeep => "recursion limit exceeded"
  | .mismatch m => m.message

/-- A fault and the number of bytes that had not been read when it was found. -/
structure Failure where
  fault : Fault
  unread : Nat
  deriving DecidableEq, Repr

/-- A fault in what has been read, before `rest`. -/
def Failure.before (fault : Fault) (rest : List UInt8) : Failure := ⟨fault, rest.length⟩

/-- A fault in the first byte of `rest`, or at the end of the text if there is none. -/
def Failure.atHead (fault : Fault) (rest : List UInt8) : Failure := ⟨fault, rest.length - 1⟩

/-! ## Positions -/

/-- A line, counted from one, and the bytes of it that have been read. -/
structure Position where
  line : Nat
  column : Nat
  deriving DecidableEq, Repr

/-- The position after one more byte. -/
def Position.advance (p : Position) (b : UInt8) : Position :=
  if b = 0x0A then ⟨p.line + 1, 0⟩ else ⟨p.line, p.column + 1⟩

/-- The position after `read`. -/
def Position.after (read : List UInt8) : Position := read.foldl Position.advance ⟨1, 0⟩

/-- An error of a JSON text: the reason and where it was found. -/
structure Error where
  fault : Fault
  position : Position
  deriving DecidableEq, Repr

/-- A failure seen in the text it was found in. -/
def Failure.locate (f : Failure) (text : List UInt8) : Error :=
  ⟨f.fault, Position.after (text.take (text.length - f.unread))⟩

/-- The error in words. -/
def Error.message (e : Error) : String :=
  e.fault.message ++ " at line " ++ String.ofList (Text.decimal e.position.line)
    ++ " column " ++ String.ofList (Text.decimal e.position.column)

end TaskProbe.Json
