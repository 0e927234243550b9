import JsonShell.Text.Utf8

/-!
# What is wrong with a JSON text

A reader of JSON stops at the first byte that cannot be part of a value.  `Stop` is where it stopped
and why; `SyntaxError` is the same with the place given as a line and a column, both counted in
bytes from the start of the text.

Two conventions place a stop.  A byte that was *refused without being taken* is counted
(`Stop.refused`); a byte that was taken is the last one counted (`Stop.taken`).
-/

set_option autoImplicit false

namespace JsonShell.Json

/-- The ways in which a text fails to be JSON. -/
inductive Fault where
  | endInValue
  | endInList
  | endInObject
  | endInString
  | expectedColon
  | expectedListEnd
  | expectedObjectEnd
  | expectedIdent
  | expectedValue
  | invalidEscape
  | invalidNumber
  | numberOutOfRange
  | invalidCodePoint
  | controlCharacter
  | keyNotString
  | loneSurrogate
  | endInSurrogatePair
  | trailingComma
  | trailingCharacters
  | tooDeep
deriving DecidableEq, Repr

/-- The text of a fault. -/
def Fault.message : Fault → String
  | .endInValue => "EOF while parsing a value"
  | .endInList => "EOF while parsing a list"
  | .endInObject => "EOF while parsing an object"
  | .endInString => "EOF while parsing a string"
  | .expectedColon => "expected `:`"
  | .expectedListEnd => "expected `,` or `]`"
  | .expectedObjectEnd => "expected `,` or `\x7d`"
  | .expectedIdent => "expected ident"
  | .expectedValue => "expected value"
  | .invalidEscape => "invalid escape"
  | .invalidNumber => "invalid number"
  | .numberOutOfRange => "number out of range"
  | .invalidCodePoint => "invalid unicode code point"
  | .controlCharacter =>
    "control character (\\u0000-\\u001F) found while parsing a string"
  | .keyNotString => "key must be a string"
  | .loneSurrogate => "lone leading surrogate in hex escape"
  | .endInSurrogatePair => "unexpected end of hex escape"
  | .trailingComma => "trailing comma"
  | .trailingCharacters => "trailing characters"
  | .tooDeep => "recursion limit exceeded"

/-- Where reading stopped: so many bytes were left, and the column is moved back by so many. -/
structure Stop where
  fault : Fault
  left : Nat
  back : Nat
deriving DecidableEq, Repr

/-- Stops before the first byte of `rest`, which counts as read; at the end there is none. -/
def Stop.refused (fault : Fault) (rest : Bytes) : Stop :=
  ⟨fault, rest.length - 1, 0⟩

/-- Stops with `rest` still to be read. -/
def Stop.taken (fault : Fault) (rest : Bytes) : Stop :=
  ⟨fault, rest.length, 0⟩

/-- A reader's answer: what it read and what is left, or where it stopped. -/
abbrev Reading (α : Type) := Except Stop (α × Bytes)

/-- A fault and its place. -/
structure SyntaxError where
  fault : Fault
  line : Nat
  column : Nat
deriving DecidableEq, Repr

/-- The text of a syntax error. -/
def SyntaxError.message (e : SyntaxError) : String :=
  e.fault.message ++ " at line " ++ toString e.line ++ " column " ++ toString e.column

/-- The place of a stop in the bytes that were read. -/
def Stop.locate (stop : Stop) (bytes : Bytes) : SyntaxError :=
  let before := bytes.take (bytes.length - stop.left)
  { fault := stop.fault
    line := before.count 10 + 1
    column := (before.reverse.takeWhile (· != 10)).length - stop.back }

end JsonShell.Json
