/-!
# Where and why a text is not JSON

A position counts lines from one and bytes of UTF-8 within a line.
-/

namespace TaskNetwork

namespace Json

inductive ParseError.Cause where
  | endInValue
  | endInString
  | endInList
  | endInObject
  | expectedColon
  | expectedListEnd
  | expectedObjectEnd
  | expectedWord
  | expectedValue
  | invalidEscape
  | invalidNumber
  | numberOutOfRange
  | controlCharacter
  | keyNotString
  | loneSurrogate
  | unpairedSurrogate
  | trailingComma
  | trailingCharacters
  | tooDeep
deriving DecidableEq

def ParseError.Cause.message : ParseError.Cause → String
  | .endInValue => "EOF while parsing a value"
  | .endInString => "EOF while parsing a string"
  | .endInList => "EOF while parsing a list"
  | .endInObject => "EOF while parsing an object"
  | .expectedColon => "expected `:`"
  | .expectedListEnd => "expected `,` or `]`"
  | .expectedObjectEnd => "expected `,` or `\x7d`"
  | .expectedWord => "expected ident"
  | .expectedValue => "expected value"
  | .invalidEscape => "invalid escape"
  | .invalidNumber => "invalid number"
  | .numberOutOfRange => "number out of range"
  | .controlCharacter => "control character (\\u0000-\\u001F) found while parsing a string"
  | .keyNotString => "key must be a string"
  | .loneSurrogate => "lone leading surrogate in hex escape"
  | .unpairedSurrogate => "unexpected end of hex escape"
  | .trailingComma => "trailing comma"
  | .trailingCharacters => "trailing characters"
  | .tooDeep => "recursion limit exceeded"

structure Position where
  line : Nat
  column : Nat
deriving DecidableEq

namespace Position

def start : Position := ⟨1, 0⟩

def after (p : Position) (c : Char) : Position :=
  if c = '\n' then ⟨p.line + 1, 0⟩ else ⟨p.line, p.column + c.utf8Size⟩

/-- The position some bytes further on, which stays at the end of the text. -/
def advance (p : Position) : Nat → List Char → Position
  | _, [] => p
  | n, c :: rest =>
    if c.utf8Size ≤ n then (p.after c).advance (n - c.utf8Size) rest else ⟨p.line, p.column + n⟩

end Position

structure ParseError where
  cause : ParseError.Cause
  position : Position
deriving DecidableEq

def ParseError.message (e : ParseError) : String :=
  s!"{e.cause.message} at line {e.position.line} column {e.position.column}"

end Json

end TaskNetwork
