import TaskNetwork.Json.Number
import TaskNetwork.Json.ParseError

/-!
# Reading JSON text

Each reader takes the text from some point on and returns what it read with the text after it. A
failure keeps the text from the point where it was noticed, from which its position is computed
once, for the whole text. The number of levels that may be opened inside one another is limited, so
a value is read by recursion on the levels that remain; a list is read by recursion on a bound for
its length, for which the length of the whole text serves.
-/

namespace TaskNetwork

namespace Json

/-- A failure `ahead` bytes into `rest`. -/
structure Failure where
  cause : ParseError.Cause
  rest : List Char
  ahead : Nat

abbrev Reader (α : Type) := List Char → Except Failure (α × List Char)

def isBlank (c : Char) : Bool := c = ' ' || c = '\n' || c = '\t' || c = '\r'

/-- The length of a text in UTF-8. -/
def byteCount (text : List Char) : Nat := text.foldr (fun c count => c.utf8Size + count) 0

def skipBlanks (text : List Char) : List Char := text.dropWhile isBlank

/-- The letters of a literal. -/
def word : List Char → List Char → Except Failure (List Char)
  | [], text => .ok text
  | _ :: _, [] => .error ⟨.endInValue, [], 0⟩
  | expected :: more, c :: rest =>
    if c = expected then word more rest else .error ⟨.expectedWord, c :: rest, 1⟩

/-! ## Numbers -/

/-- A floating number from its parts. -/
def floatOf (negative : Bool) (significand : Nat) (exponent : Int) : Reader Json := fun rest =>
  match Binary64.ofDecimal? significand exponent with
  | some x => .ok (float (if negative then x.neg else x), rest)
  | none => .error ⟨.numberOutOfRange, rest, 0⟩

/-- The text after the digit with which an exponent outgrows 31 bits, if one does. -/
def exponentOverflow (value : Nat) : List Char → Option (List Char)
  | [] => none
  | c :: rest =>
    if c.isDigit then
      let next := value * 10 + digitValue c
      if next < 0x80000000 then exponentOverflow next rest else some rest
    else none

/-- The digits of an exponent. An exponent of more than 31 bits makes zero of a zero or of a
negative exponent and is out of range otherwise. -/
def exponentDigits (negative : Bool) (significand : Nat) (exponent : Int) (down : Bool) :
    Reader Json
  | [] => .error ⟨.endInValue, [], 0⟩
  | c :: rest =>
    if c.isDigit then
      let (digits, after) := (c :: rest).span Char.isDigit
      match exponentOverflow 0 (c :: rest) with
      | some unread =>
        if significand ≠ 0 ∧ !down then .error ⟨.numberOutOfRange, unread, 0⟩
        else .ok (float (if negative then Binary64.zero.neg else Binary64.zero), after)
      | none =>
        let value : Int := digits.foldl (fun value c => value * 10 + digitValue c) 0
        floatOf negative significand (if down then exponent - value else exponent + value) after
    else .error ⟨.invalidNumber, c :: rest, 1⟩

/-- What follows the letter of an exponent. -/
def exponentPart (negative : Bool) (significand : Nat) (exponent : Int) : Reader Json
  | '+' :: rest => exponentDigits negative significand exponent false rest
  | '-' :: rest => exponentDigits negative significand exponent true rest
  | rest => exponentDigits negative significand exponent false rest

/-- What follows a decimal point; `exponent` counts the whole digits that were left out. -/
def fractionPart (negative : Bool) (significand : Nat) (exponent : Nat) : Reader Json := fun text =>
  match text.span Char.isDigit with
  | ([], []) => .error ⟨.endInValue, [], 0⟩
  | ([], c :: rest) => .error ⟨.invalidNumber, c :: rest, 1⟩
  | (digits, rest) =>
    let (significand, unused) := absorb significand digits
    let exponent : Int := exponent - (digits.length - unused : Nat)
    match rest with
    | 'e' :: rest => exponentPart negative significand exponent rest
    | 'E' :: rest => exponentPart negative significand exponent rest
    | rest => floatOf negative significand exponent rest

/-- What follows the whole digits of a number, of which `unused` were left out. -/
def numberTail (negative : Bool) (significand unused : Nat) : Reader Json
  | '.' :: rest => fractionPart negative significand unused rest
  | 'e' :: rest => exponentPart negative significand unused rest
  | 'E' :: rest => exponentPart negative significand unused rest
  | rest =>
    if unused = 0 then .ok (ofInteger negative significand, rest)
    else floatOf negative significand unused rest

/-- A number after its sign. -/
def number (negative : Bool) : Reader Json
  | [] => .error ⟨.endInValue, [], 0⟩
  | '0' :: rest =>
    if rest.head?.any Char.isDigit then .error ⟨.invalidNumber, rest, 1⟩
    else numberTail negative 0 0 rest
  | c :: rest =>
    if c.isDigit then
      let (digits, rest) := (c :: rest).span Char.isDigit
      let (significand, unused) := absorb 0 digits
      numberTail negative significand unused rest
    else .error ⟨.invalidNumber, c :: rest, 1⟩

/-! ## Strings -/

def hexValue? (c : Char) : Option Nat :=
  if c.isDigit then some (c.toNat - '0'.toNat)
  else if 'a' ≤ c ∧ c ≤ 'f' then some (c.toNat - 'a'.toNat + 10)
  else if 'A' ≤ c ∧ c ≤ 'F' then some (c.toNat - 'A'.toNat + 10)
  else none

def fourHexDigits? : List Char → Option (Nat × List Char)
  | a :: b :: c :: d :: rest => do
    let a ← hexValue? a
    let b ← hexValue? b
    let c ← hexValue? c
    let d ← hexValue? d
    return (((a * 16 + b) * 16 + c) * 16 + d, rest)
  | _ => none

/-- The code unit of an escape, which takes up four bytes. -/
def codeUnit : Reader Nat := fun text =>
  match fourHexDigits? text with
  | some read => .ok read
  | none =>
    if byteCount (text.take 4) < 4 then .error ⟨.endInString, [], 0⟩
    else .error ⟨.invalidEscape, text, 4⟩

/-- The second half of a character outside the basic plane, after its first half `high`. -/
def lowSurrogate (high : Nat) : Reader Char
  | [] => .error ⟨.endInString, [], 0⟩
  | '\\' :: [] => .error ⟨.endInString, [], 0⟩
  | '\\' :: 'u' :: rest => do
    let (low, rest) ← codeUnit rest
    if 0xdc00 ≤ low ∧ low ≤ 0xdfff then
      return (.ofNat ((high - 0xd800) * 0x400 + (low - 0xdc00) + 0x10000), rest)
    else .error ⟨.loneSurrogate, rest, 0⟩
  | '\\' :: c :: rest => .error ⟨.unpairedSurrogate, c :: rest, 1⟩
  | c :: rest => .error ⟨.unpairedSurrogate, c :: rest, 1⟩

/-- A character given by its code units. -/
def codeEscape : Reader Char := fun text => do
  let (unit, rest) ← codeUnit text
  if 0xdc00 ≤ unit ∧ unit ≤ 0xdfff then .error ⟨.loneSurrogate, rest, 0⟩
  else if 0xd800 ≤ unit ∧ unit ≤ 0xdbff then lowSurrogate unit rest
  else return (.ofNat unit, rest)

/-- What follows a backslash. -/
def escaped : Reader Char
  | [] => .error ⟨.endInString, [], 0⟩
  | '"' :: rest => .ok ('"', rest)
  | '\\' :: rest => .ok ('\\', rest)
  | '/' :: rest => .ok ('/', rest)
  | 'b' :: rest => .ok ('\x08', rest)
  | 'f' :: rest => .ok ('\x0c', rest)
  | 'n' :: rest => .ok ('\n', rest)
  | 'r' :: rest => .ok ('\r', rest)
  | 't' :: rest => .ok ('\t', rest)
  | 'u' :: rest => codeEscape rest
  | c :: rest => .error ⟨.invalidEscape, c :: rest, 1⟩

/-- The next character of a string, or nothing at its closing quote. -/
def stringChar : Reader (Option Char)
  | [] => .error ⟨.endInString, [], 0⟩
  | '"' :: rest => .ok (none, rest)
  | '\\' :: rest => do
    let (c, rest) ← escaped rest
    return (some c, rest)
  | c :: rest =>
    if c.toNat < 32 then .error ⟨.controlCharacter, c :: rest, 1⟩ else .ok (some c, rest)

/-- A string after its opening quote, with the characters before this point in reverse. -/
def stringRest : Nat → List Char → Reader String
  | 0, _, text => .error ⟨.endInString, text, 0⟩
  | bound + 1, before, text =>
    match stringChar text with
    | .error failure => .error failure
    | .ok (none, rest) => .ok (String.ofList before.reverse, rest)
    | .ok (some c, rest) => stringRest bound (c :: before) rest

/-! ## Arrays and objects -/

/-- The items of an array after its first one, with those read before in reverse. -/
def itemsRest (item : Reader Json) : Nat → List Json → Reader Json
  | 0, _, text => .error ⟨.endInList, text, 0⟩
  | bound + 1, before, text =>
    match skipBlanks text with
    | [] => .error ⟨.endInList, [], 0⟩
    | ']' :: rest => .ok (arr before.reverse, rest)
    | ',' :: rest =>
      match skipBlanks rest with
      | [] => .error ⟨.endInValue, [], 0⟩
      | ']' :: rest => .error ⟨.trailingComma, ']' :: rest, 1⟩
      | rest =>
        match item rest with
        | .error failure => .error failure
        | .ok (value, rest) => itemsRest item bound (value :: before) rest
    | rest => .error ⟨.expectedListEnd, rest, 1⟩

/-- An array after its opening bracket. -/
def items (item : Reader Json) (bound : Nat) : Reader Json := fun text =>
  match skipBlanks text with
  | [] => .error ⟨.endInList, [], 0⟩
  | ']' :: rest => .ok (arr [], rest)
  | rest =>
    match item rest with
    | .error failure => .error failure
    | .ok (value, rest) => itemsRest item bound [value] rest

/-- A field after the opening quote of its key. -/
def field (item : Reader Json) (bound : Nat) : Reader (String × Json) := fun text => do
  let (key, rest) ← stringRest bound [] text
  match skipBlanks rest with
  | [] => .error ⟨.endInObject, [], 0⟩
  | ':' :: rest =>
    let (value, rest) ← item rest
    return ((key, value), rest)
  | rest => .error ⟨.expectedColon, rest, 1⟩

/-- The fields of an object after its first one, with those read before in their order. -/
def fieldsRest (item : Reader Json) (size : Nat) : Nat → List (String × Json) → Reader Json
  | 0, _, text => .error ⟨.endInObject, text, 0⟩
  | bound + 1, before, text =>
    match skipBlanks text with
    | [] => .error ⟨.endInObject, [], 0⟩
    | '\x7d' :: rest => .ok (obj before, rest)
    | ',' :: rest =>
      match skipBlanks rest with
      | [] => .error ⟨.endInValue, [], 0⟩
      | '\x7d' :: rest => .error ⟨.trailingComma, '\x7d' :: rest, 1⟩
      | '"' :: rest =>
        match field item size rest with
        | .error failure => .error failure
        | .ok ((key, value), rest) => fieldsRest item size bound (insert key value before) rest
      | rest => .error ⟨.keyNotString, rest, 1⟩
    | rest => .error ⟨.expectedObjectEnd, rest, 1⟩

/-- An object after its opening brace. -/
def fields (item : Reader Json) (size : Nat) : Reader Json := fun text =>
  match skipBlanks text with
  | [] => .error ⟨.endInObject, [], 0⟩
  | '\x7d' :: rest => .ok (obj [], rest)
  | '"' :: rest =>
    match field item size rest with
    | .error failure => .error failure
    | .ok (first, rest) => fieldsRest item size size [first] rest
  | rest => .error ⟨.keyNotString, rest, 1⟩

/-- A value in which at most `levels` arrays and objects are open at once. -/
def value (size : Nat) : Nat → Reader Json
  | levels, text =>
    match skipBlanks text with
    | [] => .error ⟨.endInValue, [], 0⟩
    | 'n' :: rest => (word "ull".toList rest).map (null, ·)
    | 't' :: rest => (word "rue".toList rest).map (bool true, ·)
    | 'f' :: rest => (word "alse".toList rest).map (bool false, ·)
    | '-' :: rest => number true rest
    | '"' :: rest => (stringRest size [] rest).map fun (s, rest) => (str s, rest)
    | '[' :: rest =>
      match levels with
      | 0 => .error ⟨.tooDeep, '[' :: rest, 1⟩
      | levels + 1 => items (value size levels) size rest
    | '\x7b' :: rest =>
      match levels with
      | 0 => .error ⟨.tooDeep, '\x7b' :: rest, 1⟩
      | levels + 1 => fields (value size levels) size rest
    | c :: rest =>
      if c.isDigit then number false (c :: rest) else .error ⟨.expectedValue, c :: rest, 1⟩

/-- A whole text: one value and blanks around it. -/
def document (size levels : Nat) (text : List Char) : Except Failure Json :=
  match value size levels text with
  | .error failure => .error failure
  | .ok (v, rest) =>
    match skipBlanks rest with
    | [] => .ok v
    | rest => .error ⟨.trailingCharacters, rest, 1⟩

/-- The value of a text in which at most `levels` arrays and objects are open at once. -/
def parseWithin (levels : Nat) (text : String) : Except ParseError Json :=
  let chars := text.toList
  match document (chars.length + 1) levels chars with
  | .ok v => .ok v
  | .error failure =>
    let offset := byteCount chars - byteCount failure.rest + failure.ahead
    .error ⟨failure.cause, Position.start.advance offset chars⟩

/-- How many arrays and objects may be open at once in a document. -/
def nestingLimit : Nat := 127

def parse (text : String) : Except ParseError Json := parseWithin nestingLimit text

end Json

end TaskNetwork
