import TaskNetwork.Toml.Scalar

/-!
# Reading TOML text

As with JSON, a value is read by recursion on the number of levels that may still be opened, and a
list by recursion on a bound for its length.
-/

namespace TaskNetwork

namespace Toml

def isBlank (c : Char) : Bool := c = ' ' || c = '\t'

def skipBlanks (text : List Char) : List Char := text.dropWhile isBlank

/-- Characters that may stand in a comment or a string: all but control characters. -/
def isText (c : Char) : Bool := c = '\t' || (32 ≤ c.toNat && c.toNat ≠ 127)

def isBareKeyChar (c : Char) : Bool := c.isAlphanum || c = '_' || c = '-'

/-- The text after the end of a line, if a line ends here. -/
def lineEnd? : List Char → Option (List Char)
  | '\n' :: rest => some rest
  | '\r' :: '\n' :: rest => some rest
  | _ => none

def skipComment : List Char → List Char
  | '#' :: rest => rest.dropWhile isText
  | text => text

/-- The text after blanks, comments and line ends. -/
def skipSpace : Nat → List Char → List Char
  | 0, text => text
  | bound + 1, text =>
    let text := skipComment (skipBlanks text)
    match lineEnd? text with
    | some rest => skipSpace bound rest
    | none => text

/-! ## Strings -/

/-- A step in the reading of a string: some of its characters, of which others may follow. -/
inductive Piece where
  | more (chars : List Char)
  | last (chars : List Char)

/-- A character by its hexadecimal code of the given length. -/
def codeEscape (length : Nat) : Reader Char := fun text => do
  let digits ← (text.take length).mapM Json.hexValue?
  let code := digits.foldl (fun code digit => code * 16 + digit) 0
  if digits.length = length ∧ code.isValidChar then some (.ofNat code, text.drop length) else none

/-- What follows a backslash. -/
def escaped : Reader Char
  | 'b' :: rest => some ('\x08', rest)
  | 't' :: rest => some ('\t', rest)
  | 'n' :: rest => some ('\n', rest)
  | 'f' :: rest => some ('\x0c', rest)
  | 'r' :: rest => some ('\r', rest)
  | '"' :: rest => some ('"', rest)
  | '\\' :: rest => some ('\\', rest)
  | 'u' :: rest => codeEscape 4 rest
  | 'U' :: rest => codeEscape 8 rest
  | _ => none

def textChar : Reader Piece
  | c :: rest => if isText c then some (.more [c], rest) else none
  | [] => none

def basicPiece : Reader Piece
  | '"' :: rest => some (.last [], rest)
  | '\\' :: rest => (escaped rest).map fun (c, rest) => (.more [c], rest)
  | text => textChar text

def literalPiece : Reader Piece
  | '\'' :: rest => some (.last [], rest)
  | text => textChar text

/-- A piece of a string between triple quotes, of which up to two may stand before the last. -/
def tripleQuoted (quote : Char) (other : Reader Piece) : Reader Piece := fun text =>
  match (text.take 5).takeWhile (· = quote) with
  | _ :: _ :: _ :: extra => some (.last extra, text.drop (extra.length + 3))
  | _ :: _ => some (.more [quote], text.drop 1)
  | [] =>
    match lineEnd? text with
    | some rest => some (.more ['\n'], rest)
    | none => other text

/-- The text after blanks and line ends. -/
def skipBlankLines : List Char → List Char
  | '\r' :: '\n' :: rest => skipBlankLines rest
  | c :: rest => if isBlank c || c = '\n' then skipBlankLines rest else c :: rest
  | [] => []

/-- A backslash at the end of a line takes the space up to the next word away. -/
def foldedPiece : Reader Piece
  | '\\' :: rest =>
    match lineEnd? (skipBlanks rest) with
    | some rest => some (.more [], skipBlankLines rest)
    | none => basicPiece ('\\' :: rest)
  | text => basicPiece text

/-- A string by its pieces, with the characters before this point in reverse. -/
def pieces (piece : Reader Piece) : Nat → List Char → Reader String
  | 0, _, _ => none
  | bound + 1, before, text =>
    match piece text with
    | none => none
    | some (.last chars, rest) => some (String.ofList (chars.reverse ++ before).reverse, rest)
    | some (.more chars, rest) => pieces piece bound (chars.reverse ++ before) rest

/-- The text without a line end in front. -/
def dropLineEnd (text : List Char) : List Char := (lineEnd? text).getD text

def string (size : Nat) : Reader String
  | '"' :: '"' :: '"' :: rest =>
    pieces (tripleQuoted '"' foldedPiece) size [] (dropLineEnd rest)
  | '\'' :: '\'' :: '\'' :: rest =>
    pieces (tripleQuoted '\'' textChar) size [] (dropLineEnd rest)
  | '"' :: rest => pieces basicPiece size [] rest
  | '\'' :: rest => pieces literalPiece size [] rest
  | _ => none

/-! ## Keys -/

/-- A name: bare, or on one line between quotes. -/
def name (size : Nat) : Reader String
  | '"' :: rest => pieces basicPiece size [] rest
  | '\'' :: rest => pieces literalPiece size [] rest
  | text =>
    match text.span isBareKeyChar with
    | ([], _) => none
    | (chars, rest) => some (String.ofList chars, rest)

/-- The names of a key, with those before this point in reverse, and the blanks after it. -/
def keyRest (size : Nat) : Nat → List String → Reader (List String)
  | 0, _, _ => none
  | bound + 1, before, text =>
    match name size (skipBlanks text) with
    | none => none
    | some (first, rest) =>
      match skipBlanks rest with
      | '.' :: rest => keyRest size bound (first :: before) rest
      | rest => some ((first :: before).reverse, rest)

def key (size : Nat) : Reader (List String) := keyRest size size []

/-! ## Values -/

/-- An array after its opening bracket, with the items before this point in reverse. -/
def items (value : Reader Value) (size : Nat) : Nat → List Value → Reader Value
  | 0, _, _ => none
  | bound + 1, before, text =>
    match skipSpace size text with
    | ']' :: rest => some (.arr before.reverse, rest)
    | text =>
      match value text with
      | none => none
      | some (item, rest) =>
        match skipSpace size rest with
        | ']' :: rest => some (.arr (item :: before).reverse, rest)
        | ',' :: rest => items value size bound (item :: before) rest
        | _ => none

/-- A key, an equals sign and a value. -/
def entry (value : Reader Value) (size : Nat) : Reader (List String × Value) := fun text =>
  match key size text with
  | some (names, '=' :: rest) => (value (skipBlanks rest)).map fun (v, rest) => ((names, v), rest)
  | _ => none

/-- The entries of a table in braces, with those before this point in reverse. -/
def entries (value : Reader Value) (size : Nat) :
    Nat → List (List String × Value) → Reader (List (List String × Value))
  | 0, _, _ => none
  | bound + 1, before, text =>
    match entry value size text with
    | none => none
    | some (first, rest) =>
      match skipBlanks rest with
      | '\x7d' :: rest => some ((first :: before).reverse, rest)
      | ',' :: rest => entries value size bound (first :: before) rest
      | _ => none

/-- A table on one line after its opening brace. -/
def inlineTable (value : Reader Value) (size : Nat) : Reader Value := fun text =>
  match skipBlanks text with
  | '\x7d' :: rest => some (.table [], rest)
  | text =>
    match entries value size size [] text with
    | none => none
    | some (found, rest) =>
      if independent (found.map Prod.fst) then some (.table found, rest) else none

/-- A value in which at most `levels` arrays and tables are open at once. -/
def value (size : Nat) : Nat → Reader Value
  | levels, text =>
    match text with
    | '"' :: _ | '\'' :: _ => (string size text).map fun (s, rest) => (.str s, rest)
    | '[' :: rest =>
      match levels with
      | 0 => none
      | levels + 1 => items (value size levels) size size [] rest
    | '\x7b' :: rest =>
      match levels with
      | 0 => none
      | levels + 1 => inlineTable (value size levels) size rest
    | text => scalar text

/-! ## Statements -/

/-- How many arrays and tables may be open at once in a value. -/
def nestingLimit : Nat := 79

/-- A key between brackets, after the opening ones. -/
def bracketed (size : Nat) (closing : List Char) : Reader (List String) := fun text =>
  match key size text with
  | some (names, rest) =>
    if closing.isPrefixOf rest then some (names, rest.drop closing.length) else none
  | none => none

def statement (size : Nat) : Reader Statement
  | '[' :: '[' :: rest =>
    (bracketed size [']', ']'] rest).map fun (names, rest) => (.itemHeader names, rest)
  | '[' :: rest => (bracketed size [']'] rest).map fun (names, rest) => (.header names, rest)
  | text =>
    (entry (value size nestingLimit) size text).map fun ((names, v), rest) => (.entry names v, rest)

/-- The statements from some point on, each on a line of its own. -/
def statements (size : Nat) : Nat → List Char → Option (List Statement)
  | 0, _ => none
  | bound + 1, text =>
    match skipSpace size text with
    | [] => some []
    | text => do
      let (first, rest) ← statement size text
      match skipComment (skipBlanks rest) with
      | [] => return [first]
      | rest => return first :: (← statements size bound (← lineEnd? rest))

/-- The statements of a document, in front of which a byte order mark may stand. -/
def parse? (text : String) : Option (List Statement) :=
  let chars :=
    match text.toList with
    | '\ufeff' :: rest => rest
    | chars => chars
  statements (chars.length + 1) (chars.length + 1) chars

end Toml

end TaskNetwork
