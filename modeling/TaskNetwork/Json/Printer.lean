import TaskNetwork.Json.Basic
import TaskNetwork.Binary64.Text

/-!
# JSON text

A value is written in front of the text that follows it, either on one line or with one item a line
and two blanks a level. Only quotes, backslashes and control characters are escaped.
-/

namespace TaskNetwork

namespace Json

inductive Layout where
  | compact
  | pretty
deriving DecidableEq

/-- What stands before an item on a level: a new line and its indentation, or nothing. -/
def Layout.newline : Layout → Nat → List Char
  | .compact, _ => []
  | .pretty, level => '\n' :: List.replicate (2 * level) ' '

def Layout.colon : Layout → List Char
  | .compact => [':']
  | .pretty => [':', ' ']

/-- A digit of a control character's code. -/
def hexDigit (n : Nat) : Char := "0123456789abcdef".toList.getD n '0'

def escape (c : Char) : List Char :=
  if c = '"' then ['\\', '"']
  else if c = '\\' then ['\\', '\\']
  else if c = '\n' then ['\\', 'n']
  else if c = '\r' then ['\\', 'r']
  else if c = '\t' then ['\\', 't']
  else if c = '\x08' then ['\\', 'b']
  else if c = '\x0c' then ['\\', 'f']
  else if c.toNat < 32 then ['\\', 'u', '0', '0', hexDigit (c.toNat / 16), hexDigit (c.toNat % 16)]
  else [c]

def writeString (s : String) (rest : List Char) : List Char :=
  '"' :: s.toList.foldr (fun c text => escape c ++ text) ('"' :: rest)

def writeInt (i : Int) (rest : List Char) : List Char :=
  match i with
  | .ofNat n => Nat.toDigits 10 n ++ rest
  | .negSucc n => '-' :: Nat.toDigits 10 (n + 1) ++ rest

mutual

/-- The text of a value that starts on the given level, followed by `rest`. -/
def write (layout : Layout) (level : Nat) : Json → List Char → List Char
  | null, rest => "null".toList ++ rest
  | bool true, rest => "true".toList ++ rest
  | bool false, rest => "false".toList ++ rest
  | int i, rest => writeInt i rest
  | float x, rest => x.scientific ++ rest
  | str s, rest => writeString s rest
  | arr [], rest => '[' :: ']' :: rest
  | arr (item :: items), rest =>
    '[' :: layout.newline (level + 1) ++
      write layout (level + 1) item (writeItems layout level items rest)
  | obj [], rest => '{' :: '}' :: rest
  | obj ((key, value) :: fields), rest =>
    '{' :: layout.newline (level + 1) ++ writeString key (layout.colon ++
      write layout (level + 1) value (writeFields layout level fields rest))

def writeItems (layout : Layout) (level : Nat) : List Json → List Char → List Char
  | [], rest => layout.newline level ++ ']' :: rest
  | item :: items, rest =>
    ',' :: layout.newline (level + 1) ++
      write layout (level + 1) item (writeItems layout level items rest)

def writeFields (layout : Layout) (level : Nat) : List (String × Json) → List Char → List Char
  | [], rest => layout.newline level ++ '}' :: rest
  | (key, value) :: fields, rest =>
    ',' :: layout.newline (level + 1) ++ writeString key (layout.colon ++
      write layout (level + 1) value (writeFields layout level fields rest))

end

def render (layout : Layout) (value : Json) : String := String.ofList (value.write layout 0 [])

def compact (value : Json) : String := value.render .compact

end Json

end TaskNetwork
