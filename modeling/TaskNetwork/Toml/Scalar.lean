import TaskNetwork.Json.Parser
import TaskNetwork.Toml.Basic

/-!
# Numbers, dates and truth values

A reader takes the text from some point on and returns what it read with the text after it, or
nothing if no such thing stands there. Here it takes as much as belongs to a scalar and leaves it to
the reader of what follows to refuse the rest of a word. A whole number fits into 64 bits, one with
a point or an exponent does not grow to positive infinity, and a date is in the calendar.
-/

namespace TaskNetwork

namespace Toml

abbrev Reader (α : Type) := List Char → Option (α × List Char)

/-! ## Digits -/

/-- The digits in front of a text, with at most one underscore before each. -/
def moreDigits (isDigit : Char → Bool) : List Char → List Char × List Char
  | '_' :: digit :: rest =>
    if isDigit digit then
      let (digits, rest) := moreDigits isDigit rest
      (digit :: digits, rest)
    else ([], '_' :: digit :: rest)
  | digit :: rest =>
    if isDigit digit then
      let (digits, rest) := moreDigits isDigit rest
      (digit :: digits, rest)
    else ([], digit :: rest)
  | [] => ([], [])

/-- Digits with single underscores between them. -/
def digitRun (isDigit : Char → Bool) : Reader (List Char)
  | first :: rest => if isDigit first then some (moreDigits isDigit (first :: rest)) else none
  | [] => none

/-- Decimal digits without needless zeros in front. -/
def wholeDigits : Reader (List Char)
  | '0' :: rest => some (['0'], rest)
  | text => digitRun Char.isDigit text

/-- The number that digits stand for. -/
def valueOf (base : Nat) (digits : List Char) : Nat :=
  digits.foldl (fun n digit => n * base + (Json.hexValue? digit).getD 0) 0

/-- Is there a minus sign in front of the text? The sign is dropped. -/
def sign : List Char → Bool × List Char
  | '-' :: rest => (true, rest)
  | '+' :: rest => (false, rest)
  | text => (false, text)

/-! ## Numbers -/

/-- A number with this absolute value, if it fits into 64 bits. -/
def boundedInt (negative : Bool) (n : Nat) : Option Value :=
  if negative then if 2 * n ≤ UInt64.size then some (.int (-n)) else none
  else if 2 * n < UInt64.size then some (.int n) else none

/-- A number of another base after its mark. -/
def based (base : Nat) (isDigit : Char → Bool) : Reader Value := fun text => do
  let (digits, rest) ← digitRun isDigit text
  return (← boundedInt false (valueOf base digits), rest)

def isHexDigit (c : Char) : Bool := (Json.hexValue? c).isSome

def isOctalDigit (c : Char) : Bool := '0' ≤ c && c ≤ '7'

def isBinaryDigit (c : Char) : Bool := c = '0' || c = '1'

/-- The double nearest to `digits * 10 ^ exponent`. No power of ten outside of the range of doubles
is computed. -/
def nearest (digits : List Char) (exponent : Int) : Binary64 :=
  let n := valueOf 10 digits
  let magnitude := (Nat.toDigits 10 n).length + exponent
  if n = 0 ∨ magnitude < -330 then .zero
  else if 310 < magnitude then .infinity
  else
    let (num, den) := Binary64.timesPow 10 n 1 exponent
    .ofRatio num den

/-- The digits after a point; no digits where no point stands. -/
def fractionDigits : Reader (List Char)
  | '.' :: rest => digitRun Char.isDigit rest
  | text => some ([], text)

/-- The power of ten after an `e`. -/
def exponent : Reader Int
  | c :: rest =>
    if c = 'e' ∨ c = 'E' then do
      let (negative, rest) := sign rest
      let (digits, rest) ← digitRun Char.isDigit rest
      let n := valueOf 10 digits
      return (if negative then -n else n, rest)
    else none
  | [] => none

/-- A decimal number: floating if there is a point or an exponent in it. -/
def decimal : Reader Value := fun text => do
  let (negative, text) := sign text
  let (whole, rest) ← wholeDigits text
  let (places, rest) ← fractionDigits rest
  let floating (power : Int) (rest : List Char) : Option (Value × List Char) :=
    let x := nearest (whole ++ places) (power - places.length)
    if negative then some (.float x.neg, rest)
    else if x.isFinite then some (.float x, rest)
    else none
  match exponent rest with
  | some (power, rest) => floating power rest
  | none =>
    if places.isEmpty then return (← boundedInt negative (valueOf 10 whole), rest)
    else floating 0 rest

/-- A number that is written as a word. -/
def namedNumber : Reader Value := fun text =>
  let (negative, text) := sign text
  let signed (x : Binary64) : Value := .float (if negative then x.neg else x)
  match text with
  | 'i' :: 'n' :: 'f' :: rest => some (signed .infinity, rest)
  | 'n' :: 'a' :: 'n' :: rest => some (signed .nan, rest)
  | _ => none

def number : Reader Value
  | '0' :: 'x' :: rest => based 16 isHexDigit rest
  | '0' :: 'o' :: rest => based 8 isOctalDigit rest
  | '0' :: 'b' :: rest => based 2 isBinaryDigit rest
  | text => (decimal text).or (namedNumber text)

/-! ## Dates -/

/-- A time after a date and a mark or a blank. -/
def timeAfterDate : Reader Time
  | c :: rest => if c = 'T' ∨ c = 't' ∨ c = ' ' then Calendar.time rest else none
  | [] => none

def moment : Reader Moment := fun text =>
  match Calendar.date text with
  | some (date, rest) =>
    match timeAfterDate rest with
    | some (time, rest) =>
      match Calendar.offset rest with
      | some (minutes, rest) => some (.dateTime date time (some minutes), rest)
      | none => some (.dateTime date time none, rest)
    | none => some (.date date, rest)
  | none => (Calendar.time text).map fun (time, rest) => (.time time, rest)

/-! ## Scalars -/

/-- A truth value, a date or a number. -/
def scalar : Reader Value
  | 't' :: 'r' :: 'u' :: 'e' :: rest => some (.bool true, rest)
  | 'f' :: 'a' :: 'l' :: 's' :: 'e' :: rest => some (.bool false, rest)
  | text =>
    match moment text with
    | some (m, rest) => some (.moment m, rest)
    | none => number text

end Toml

end TaskNetwork
