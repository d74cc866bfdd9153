/-!
# Dates and times

Days of the calendar and times of the day, as they are written in internet documents. A reader takes
the text from some point on and returns what it read with the text after it, or nothing if no date
or time stands there.
-/

namespace TaskNetwork

structure Date where
  year : Nat
  month : Nat
  day : Nat
deriving DecidableEq

/-- A time of the day. The digits of the fraction of a second are kept as they are written, and the
second may be a leap second. -/
structure Time where
  hour : Nat
  minute : Nat
  second : Nat
  fraction : List Char
deriving DecidableEq

namespace Calendar

abbrev Reader (α : Type) := List Char → Option (α × List Char)

/-- The number of so many digits, if it lies between two bounds. -/
def digits (length least most : Nat) : Reader Nat := fun text =>
  let first := text.take length
  let n := first.foldl (fun n c => n * 10 + (c.toNat - '0'.toNat)) 0
  if first.length = length ∧ first.all Char.isDigit ∧ least ≤ n ∧ n ≤ most then
    some (n, text.drop length)
  else none

/-- The text after a character that has to stand in front of it. -/
def after (c : Char) : List Char → Option (List Char)
  | first :: rest => if first = c then some rest else none
  | [] => none

def isLeapYear (year : Nat) : Bool := year % 4 = 0 && (year % 100 != 0 || year % 400 = 0)

def daysIn (year month : Nat) : Nat :=
  if month = 2 then if isLeapYear year then 29 else 28
  else if month = 4 ∨ month = 6 ∨ month = 9 ∨ month = 11 then 30
  else 31

def date : Reader Date := fun text => do
  let (year, rest) ← digits 4 0 9999 text
  let (month, rest) ← digits 2 1 12 (← after '-' rest)
  let (day, rest) ← digits 2 1 (daysIn year month) (← after '-' rest)
  return ({ year, month, day }, rest)

def time : Reader Time := fun text => do
  let (hour, rest) ← digits 2 0 23 text
  let (minute, rest) ← digits 2 0 59 (← after ':' rest)
  let (second, rest) ← digits 2 0 60 (← after ':' rest)
  match rest with
  | '.' :: places =>
    match places.span Char.isDigit with
    | ([], _) => return ({ hour, minute, second, fraction := [] }, rest)
    | (fraction, rest) => return ({ hour, minute, second, fraction }, rest)
  | rest => return ({ hour, minute, second, fraction := [] }, rest)

/-- The minutes by which a place is ahead of universal time. -/
def offset : Reader Int
  | c :: rest =>
    if c = 'Z' ∨ c = 'z' then some (0, rest)
    else if c = '+' ∨ c = '-' then do
      let (hours, rest) ← digits 2 0 23 rest
      let (minutes, rest) ← digits 2 0 59 (← after ':' rest)
      let total := hours * 60 + minutes
      return (if c = '-' then -total else total, rest)
    else none
  | [] => none

/-- The minute of the day in universal time. -/
def universalMinute (t : Time) (offset : Int) : Int :=
  ((t.hour * 60 + t.minute : Nat) - offset) % 1440

/-- A time with an offset, in which a leap second ends the day in universal time. -/
def fullTime : Reader (Time × Int) := fun text => do
  let (t, rest) ← time text
  let (minutes, rest) ← offset rest
  if t.second = 60 ∧ universalMinute t minutes ≠ 1439 then none else return ((t, minutes), rest)

end Calendar

end TaskNetwork
