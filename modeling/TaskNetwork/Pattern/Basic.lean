/-!
# Patterns

A pattern is a regular expression that is looked for anywhere in a text. To match is to move marks:
a text of `n` characters has `n + 1` places, before and after its characters, and an expression
takes marks on some places to marks on the places where a match from one of them may end. So the
work is bounded by the size of the text and of the expression, and no choice has to be undone.
-/

namespace TaskNetwork

inductive Regex where
  /-- One character that passes a test. -/
  | one (accepts : Char → Bool)
  /-- A place, by a test of the characters before and after it. -/
  | place (accepts : Option Char → Option Char → Bool)
  | sequence (parts : List Regex)
  | choice (options : List Regex)
  /-- An expression at least so many times in a row, and at most so many if there is a bound. -/
  | loop (body : Regex) (least : Nat) (most : Option Nat)
  /-- A place from which the expression matches, or does not match. -/
  | ahead (matching : Bool) (body : Regex)
  /-- A place up to which the expression matches, or does not match. -/
  | behind (matching : Bool) (body : Regex)

instance : Inhabited Regex := ⟨.sequence []⟩

/-- For every place of a text whether it is marked. -/
abbrev Marks := List Bool

namespace Marks

def everywhere (text : List Char) : Marks := List.replicate (text.length + 1) true

/-- One mark on the place after so many characters. -/
def only (text : List Char) (index : Nat) : Marks :=
  (List.range (text.length + 1)).map (· == index)

def upTo (text : List Char) (index : Nat) : Marks :=
  (List.range (text.length + 1)).map (· ≤ index)

def union (a b : Marks) : Marks := List.zipWith (· || ·) a b

def inter (a b : Marks) : Marks := List.zipWith (· && ·) a b

/-- The marks that are not among others. -/
def minus (a b : Marks) : Marks := List.zipWith (fun x y => x && !y) a b

def isEmpty (a : Marks) : Bool := !a.any id

end Marks

namespace Regex

def startOfText : Regex := place fun before _ => before.isNone

def char (c : Char) : Regex := one (· == c)

/-- The characters before and after each place of a text. -/
def neighbours (text : List Char) : List (Option Char × Option Char) :=
  (none :: text.map some).zip (text.map some ++ [none])

/-- A step taken a number of times. -/
def iterate (step : Marks → Marks) : Nat → Marks → Marks
  | 0, marks => marks
  | n + 1, marks => iterate step n (step marks)

/-- The marks that are there or come to be in up to so many rounds of a step. Only what is new is
moved on. -/
def spread (step : Marks → Marks) : Nat → Marks → Marks → Marks
  | 0, _, all => all
  | rounds + 1, latest, all =>
    let fresh := (step latest).minus all
    if fresh.isEmpty then all else spread step rounds fresh (all.union fresh)

mutual

/-- The places where a match from one of the marked places may end. No more rounds of a loop are of
use than the text has places. -/
def ends (text : List Char) : Regex → Marks → Marks
  | one accepts, marks => false :: List.zipWith (fun mark c => mark && accepts c) marks text
  | place accepts, marks =>
    marks.inter ((neighbours text).map fun (before, after) => accepts before after)
  | sequence parts, marks => endsInOrder text parts marks
  | choice options, marks => endsOfAny text options marks
  | loop body least most, marks =>
    let rounds := text.length + 1
    let first := iterate (ends text body) (min least rounds) marks
    spread (ends text body) ((most.map (· - least)).elim rounds (min rounds)) first first
  | ahead matching body, marks =>
    marks.inter <| (List.range (text.length + 1)).map fun index =>
      (ends text body (Marks.only text index)).any id == matching
  | behind matching body, marks =>
    marks.inter <| (List.range (text.length + 1)).map fun index =>
      (ends text body (Marks.upTo text index)).getD index false == matching

def endsInOrder (text : List Char) : List Regex → Marks → Marks
  | [], marks => marks
  | part :: rest, marks => endsInOrder text rest (ends text part marks)

def endsOfAny (text : List Char) : List Regex → Marks → Marks
  | [], marks => marks.map fun _ => false
  | option :: rest, marks => (ends text option marks).union (endsOfAny text rest marks)

end

/-- Is there a match anywhere in the text? -/
def occursIn (r : Regex) (text : List Char) : Bool :=
  (r.ends text (Marks.everywhere text)).any id

mutual

/-- Is there an expression in this one that looks at the text around a match? -/
def looksAround : Regex → Bool
  | sequence parts => anyLooksAround parts
  | choice options => anyLooksAround options
  | loop body _ _ => body.looksAround
  | ahead _ _ | behind _ _ => true
  | one _ | place _ => false

def anyLooksAround : List Regex → Bool
  | [] => false
  | r :: rest => r.looksAround || anyLooksAround rest

end

end Regex

/-- A regular expression with its text. -/
structure Pattern where
  text : String
  regex : Regex

def Pattern.occursIn (p : Pattern) (s : String) : Bool := p.regex.occursIn s.toList

end TaskNetwork
