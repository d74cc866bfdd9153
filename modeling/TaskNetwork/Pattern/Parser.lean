import TaskNetwork.Pattern.Basic
import TaskNetwork.Pattern.CharacterTest

/-!
# Reading patterns

A reader takes the text of an expression from some point on and returns what it read with the text
after it, or nothing if the text is malformed. Flags hold up to the end of the group in which they
are set. What is written with a backslash and a letter for digits, spaces and characters of words
means a few plain sets, except in a pattern that looks around.
-/

namespace TaskNetwork

namespace Pattern

abbrev Reader (α : Type) := List Char → Option (α × List Char)

/-- How the text of an expression is read. -/
structure Mode where
  ignoreCase : Bool := false
  multiline : Bool := false
  dotForAll : Bool := false
  ignoreSpace : Bool := false
  /-- Are digits, spaces and characters of words those of all languages? -/
  wideClasses : Bool := false

namespace Mode

def test (m : Mode) (test : CharacterTest) : CharacterTest :=
  if m.ignoreCase then test.ignoringCase else test

def isDigit (m : Mode) : CharacterTest :=
  if m.wideClasses then CharacterTest.ofCategory "nd" else Char.isDigit

def isSpace (m : Mode) : CharacterTest :=
  if m.wideClasses then Text.isSpace else CharacterTest.plainSpaces.contains

def isWord (m : Mode) : CharacterTest :=
  if m.wideClasses then Text.isWord else CharacterTest.isAsciiWord

end Mode

/-! ## Escapes -/

inductive Escape where
  | char (c : Char)
  | set (test : CharacterTest)
  | place (accepts : Option Char → Option Char → Bool)

def isHexDigit (c : Char) : Bool := c.isDigit || ('a' ≤ c && c ≤ 'f') || ('A' ≤ c && c ≤ 'F')

def hexValue (c : Char) : Nat :=
  if c.isDigit then c.toNat - '0'.toNat else c.toLower.toNat - 'a'.toNat + 10

/-- The character with a code in hexadecimal digits. -/
def charOfCode (digits : List Char) : Option Char :=
  let code := digits.foldl (fun code digit => code * 16 + hexValue digit) 0
  if !digits.isEmpty && digits.all isHexDigit && code.isValidChar then some (.ofNat code) else none

/-- What stands between braces, after the opening one. -/
def braced : Reader (List Char) := fun text =>
  match text.span (· != '\x7d') with
  | (inside, _ :: rest) => some (inside, rest)
  | (_, []) => none

/-- A character by its code, in a fixed number of digits or between braces. -/
def code (length : Nat) : Reader Escape
  | '\x7b' :: rest => do
    let (digits, rest) ← braced rest
    return (.char (← charOfCode digits), rest)
  | text =>
    let digits := text.take length
    if digits.length = length then
      (charOfCode digits).map fun c => (.char c, text.drop length)
    else none

/-- A Unicode property, of which the name is between braces or a single letter. -/
def property (negated : Bool) : Reader Escape := fun text => do
  let (name, rest) ←
    match text with
    | '\x7b' :: rest => braced rest
    | c :: rest => some ([c], rest)
    | [] => none
  let (negated, name) :=
    match name with
    | '^' :: name => (!negated, name)
    | name => (negated, name)
  let test ← CharacterTest.ofProperty? name
  return (.set (if negated then test.negate else test), rest)

/-- Is there a character of a word at one side of a place? -/
def besideWord (side : Option Char) : Bool := side.any Text.isWord

def wordBoundary (before after : Option Char) : Bool := besideWord before != besideWord after

def wordStart (before after : Option Char) : Bool := !besideWord before && besideWord after

def wordEnd (before after : Option Char) : Bool := besideWord before && !besideWord after

/-- The kind of boundary of a word that is named between braces. -/
def boundary : Reader Escape
  | '\x7b' :: rest => do
    let (name, rest) ← braced rest
    match String.ofList name with
    | "start" => some (.place wordStart, rest)
    | "end" => some (.place wordEnd, rest)
    | "start-half" => some (.place fun before _ => !besideWord before, rest)
    | "end-half" => some (.place fun _ after => !besideWord after, rest)
    | _ => none
  | text => some (.place wordBoundary, text)

/-- Characters that stand for themselves after a backslash: all of ASCII but letters and digits. -/
def isEscapable (c : Char) : Bool := c.toNat < 128 && !c.isAlphanum

/-- What follows a backslash. -/
def escape (m : Mode) : Reader Escape
  | 'd' :: rest => some (.set m.isDigit, rest)
  | 'D' :: rest => some (.set m.isDigit.negate, rest)
  | 's' :: rest => some (.set m.isSpace, rest)
  | 'S' :: rest => some (.set m.isSpace.negate, rest)
  | 'w' :: rest => some (.set m.isWord, rest)
  | 'W' :: rest => some (.set m.isWord.negate, rest)
  | 'p' :: rest => property false rest
  | 'P' :: rest => property true rest
  | 'x' :: rest => code 2 rest
  | 'u' :: rest => code 4 rest
  | 'U' :: rest => code 8 rest
  | 'f' :: rest => some (.char '\x0c', rest)
  | 'n' :: rest => some (.char '\n', rest)
  | 'r' :: rest => some (.char '\r', rest)
  | 't' :: rest => some (.char '\t', rest)
  | 'v' :: rest => some (.char '\x0b', rest)
  | 'A' :: rest => some (.place fun before _ => before.isNone, rest)
  | 'z' :: rest => some (.place fun _ after => after.isNone, rest)
  | 'b' :: rest => boundary rest
  | 'B' :: rest => some (.place fun before after => !wordBoundary before after, rest)
  | '<' :: rest => some (.place wordStart, rest)
  | '>' :: rest => some (.place wordEnd, rest)
  | 'c' :: letter :: rest =>
    if letter.isAlpha then some (.char (.ofNat (letter.toNat % 32)), rest) else none
  | c :: rest => if isEscapable c then some (.char c, rest) else none
  | [] => none

/-! ## Sets in brackets -/

inductive Member where
  | char (c : Char)
  | set (test : CharacterTest)

def member (m : Mode) : Reader Member
  | '\\' :: rest => do
    match ← escape m rest with
    | (.char c, rest) => some (.char c, rest)
    | (.set test, rest) => some (.set test, rest)
    | (.place _, _) => none
  | c :: rest => some (.char c, rest)
  | [] => none

/-- A member, or all characters between two of them. -/
def memberRange (m : Mode) : Reader CharacterTest := fun text => do
  let (first, rest) ← member m text
  let isRange :=
    match rest with
    | '-' :: c :: _ => c != ']' && c != '-'
    | _ => false
  match first with
  | .set test =>
    if isRange then none else return (m.test test, rest)
  | .char first =>
    if isRange then
      match ← member m (rest.drop 1) with
      | (.char last, rest) =>
        if first ≤ last then some (m.test (.between first last), rest) else none
      | (.set _, _) => none
    else return (m.test (· == first), rest)

/-- A set by its name between colons, after the bracket. -/
def namedSet : Reader CharacterTest
  | ':' :: rest =>
    match rest.span (· != ':') with
    | (name, ':' :: ']' :: rest) =>
      match name with
      | '^' :: name =>
        (CharacterTest.ofClassName? (String.ofList name)).map fun test => (test.negate, rest)
      | name => (CharacterTest.ofClassName? (String.ofList name)).map fun test => (test, rest)
    | _ => none
  | _ => none

/-- The beginning of a set after its bracket: whether it is negated, and the members that can stand
only there. -/
def setOpening (text : List Char) : Bool × CharacterTest × List Char :=
  let (negated, text) :=
    match text with
    | '^' :: rest => (true, rest)
    | text => (false, text)
  match text.span (· == '-') with
  | ([], ']' :: rest) => (negated, (· == ']'), rest)
  | ([], text) => (negated, fun _ => false, text)
  | (_, text) => (negated, (· == '-'), text)

/-- The rest of a set, after known members and inside an operation with a set to its left. -/
def setRest (m : Mode) :
    Nat → (CharacterTest → CharacterTest) → CharacterTest → Reader CharacterTest
  | 0, _, _, _ => none
  | bound + 1, finish, known, text =>
    let proceed (operation : CharacterTest → CharacterTest) (rest : List Char) :=
      setRest m bound operation (fun _ => false) rest
    match text with
    | ']' :: rest => some (finish known, rest)
    | '&' :: '&' :: rest => proceed (fun right c => finish known c && right c) rest
    | '-' :: '-' :: rest => proceed (finish known).except rest
    | '~' :: '~' :: rest => proceed (fun right c => finish known c != right c) rest
    | '[' :: rest =>
      match namedSet rest with
      | some (test, rest) => setRest m bound finish (known.either (m.test test)) rest
      | none =>
        let (negated, opened, rest) := setOpening rest
        match setRest m bound id (m.test opened) rest with
        | some (inner, rest) =>
          setRest m bound finish (known.either (if negated then inner.negate else inner)) rest
        | none => none
    | text =>
      match memberRange m text with
      | some (test, rest) => setRest m bound finish (known.either test) rest
      | none => none

/-- A set after its opening bracket. -/
def set (m : Mode) : Reader CharacterTest := fun text => do
  let (negated, opened, rest) := setOpening text
  let (test, rest) ← setRest m (text.length + 1) id (m.test opened) rest
  return (if negated then test.negate else test, rest)

/-! ## Repetition -/

/-- A number, with blanks around it. -/
def count (text : List Char) : Option Nat × List Char :=
  let (digits, rest) := (text.dropWhile (· == ' ')).span Char.isDigit
  let n := digits.foldl (fun n digit => n * 10 + (digit.toNat - '0'.toNat)) 0
  (if digits.isEmpty then none else some n, rest.dropWhile (· == ' '))

/-- The bounds of a repetition, after the opening brace. -/
def bounds : Reader (Nat × Option Nat) := fun text =>
  match count text with
  | (some n, '\x7d' :: rest) => some ((n, some n), rest)
  | (least, ',' :: rest) =>
    match least, count rest with
    | some n, (none, '\x7d' :: rest) => some ((n, none), rest)
    | least, (some most, '\x7d' :: rest) =>
      if least.getD 0 ≤ most then some ((least.getD 0, some most), rest) else none
    | _, _ => none
  | _ => none

def isQuantifier (c : Char) : Bool := c = '*' || c = '+' || c = '?' || c = '\x7b'

def quantifier : Reader (Nat × Option Nat)
  | '*' :: rest => some ((0, none), rest)
  | '+' :: rest => some ((1, none), rest)
  | '?' :: rest => some ((0, some 1), rest)
  | '\x7b' :: rest => bounds rest
  | _ => none

/-- Can the expression be repeated? A place cannot. -/
def isRepeatable : Regex → Bool
  | .place _ | .ahead _ _ | .behind _ _ => false
  | _ => true

/-- The marks behind a quantifier, which say in which order matches are tried. -/
def skipPreference (text : List Char) : List Char :=
  match text with
  | '?' :: '+' :: rest => rest
  | '?' :: rest => rest
  | '+' :: rest => rest
  | text => text

/-- An expression with the quantifier that follows it. -/
def quantified (r : Regex) : Reader Regex := fun text =>
  if (text.head?.any isQuantifier) then
    if isRepeatable r then
      (quantifier text).map fun ((least, most), rest) => (.loop r least most, skipPreference rest)
    else none
  else some (r, text)

/-! ## Groups -/

/-- The flags of a group up to the character that ends them. -/
def flags (m : Mode) (on : Bool) (seen : List Char) : Reader Mode
  | c :: rest =>
    if c = ')' ∨ c = ':' then
      if seen.head? = some '-' ∨ c = ')' ∧ seen.isEmpty then none else some (m, c :: rest)
    else if seen.contains c then none
    else
      match c with
      | 'i' => flags { m with ignoreCase := on } on (c :: seen) rest
      | 'm' => flags { m with multiline := on } on (c :: seen) rest
      | 's' => flags { m with dotForAll := on } on (c :: seen) rest
      | 'x' => flags { m with ignoreSpace := on } on (c :: seen) rest
      | 'u' | 'U' | 'R' => flags m on (c :: seen) rest
      | '-' => flags m false (c :: seen) rest
      | _ => none
  | [] => none

/-- The text after the name of a group. -/
def afterName (text : List Char) : Option (List Char) :=
  match text.span (· != '>') with
  | (first :: name, _ :: rest) =>
    if (first.isAlpha || first = '_') &&
      name.all fun c => CharacterTest.isAsciiWord c || c = '.' || c = '[' || c = ']'
    then some rest else none
  | _ => none

/-- What an opening parenthesis begins: only flags, or a group. -/
inductive Opening where
  | flags (m : Mode)
  | group (m : Mode) (make : Regex → Regex)

/-- What follows an opening parenthesis. -/
def opening (m : Mode) : Reader Opening
  | '?' :: '=' :: rest => some (.group m (.ahead true), rest)
  | '?' :: '!' :: rest => some (.group m (.ahead false), rest)
  | '?' :: '<' :: '=' :: rest => some (.group m (.behind true), rest)
  | '?' :: '<' :: '!' :: rest => some (.group m (.behind false), rest)
  | '?' :: '<' :: rest => (afterName rest).map fun rest => (.group m id, rest)
  | '?' :: 'P' :: '<' :: rest => (afterName rest).map fun rest => (.group m id, rest)
  | '?' :: rest =>
    match flags m true [] rest with
    | some (m, ':' :: rest) => some (.group m id, rest)
    | some (m, _ :: rest) => some (.flags m, rest)
    | _ => none
  | rest => some (.group m id, rest)

/-! ## Expressions -/

/-- An expression of one character or place. -/
def atom (m : Mode) : Reader Regex
  | '.' :: rest => some (.one fun c => m.dotForAll || c != '\n', rest)
  | '^' :: rest =>
    some (.place fun before _ => before.isNone || m.multiline && before == some '\n', rest)
  | '$' :: rest =>
    some (.place fun _ after => after.isNone || m.multiline && after == some '\n', rest)
  | '[' :: rest => (set m rest).map fun (test, rest) => (.one test, rest)
  | '\\' :: rest =>
    (escape m rest).map fun
      | (.char c, rest) => (.one (m.test (· == c)), rest)
      | (.set test, rest) => (.one (m.test test), rest)
      | (.place accepts, rest) => (.place accepts, rest)
  | c :: rest => if isQuantifier c then none else some (.one (m.test (· == c)), rest)
  | [] => none

/-- The text without blanks and a comment in front, where they are to be ignored. -/
def skipIgnored (m : Mode) (text : List Char) : List Char :=
  if m.ignoreSpace then
    match text.dropWhile Text.isSpace with
    | '#' :: rest => rest.dropWhile (· != '\n')
    | text => text
  else text

/-- How many groups may be open at once. -/
def nestingLimit : Nat := 63

/-- The rest of a group in which at most `levels` more may be opened, with its options and the parts
of the last one before this point in reverse. -/
def group (levels : Nat) : Nat → Mode → List Regex → List Regex → Reader Regex
  | 0, _, _, _, _ => none
  | bound + 1, m, options, parts, text =>
    match skipIgnored m text with
    | [] => some (.choice (.sequence parts.reverse :: options).reverse, [])
    | ')' :: rest => some (.choice (.sequence parts.reverse :: options).reverse, ')' :: rest)
    | '|' :: rest => group levels bound m (.sequence parts.reverse :: options) [] rest
    | '(' :: rest =>
      match opening m rest with
      | some (.flags m, rest) =>
        if rest.head?.any isQuantifier then none else group levels bound m options parts rest
      | some (.group inner make, rest) =>
        match levels with
        | 0 => none
        | levels + 1 =>
          match group levels bound inner [] [] rest with
          | some (body, ')' :: rest) =>
            match quantified (make body) rest with
            | some (part, rest) => group (levels + 1) bound m options (part :: parts) rest
            | none => none
          | _ => none
      | none => none
    | text =>
      match atom m text with
      | some (part, rest) =>
        match quantified part rest with
        | some (part, rest) => group levels bound m options (part :: parts) rest
        | none => none
      | none => none

/-- The expression that a whole text is. -/
def regex? (m : Mode) (text : List Char) : Option Regex :=
  match group nestingLimit (2 * text.length + 2) m [] [] text with
  | some (r, []) => some r
  | _ => none

/-- The text with plain sets and control characters in place of the letters for them. -/
def spelledOut : List Char → List Char
  | '\\' :: 'c' :: letter :: rest => .ofNat (letter.toNat % 32) :: spelledOut rest
  | '\\' :: c :: rest =>
    let inside :=
      match c with
      | 'd' | 'D' => some "0-9".toList
      | 'w' | 'W' => some "A-Za-z0-9_".toList
      | 's' | 'S' => some CharacterTest.plainSpaces
      | _ => none
    match inside with
    | some inside =>
      '[' :: (if c.isUpper then ['^'] else []) ++ inside ++ ']' :: spelledOut rest
    | none => '\\' :: c :: spelledOut rest
  | c :: rest => c :: spelledOut rest
  | [] => []

/-- The pattern with the given text, if it is well-formed. -/
def ofString? (text : String) : Option Pattern := do
  let plain ← regex? {} text.toList
  if plain.looksAround then
    return ⟨text, ← regex? { wideClasses := true } text.toList⟩
  else return ⟨String.ofList (spelledOut text.toList), plain⟩

end Pattern

end TaskNetwork
