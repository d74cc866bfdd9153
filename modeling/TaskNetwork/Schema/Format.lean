import TaskNetwork.Calendar
import TaskNetwork.Pattern.Parser
import TaskNetwork.Uri

/-!
# Formats of strings

What a schema can ask of the text of a string by the name of a format.
-/

namespace TaskNetwork

inductive Format where
  | date
  | time
  | dateTime
  | email
  | internationalEmail
  | hostname
  | internationalHostname
  | ipv4
  | ipv6
  | jsonPointer
  | relativeJsonPointer
  | regex
  | uri
  | uriReference
  | iri
  | iriReference
deriving DecidableEq

namespace Format

def label : Format → String
  | date => "date"
  | time => "time"
  | dateTime => "date-time"
  | email => "email"
  | internationalEmail => "idn-email"
  | hostname => "hostname"
  | internationalHostname => "idn-hostname"
  | ipv4 => "ipv4"
  | ipv6 => "ipv6"
  | jsonPointer => "json-pointer"
  | relativeJsonPointer => "relative-json-pointer"
  | regex => "regex"
  | uri => "uri"
  | uriReference => "uri-reference"
  | iri => "iri"
  | iriReference => "iri-reference"

def all : List Format := [date, time, dateTime, email, internationalEmail, hostname,
  internationalHostname, ipv4, ipv6, jsonPointer, relativeJsonPointer, regex, uri, uriReference,
  iri, iriReference]

def ofLabel? (label : String) : Option Format := all.find? (·.label == label)

/-- Did a reader come to the end of the text? -/
def isComplete {α : Type} : Option (α × List Char) → Bool
  | some (_, []) => true
  | _ => false

def isDateTime (text : List Char) : Bool :=
  match Calendar.date text with
  | some (_, c :: rest) => (c = 'T' || c = 't') && isComplete (Calendar.fullTime rest)
  | _ => false

/-- The parts of a text between characters of one kind. -/
def partsAt (separator : Char) (text : List Char) : List (List Char) :=
  ((String.ofList text).splitOn (String.singleton separator)).map String.toList

/-- Is this a part of the name of a host? -/
def isLabel (text : List Char) : Bool :=
  !text.isEmpty && text.length ≤ 63 && text.head? != some '-' && text.getLast? != some '-' &&
    text.all fun c => c.isAlphanum || c = '-'

def isHostname (text : List Char) : Bool :=
  text.length ≤ 253 && (partsAt '.' text).all isLabel

/-- Is this a number up to 255 without needless zeros? -/
def isByte (text : List Char) : Bool :=
  text.all Char.isDigit && text.length ≤ 3 && !text.isEmpty &&
    (text.length = 1 || text.head? != some '0') &&
    text.foldl (fun n c => n * 10 + (c.toNat - '0'.toNat)) 0 ≤ 255

def isIpv4 (text : List Char) : Bool :=
  let parts := partsAt '.' text
  parts.length = 4 && parts.all isByte

/-- How many groups of 16 bits the parts between colons make up, if they are well-formed. Only the
last of all may be an address of the older kind. -/
def groupCount (last : Bool) : List (List Char) → Option Nat
  | [] => some 0
  | [part] =>
    if last ∧ isIpv4 part then some 2
    else if isGroup part then some 1
    else none
  | part :: rest => if isGroup part then (groupCount last rest).map (· + 1) else none
where
  isGroup (part : List Char) : Bool :=
    !part.isEmpty && part.length ≤ 4 && part.all Pattern.isHexDigit

/-- The parts between colons, of which an empty text has none. -/
def colonParts (text : String) : List (List Char) :=
  if text.isEmpty then [] else partsAt ':' text.toList

def isIpv6 (text : String) : Bool :=
  match text.splitOn "::" with
  | [whole] => groupCount true (colonParts whole) == some 8
  | [before, after] =>
    match groupCount false (colonParts before), groupCount true (colonParts after) with
    | some m, some n => m + n ≤ 7
    | _, _ => false
  | _ => false

/-- Is a tilde only there as part of an escape? -/
def hasPointerEscapes : List Char → Bool
  | '~' :: '0' :: rest => hasPointerEscapes rest
  | '~' :: '1' :: rest => hasPointerEscapes rest
  | '~' :: _ => false
  | _ :: rest => hasPointerEscapes rest
  | [] => true

def isJsonPointer (text : List Char) : Bool :=
  (text.isEmpty || text.head? == some '/') && hasPointerEscapes text

def isRelativeJsonPointer (text : List Char) : Bool :=
  match text.span Char.isDigit with
  | ([], _) => false
  | (digits, rest) =>
    (digits.length = 1 || digits.head? != some '0') && (rest == ['#'] || isJsonPointer rest)

def isEmail (text : List Char) : Bool :=
  match text.reverse.span (· != '@') with
  | (host, _ :: user) =>
    !user.isEmpty && user.length ≤ 64 && isHostname host.reverse &&
      (partsAt '.' user).all fun part =>
        !part.isEmpty && part.all fun c =>
          128 ≤ c.toNat || c.isAlphanum || "!#$%&'*+-/=?^_`\x7b|\x7d~".toList.contains c
  | (_, []) => false

/-- The text with a letter in place of every character that is not in ASCII. -/
def asciiLike (text : String) : String := text.map fun c => if c.toNat < 128 then c else 'x'

def accepts (f : Format) (text : String) : Bool :=
  match f with
  | date => isComplete (Calendar.date text.toList)
  | time => isComplete (Calendar.fullTime text.toList)
  | dateTime => isDateTime text.toList
  | email => isEmail text.toList
  | internationalEmail => isEmail (asciiLike text).toList
  | hostname => isHostname text.toList
  | internationalHostname => isHostname (asciiLike text).toList
  | ipv4 => isIpv4 text.toList
  | ipv6 => isIpv6 text
  | jsonPointer => isJsonPointer text.toList
  | relativeJsonPointer => isRelativeJsonPointer text.toList
  | regex => (Pattern.ofString? text).isSome
  | uri => (Uri.parse? text).any (·.scheme.isSome)
  | uriReference => (Uri.parse? text).isSome
  | iri => (Uri.parse? (asciiLike text)).any (·.scheme.isSome)
  | iriReference => (Uri.parse? (asciiLike text)).isSome

end Format

end TaskNetwork
