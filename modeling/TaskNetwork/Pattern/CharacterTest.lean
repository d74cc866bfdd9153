import TaskNetwork.Text.CharacterClass

/-!
# Named sets of characters

The sets that a pattern has a name for, each as a test. A name of a Unicode property is looked up
without regard to case, blanks, dashes and underscores.
-/

namespace TaskNetwork

abbrev CharacterTest := Char → Bool

namespace CharacterTest

def between (first last : Char) : CharacterTest := fun c => first ≤ c && c ≤ last

def either (a b : CharacterTest) : CharacterTest := fun c => a c || b c

def except (a b : CharacterTest) : CharacterTest := fun c => a c && !b c

def negate (a : CharacterTest) : CharacterTest := fun c => !a c

/-- The character in its other cases. -/
def caseVariants (c : Char) : List Char :=
  let signs :=
    if c = 'k' ∨ c = 'K' then ['\u212a']
    else if c = 's' ∨ c = 'S' then ['\u017f']
    else if c = '\u212a' then ['k', 'K']
    else if c = '\u017f' then ['s', 'S']
    else []
  c :: c.toLower :: c.toUpper :: signs

/-- The characters that pass a test in one of their cases. -/
def ignoringCase (a : CharacterTest) : CharacterTest := fun c => (caseVariants c).any a

def isAsciiWord (c : Char) : Bool := c.isAlphanum || c = '_'

/-- The blanks and line ends that a pattern knows by default. -/
def plainSpaces : List Char :=
  [' ', '\t', '\n', '\r', '\x0b', '\x0c', '\u00a0', '\ufeff', '\u2003', '\u2029']

def isGraph (c : Char) : Bool := '!' ≤ c && c ≤ '~'

/-- A set by its name between colons. -/
def ofClassName? (name : String) : Option CharacterTest :=
  match name with
  | "alnum" => some Char.isAlphanum
  | "alpha" => some Char.isAlpha
  | "ascii" => some fun c => c.toNat < 128
  | "blank" => some fun c => c = ' ' || c = '\t'
  | "cntrl" => some fun c => c.toNat < 32 || c.toNat = 127
  | "digit" => some Char.isDigit
  | "graph" => some isGraph
  | "lower" => some Char.isLower
  | "print" => some fun c => c = ' ' || isGraph c
  | "punct" => some fun c => isGraph c && !c.isAlphanum
  | "space" => some fun c => c = ' ' || ('\t' ≤ c && c ≤ '\r')
  | "upper" => some Char.isUpper
  | "word" => some isAsciiWord
  | "xdigit" => some fun c => c.isDigit || ('a' ≤ c && c ≤ 'f') || ('A' ≤ c && c ≤ 'F')
  | _ => none

/-- The long names of general categories, in the form in which they are compared. -/
def categoryNames : List (String × String) := [
  ("letter", "l"), ("casedletter", "lc"), ("uppercaseletter", "lu"), ("lowercaseletter", "ll"),
  ("titlecaseletter", "lt"), ("modifierletter", "lm"), ("otherletter", "lo"), ("mark", "m"),
  ("combiningmark", "m"), ("nonspacingmark", "mn"), ("spacingmark", "mc"), ("enclosingmark", "me"),
  ("number", "n"), ("decimalnumber", "nd"), ("digit", "nd"), ("letternumber", "nl"),
  ("othernumber", "no"), ("punctuation", "p"), ("punct", "p"), ("connectorpunctuation", "pc"),
  ("dashpunctuation", "pd"), ("openpunctuation", "ps"), ("closepunctuation", "pe"),
  ("initialpunctuation", "pi"), ("finalpunctuation", "pf"), ("otherpunctuation", "po"),
  ("symbol", "s"), ("mathsymbol", "sm"), ("currencysymbol", "sc"), ("modifiersymbol", "sk"),
  ("othersymbol", "so"), ("separator", "z"), ("spaceseparator", "zs"), ("lineseparator", "zl"),
  ("paragraphseparator", "zp"), ("other", "c"), ("control", "cc"), ("cntrl", "cc"),
  ("format", "cf"), ("surrogate", "cs"), ("privateuse", "co"), ("unassigned", "cn")]

/-- The characters of a general category, or of a group of them, by its short name. -/
def ofCategory (name : String) : CharacterTest := fun c =>
  let category := GeneralCategory.ofChar c
  let letters := [category.group.toLower, category.kind]
  if name = "lc" then ["lu", "ll", "lt"].contains (String.ofList letters)
  else name.toList.isPrefixOf letters

def ofCategoryName? (name : String) : Option CharacterTest :=
  if categoryNames.any (·.2 == name) then some (ofCategory name)
  else (categoryNames.lookup name).map ofCategory

/-- A name of a property in the form in which it is compared. -/
def plainName (name : List Char) : String :=
  String.ofList ((name.filter fun c => c != ' ' && c != '-' && c != '_').map Char.toLower)

/-- A set by the name of a Unicode property. -/
def ofProperty? (name : List Char) : Option CharacterTest :=
  match name.span fun c => c != '=' && c != ':' with
  | (name, []) =>
    match plainName name with
    | "any" => some fun _ => true
    | "ascii" => some fun c => c.toNat < 128
    | "assigned" => some (negate (ofCategory "cn"))
    | "alphabetic" | "alpha" =>
      some (except Text.isWord (either (ofCategory "m") (ofCategory "nd")))
    | "whitespace" | "wspace" | "space" => some Text.isSpace
    | name => ofCategoryName? name
  | (name, _ :: value) =>
    let negated := name.getLast? == some '!'
    let name := if negated then name.dropLast else name
    if ["generalcategory", "gc"].contains (plainName name) then
      (ofCategoryName? (plainName value)).map fun test => if negated then test.negate else test
    else none

end CharacterTest

end TaskNetwork
