/-!
# References to resources

A reference has up to five parts, of which only the path is always there. `parse?` accepts those of
which every part is well-formed, and `resolve` says what a reference means inside a resource that is
known by another one.
-/

namespace TaskNetwork

structure Uri where
  scheme : Option String := none
  authority : Option String := none
  path : String := ""
  query : Option String := none
  fragment : Option String := none
deriving DecidableEq

namespace Uri

def isUnreserved (c : Char) : Bool := c.isAlphanum || c = '-' || c = '.' || c = '_' || c = '~'

def isSubDelimiter (c : Char) : Bool := "!$&'()*+,;=".toList.contains c

def isHexDigit (c : Char) : Bool := c.isDigit || ('a' ≤ c && c ≤ 'f') || ('A' ≤ c && c ≤ 'F')

/-- Is every character an ordinary one, one of some others, or an escape of two digits? -/
def isText (others : List Char) : List Char → Bool
  | '%' :: a :: b :: rest => isHexDigit a && isHexDigit b && isText others rest
  | c :: rest => (isUnreserved c || isSubDelimiter c || others.contains c) && isText others rest
  | [] => true

/-- The text up to one of some characters, and the rest with that character. -/
def upTo (stops text : List Char) : List Char × List Char := text.span (!stops.contains ·)

def isScheme : List Char → Bool
  | first :: rest =>
    first.isAlpha && rest.all fun c => c.isAlphanum || c = '+' || c = '-' || c = '.'
  | [] => false

/-- Is this a host that may have a port after it? -/
def isHost (text : List Char) : Bool :=
  match text with
  | '[' :: rest =>
    match upTo [']'] rest with
    | (address, ']' :: port) =>
      !address.isEmpty && address.all (fun c => isHexDigit c || c = ':' || c = '.') && isPort port
    | _ => false
  | text =>
    let (name, port) := upTo [':'] text
    isText [] name && isPort port
where
  isPort : List Char → Bool
    | ':' :: digits => digits.all Char.isDigit
    | [] => true
    | _ => false

def isAuthority (text : List Char) : Bool :=
  match upTo ['@'] text with
  | (user, '@' :: host) => isText [':'] user && isHost host
  | (host, _) => isHost host

/-- The text after a mark, if the mark is there. -/
def marked (mark : Char) (text : List Char) : Option String :=
  match text with
  | c :: rest => if c = mark then some (.ofList rest) else none
  | [] => none

def parse? (text : String) : Option Uri :=
  let chars := text.toList
  let (scheme, rest) :=
    match upTo [':', '/', '?', '#'] chars with
    | (name, ':' :: rest) => (some name, rest)
    | _ => (none, chars)
  let (authority, rest) :=
    match rest with
    | '/' :: '/' :: rest =>
      let (authority, rest) := upTo ['/', '?', '#'] rest
      (some authority, rest)
    | rest => (none, rest)
  let (path, rest) := upTo ['?', '#'] rest
  let (query, fragment) := upTo ['#'] rest
  if scheme.all isScheme && authority.all isAuthority && isText [':', '@', '/'] path &&
    isText [':', '@', '/', '?'] (query.drop 1) && isText [':', '@', '/', '?'] (fragment.drop 1)
  then some {
    scheme := scheme.map .ofList
    authority := authority.map .ofList
    path := .ofList path
    query := marked '?' query
    fragment := marked '#' fragment }
  else none

/-- The steps of a path without those that stand for here and for one level up, where the steps
before this point are given in reverse. -/
def plainSteps : List String → List String → List String
  | before, [] => before.reverse
  | before, ["."] => ("" :: before).reverse
  | before, [".."] => ("" :: before.drop 1).reverse
  | before, "." :: rest => plainSteps before rest
  | before, ".." :: rest => plainSteps (before.drop 1) rest
  | before, step :: rest => plainSteps (step :: before) rest

/-- A path without steps that stand for here and for one level up. -/
def plainPath (path : String) : String :=
  match path.splitOn "/" with
  | "" :: rest => "/" ++ "/".intercalate (plainSteps [] rest)
  | steps => "/".intercalate (plainSteps [] steps)

/-- A path beside the last step of the path of a base. -/
def pathBeside (base : Uri) (path : String) : String :=
  if base.authority.isSome && base.path.isEmpty then "/" ++ path
  else "/".intercalate ((base.path.splitOn "/").dropLast ++ [path])

/-- What a reference means inside a resource with a known base. -/
def resolve (base r : Uri) : Uri :=
  if r.scheme.isSome then { r with path := plainPath r.path }
  else if r.authority.isSome then { r with scheme := base.scheme, path := plainPath r.path }
  else if r.path.isEmpty then
    { base with query := r.query.or base.query, fragment := r.fragment }
  else
    let path := if r.path.front = '/' then r.path else pathBeside base r.path
    { r with scheme := base.scheme, authority := base.authority, path := plainPath path }

def withoutFragment (u : Uri) : Uri := { u with fragment := none }

/-- The octet that an escape of two digits stands for. -/
def octet (a b : Char) : UInt8 := .ofNat (16 * hexValue a + hexValue b)
where
  hexValue (c : Char) : Nat :=
    if c.isDigit then c.toNat - '0'.toNat else c.toLower.toNat - 'a'.toNat + 10

/-- The octets of a text in which an escape stands for one. -/
def octets : List Char → List UInt8
  | '%' :: a :: b :: rest =>
    if isHexDigit a && isHexDigit b then octet a b :: octets rest
    else (String.singleton '%').toUTF8.toList ++ octets (a :: b :: rest)
  | c :: rest => (String.singleton c).toUTF8.toList ++ octets rest
  | [] => []

/-- The text without escapes, if its octets are those of a text. -/
def unescape? (text : String) : Option String :=
  String.fromUTF8? ⟨(octets text.toList).toArray⟩

end Uri

end TaskNetwork
