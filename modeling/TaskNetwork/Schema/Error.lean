import TaskNetwork.Json.Printer
import TaskNetwork.Schema.Value

/-!
# What can be wrong with a value

Every error says what was found, which is written on one line, and what a schema asks for instead.
-/

namespace TaskNetwork

/-- What has a size, and in what it is counted. -/
inductive Measure where
  | items
  | fields
  | characters
deriving DecidableEq

/-- A bound for a number. -/
inductive Bound where
  | minimum
  | exclusiveMinimum
  | maximum
  | exclusiveMaximum
deriving DecidableEq

inductive SchemaError where
  | never (found : Json)
  | wrongType (found : Json) (kinds : List JsonKind)
  | notOption (found : Json) (options : List Json)
  | notConst (expected : Json)
  | missing (key : String)
  | unexpectedFields (keys : List String)
  | unexpectedItems (items : List Json)
  | unevaluatedFields (keys : List String)
  | unevaluatedItems (items : List Json)
  | tooSmall (found : Json) (measure : Measure) (limit : Nat)
  | tooLarge (found : Json) (measure : Measure) (limit : Nat)
  | repeatedItems (found : Json)
  | noneContained (found : Json)
  | noMatch (found : Json) (pattern : String)
  | notOfFormat (found : Json) (format : String)
  | outOfBound (found : Json) (bound : Bound) (limit : Json)
  | notMultiple (found : Json) (divisor : Json)
  | noAlternative (found : Json) (keyword : String)
  | manyAlternatives (found : Json)
  | forbidden (found : Json) (schema : Json)

namespace Bound

/-- On which side of the limit a number is that is out of the bound. -/
def side : Bound → String
  | minimum => "less than the minimum of"
  | exclusiveMinimum => "less than or equal to the minimum of"
  | maximum => "greater than the maximum of"
  | exclusiveMaximum => "greater than or equal to the maximum of"

end Bound

namespace Measure

/-- So many of what is counted. -/
def amount : Measure → Nat → String
  | items, 1 => "1 item"
  | items, n => s!"{n} items"
  | fields, 1 => "1 property"
  | fields, n => s!"{n} properties"
  | characters, 1 => "1 character"
  | characters, n => s!"{n} characters"

end Measure

namespace SchemaError

/-- Options with "or" before the last one; of more than three, the first two and a count. -/
def optionList (options : List String) : String :=
  match options with
  | [] => ""
  | [one] => one
  | [one, two] => s!"{one} or {two}"
  | [one, two, three] => s!"{one}, {two} or {three}"
  | one :: two :: rest => s!"{one}, {two} or {rest.length} other candidates"

/-- That some things are there which should not be. -/
def surplus (what : String) (things : List String) : String :=
  let verb := if things.length = 1 then "was" else "were"
  let list := ", ".intercalate things
  s!"{what} are not allowed ({list} {verb} unexpected)"

def inQuotes (key : String) : String := s!"'{key}'"

def message : SchemaError → String
  | never found => s!"False schema does not allow {found.compact}"
  | wrongType found [kind] => s!"{found.compact} is not of type \"{kind.label}\""
  | wrongType found kinds =>
    let labels := ", ".intercalate (kinds.map fun kind => s!"\"{kind.label}\"")
    s!"{found.compact} is not of types {labels}"
  | notOption found options =>
    s!"{found.compact} is not one of {optionList (options.map Json.compact)}"
  | notConst expected => s!"{expected.compact} was expected"
  | missing key => s!"{(Json.str key).compact} is a required property"
  | unexpectedFields keys => surplus "Additional properties" (keys.map inQuotes)
  | unexpectedItems items => surplus "Additional items" (items.map Json.compact)
  | unevaluatedFields keys => surplus "Unevaluated properties" (keys.map inQuotes)
  | unevaluatedItems items => surplus "Unevaluated items" (items.map Json.compact)
  | tooSmall found .characters limit =>
    s!"{found.compact} is shorter than {Measure.characters.amount limit}"
  | tooSmall found measure limit => s!"{found.compact} has less than {measure.amount limit}"
  | tooLarge found .characters limit =>
    s!"{found.compact} is longer than {Measure.characters.amount limit}"
  | tooLarge found measure limit => s!"{found.compact} has more than {measure.amount limit}"
  | repeatedItems found => s!"{found.compact} has non-unique elements"
  | noneContained found => s!"None of {found.compact} are valid under the given schema"
  | noMatch found pattern => s!"{found.compact} does not match \"{pattern}\""
  | notOfFormat found format => s!"{found.compact} is not a \"{format}\""
  | outOfBound found bound limit => s!"{found.compact} is {bound.side} {limit.compact}"
  | notMultiple found divisor => s!"{found.compact} is not a multiple of {divisor.compact}"
  | noAlternative found keyword =>
    s!"{found.compact} is not valid under any of the schemas listed in the '{keyword}' keyword"
  | manyAlternatives found =>
    let problem := "is valid under more than one of the schemas listed in the 'oneOf' keyword"
    s!"{found.compact} {problem}"
  | forbidden found schema => s!"{schema.compact} is not allowed for {found.compact}"

end SchemaError

end TaskNetwork
