import EventSieve.Filter.Basic
import EventSieve.Json.Basic

/-!
# Filters in JSON

## Main definitions

* `Filter.toJson` — a filter in JSON
-/
namespace EventSieve

/-- The name of an operator in JSON. -/
def Operator.jsonName : Operator → String
  | equals => "equals"
  | notEquals => "not_equals"
  | «matches» => "matches"
  | contains => "contains"
  | present => "present"
  | greaterThan => "greater_than"
  | lessThan => "less_than"

/-- The name of a connective in JSON. -/
def Connective.jsonName : Connective → String
  | and => "and"
  | or => "or"

/-- A comparison in JSON. -/
def Comparison.toJson (comparison : Comparison) : Json :=
  .ofMembers [("field", .string comparison.field),
    ("operator", .string comparison.operator.jsonName),
    ("raw_value", .ofString? comparison.value), ("negate", .boolean comparison.negated)]

/-- A clause in JSON. -/
def Clause.toJson (clause : Clause) : Json :=
  .ofMembers [("left", clause.left.toJson),
    ("connective", .ofString? (clause.connective.map (·.jsonName))),
    ("right", (clause.right.map (·.toJson)).getD .null),
    ("negate", .boolean clause.negated)]

/-- A filter in JSON. -/
def Filter.toJson (filter : Filter) : Json :=
  .ofMembers [("expressions", .array (filter.clauses.map Clause.toJson)),
    ("negate", .boolean filter.negated)]

end EventSieve
