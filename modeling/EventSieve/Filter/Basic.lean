import EventSieve.Operator

/-!
# Filters

A filter is a list of clauses that all have to hold. A clause is a comparison, or two joined by
a connective. Comparisons, clauses and filters can each be negated.

## Main definitions

* `Comparison`, `Clause`, `Filter` — a filter and its parts
* `Filter.comparisons` — all comparisons of a filter
-/
namespace EventSieve

/-- The connectives between the two comparisons of a clause. -/
inductive Connective where
  | and | or
deriving DecidableEq, Repr

namespace Connective

/-- The token of a connective in a filter. -/
def token : Connective → String
  | and => "&&"
  | or => "||"

/-- The connective with a token. -/
def ofToken? (token : String) : Option Connective :=
  if token = "&&" then some and else if token = "||" then some or else none

@[simp] theorem ofToken?_token (connective : Connective) :
    ofToken? connective.token = some connective := by
  cases connective <;> decide

end Connective

/-- The field name that stands for any field. -/
def anyField : String := "*"

/-- A field, an operator and the text it is compared with. -/
structure Comparison where
  field : String
  operator : Operator
  value : Option String
  negated : Bool := false
deriving DecidableEq, Repr

namespace Comparison

/-- A text that any field may match. -/
def anywhere (pattern : String) : Comparison :=
  { field := anyField, operator := .matches, value := some pattern }

/-- The opposite comparison. -/
def negate (comparison : Comparison) : Comparison :=
  { comparison with negated := !comparison.negated }

/-- Whether any field may satisfy a comparison. -/
def isAnywhere (comparison : Comparison) : Bool :=
  comparison.field == anyField

@[simp] theorem negate_negate (comparison : Comparison) :
    comparison.negate.negate = comparison := by
  simp [negate]

end Comparison

/-- A comparison, or two joined by a connective. -/
structure Clause where
  left : Comparison
  connective : Option Connective := none
  right : Option Comparison := none
  negated : Bool := false
  /-- A clause has a connective exactly if it has a second comparison. -/
  isSome_connective : connective.isSome = right.isSome := by rfl
deriving DecidableEq, Repr

namespace Clause

/-- A clause is one comparison, or two with a connective. -/
@[cases_eliminator]
theorem single_or_joined {motive : Clause → Prop}
    (single : ∀ left negated, motive { left, negated })
    (joined : ∀ left connective right negated,
      motive { left, connective := some connective, right := some right, negated })
    (clause : Clause) : motive clause := by
  obtain ⟨left, connective, right, negated, agree⟩ := clause
  match connective, right, agree with
  | none, none, _ => exact single left negated
  | some connective, some right, _ => exact joined left connective right negated

/-- The clause of one comparison. -/
abbrev ofComparison (left : Comparison) : Clause :=
  { left }

/-- The opposite clause. -/
def negate (clause : Clause) : Clause :=
  { clause with negated := !clause.negated }

/-- The comparisons of a clause. -/
def comparisons (clause : Clause) : List Comparison :=
  clause.left :: clause.right.toList

@[simp] theorem negate_negate (clause : Clause) : clause.negate.negate = clause := by
  simp [negate]

@[simp] theorem comparisons_negate (clause : Clause) :
    clause.negate.comparisons = clause.comparisons := rfl

end Clause

/-- Clauses that all have to hold. -/
structure Filter where
  clauses : List Clause
  negated : Bool := false
deriving DecidableEq, Repr

namespace Filter

/-- The opposite filter. -/
def negate (filter : Filter) : Filter :=
  { filter with negated := !filter.negated }

/-- All comparisons of a filter. -/
def comparisons (filter : Filter) : List Comparison :=
  filter.clauses.flatMap Clause.comparisons

@[simp] theorem negate_negate (filter : Filter) : filter.negate.negate = filter := by
  simp [negate]

@[simp] theorem comparisons_negate (filter : Filter) :
    filter.negate.comparisons = filter.comparisons := rfl

end Filter
end EventSieve
