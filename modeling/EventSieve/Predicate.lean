import EventSieve.Comparator
import EventSieve.Event.Basic
import EventSieve.Filter.Basic

/-!
# Predicates

A predicate is a filter made ready to test records: its values are coerced once. Some value of
a field has to satisfy a comparison; negation applies to the outcome.

## Main definitions

* `Predicate` — a filter made ready
* `Predicate.ofFilter` — the predicate of a filter
* `Predicate.accepts`, `Predicate.acceptsEvent` — the outcome for a record and for an event
-/
namespace EventSieve

/-- How the comparisons of a predicate look at records. -/
structure MatchRules where
  /-- Whether equality and containment ignore case. -/
  ignoreCase : Bool := false
  /-- What stands before the names of derived entries. -/
  derivedMark : String := defaultAlias
deriving DecidableEq, Repr

/-- A comparison made ready. -/
structure FieldTest where
  field : String
  comparator : Comparator
deriving Repr

namespace FieldTest

/-- The test of a comparison. -/
def ofComparison (coercion : Coercion) (rules : MatchRules) (comparison : Comparison) :
    FieldTest :=
  ⟨comparison.field, Comparator.bind comparison.operator comparison.value coercion
    rules.ignoreCase comparison.negated⟩

/-- The outcome for a record. -/
def accepts (test : FieldTest) (aliasMark : String) (record : Record) : Bool :=
  test.comparator.testAny (record.valuesFor test.field aliasMark)

end FieldTest

/-- A clause made ready. -/
structure ClauseTest where
  left : FieldTest
  right : Option (Connective × FieldTest)
  negated : Bool
deriving Repr

namespace ClauseTest

/-- The test of a clause. -/
def ofClause (coercion : Coercion) (rules : MatchRules) (clause : Clause) : ClauseTest where
  left := .ofComparison coercion rules clause.left
  right := do
    let connective ← clause.connective
    let right ← clause.right
    return (connective, .ofComparison coercion rules right)
  negated := clause.negated

/-- The outcome for a record. -/
def accepts (test : ClauseTest) (aliasMark : String) (record : Record) : Bool :=
  let left := test.left.accepts aliasMark record
  let joined :=
    match test.right with
    | none => left
    | some (.and, right) => left && right.accepts aliasMark record
    | some (.or, right) => left || right.accepts aliasMark record
  joined ^^ test.negated

end ClauseTest

/-- A filter made ready. -/
structure Predicate where
  clauses : List ClauseTest := []
  negated : Bool := false
  derivedMark : String := defaultAlias
deriving Repr

namespace Predicate

/-- The predicate of a filter. -/
def ofFilter (coercion : Coercion) (rules : MatchRules) (filter : Filter) : Predicate where
  clauses := filter.clauses.map (ClauseTest.ofClause coercion rules)
  negated := filter.negated
  derivedMark := rules.derivedMark

/-- The predicate of a filter by the default rules, or one that accepts everything. -/
def ofFilter? : Option Filter → Predicate
  | some filter => ofFilter {} {} filter
  | none => {}

/-- The outcome for a record. -/
def accepts (predicate : Predicate) (record : Record) : Bool :=
  predicate.clauses.all (·.accepts predicate.derivedMark record) ^^ predicate.negated

@[simp] theorem accepts_default (record : Record) : ({} : Predicate).accepts record = true := rfl

/-- The outcome for an event, as a record. -/
def acceptsEvent (predicate : Predicate) (event : Event) : Bool :=
  predicate.accepts event.toRecord

end Predicate
end EventSieve
