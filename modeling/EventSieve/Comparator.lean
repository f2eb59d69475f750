import EventSieve.Operator

/-!
# Comparators

An operator bound to a prepared value. It is tested against all values that a field has: one
that satisfies it is enough, and the negation applies to the outcome of all.

## Main definitions

* `Comparator` — an operator with its prepared value and its flags
* `Comparator.bind` — the comparator of an operator and a text
* `Comparator.testAny` — the outcome for some values
-/
namespace EventSieve

/-- An operator with its prepared value and its flags. -/
structure Comparator where
  operator : Operator
  prepared : Prepared
  ignoreCase : Bool
  negated : Bool
  coercion : Coercion
deriving Repr

namespace Comparator

/-- The comparator of an operator and a text. Inequality is negated equality, so that no value
may be equal. -/
def bind (operator : Operator) (raw : Option String) (coercion : Coercion)
    (ignoreCase negated : Bool) : Comparator :=
  let prepared := coercion.prepare (raw.getD "") (operator == .matches)
  if operator = .notEquals then ⟨.equals, prepared, ignoreCase, !negated, coercion⟩
  else ⟨operator, prepared, ignoreCase, negated, coercion⟩

/-- Whether a value satisfies the operator, before negation. -/
def accepts (comparator : Comparator) (value : Value) : Bool :=
  comparator.operator.holds value comparator.prepared comparator.ignoreCase comparator.coercion

/-- Whether some value satisfies the operator, negated if the comparator is. -/
def testAny (comparator : Comparator) (values : List Value) : Bool :=
  values.any comparator.accepts ^^ comparator.negated

/-- The outcome for a value, or for a field that has none. -/
def test (comparator : Comparator) (value : Option Value) : Bool :=
  comparator.testAny value.toList

end Comparator
end EventSieve
