import EventSieve.Coercion.Basic
import EventSieve.Text.Lowercase

/-!
# Operators

The seven operators of filters and what they say about a value. Equality is lenient: values are
equal to a text if they have its text or its number. A match is found anywhere in the text of a
value. The order is that of numbers where both sides have one, else that of texts.

## Main definitions

* `Operator` — the operators, with their tokens
* `Operator.holds` — whether a value satisfies an operator
* `valuesEqual`, `matchesPattern`, `containsText`, `compareValues` — the rules of the operators
-/
namespace EventSieve

/-- The operators of filters. -/
inductive Operator where
  | equals | notEquals | «matches» | contains | present | greaterThan | lessThan
deriving DecidableEq, Repr

namespace Operator

/-- The token of an operator in a filter. -/
def token : Operator → String
  | equals => "=="
  | notEquals => "!="
  | «matches» => "matches"
  | contains => "contains"
  | present => "present"
  | greaterThan => ">"
  | lessThan => "<"

/-- The operator with a token. -/
def ofToken? (token : String) : Option Operator :=
  if token = "==" then some equals
  else if token = "!=" then some notEquals
  else if token = "matches" then some «matches»
  else if token = "contains" then some contains
  else if token = "present" then some present
  else if token = ">" then some greaterThan
  else if token = "<" then some lessThan
  else none

@[simp] theorem ofToken?_token (operator : Operator) : ofToken? operator.token = some operator := by
  cases operator <;> decide

/-- Whether a value stands after an operator. -/
def takesValue : Operator → Bool
  | present => false
  | _ => true

/-- The order that an operator asks for. -/
def target? : Operator → Option Ordering
  | greaterThan => some .gt
  | lessThan => some .lt
  | _ => none

end Operator

/-- Whether a text occurs in another. -/
def occursIn (part : List Char) : List Char → Bool
  | [] => part.isEmpty
  | c :: rest => part.isPrefixOf (c :: rest) || occursIn part rest

/-- Whether two texts are equal, or equal in lower case. -/
def sameText (ignoreCase : Bool) (one other : String) : Bool :=
  if ignoreCase then Text.lowercase one == Text.lowercase other else one == other

/-- Whether a value is equal to a prepared one in form and content. -/
def sameForm : Value → Prepared → Bool
  | .string text, .plain raw => text == raw
  | .integer value, .number _ number => number.toInt64? == some value
  | .float value, .number _ number => number.toBinary64.numEq value
  | _, _ => false

/-- Lenient equality: the same form, or the same text, or the same number. -/
def valuesEqual (value : Value) (prepared : Prepared) (ignoreCase : Bool)
    (coercion : Coercion) : Bool :=
  sameForm value prepared || sameText ignoreCase value.text prepared.text ||
    match coercion.numberOf? value, prepared.number? with
    | some a, some b => a.numEq b
    | _, _ => false

/-- Whether a value has the number of the prepared one, or else its text matches the pattern.
Without a pattern this is equality. -/
def matchesPattern (value : Value) (prepared : Prepared) (coercion : Coercion) : Bool :=
  (match prepared.number?, coercion.numberOf? value with
    | some expected, some actual => actual.numEq expected
    | _, _ => false) ||
  match prepared.pattern? with
  | some pattern => pattern.isFoundIn value.text
  | none => valuesEqual value prepared false coercion

/-- Whether the text of a value contains another. -/
def containsText (value : Value) (part : String) (ignoreCase : Bool) : Bool :=
  if ignoreCase then occursIn (Text.lowercase part).toList (Text.lowercase value.text).toList
  else occursIn part.toList value.text.toList

/-- The order of the text of a value and another, by code points. -/
def compareText (value : Value) (raw : String) : Ordering :=
  compare value.text raw

/-- The order of numbers where both sides have one, else the order of texts. -/
def compareValues? (value : Value) (prepared : Prepared) (coercion : Coercion) :
    Option Ordering :=
  match coercion.numberOf? value, prepared.number? with
  | some a, some b => a.compare? b
  | _, _ => some (compareText value prepared.text)

/-- The order of the instant of a value and another; none if the value has no instant. -/
def compareInstants? (value : Value) (expected : Int64) (coercion : Coercion) :
    Option Ordering :=
  (coercion.instantOf? value).map fun actual => compare actual.toInt expected.toInt

/-- Whether a value satisfies an operator. -/
def Operator.holds (operator : Operator) (value : Value) (prepared : Prepared)
    (ignoreCase : Bool) (coercion : Coercion) : Bool :=
  match operator with
  | equals => valuesEqual value prepared ignoreCase coercion
  | notEquals => !valuesEqual value prepared ignoreCase coercion
  | «matches» => matchesPattern value prepared coercion
  | contains => containsText value prepared.text ignoreCase
  | present => true
  | greaterThan => compareValues? value prepared coercion == some .gt
  | lessThan => compareValues? value prepared coercion == some .lt

end EventSieve
