import EventSieve.Instant.Rfc3339
import EventSieve.Number.Basic

/-!
# Values

The values of record entries and of the fields of trace events. Integers and floating-point
numbers stay apart; a timestamp counts the nanoseconds from the start of 1970.

## Main definitions

* `Value` — a value
* `Value.text` — its text, which texts are compared with
* `Value.same` — whether two values are equal in form and content
-/
namespace EventSieve

open Number (Binary64)

/-- A value of an entry or a field. -/
inductive Value where
  | integer (value : Int64)
  | float (value : Binary64)
  | boolean (value : Bool)
  | timestamp (nanos : Int64)
  | string (text : String)
deriving DecidableEq, Repr

namespace Value

/-- The text of a value; that of a timestamp is in RFC 3339 form. -/
def text : Value → String
  | integer value => Number.intText value.toInt
  | float value => value.plainText
  | boolean value => if value then "true" else "false"
  | timestamp nanos => Instant.timestampText nanos.toInt
  | string text => text

/-- The text of a string. -/
def string? : Value → Option String
  | string text => some text
  | _ => none

/-- The value of a number. -/
def ofNumber : Number → Value
  | .integer value => integer value
  | .float value => float value

/-- Whether two values are equal in form and content; what is no number equals nothing, and the
zeros are equal. -/
def same : Value → Value → Bool
  | float a, float b => a.numEq b
  | a, b => a == b

end Value
end EventSieve
