import EventSieve.Number.Binary64
import EventSieve.Number.Digits
import EventSieve.Number.Layout

/-!
# Numbers

What a text coerces to: a 64-bit integer or a floating-point number. Two integers compare as
integers, everything else as floating-point numbers.

## Main definitions

* `Number` — an integer or a floating-point number
* `Number.compare?`, `Number.numEq` — the order of numbers and its equality
* `Number.normalized` — a whole floating-point number as an integer
-/
namespace EventSieve

open Number (Binary64)

/-- An integer or a floating-point number. -/
inductive Number where
  | integer (value : Int64)
  | float (value : Binary64)
deriving DecidableEq, Repr

namespace Number

/-- The number in floating point, the nearest where it is an integer out of reach. -/
def toBinary64 : Number → Binary64
  | integer value => .ofInt value.toInt
  | float value => value

/-- The integer, if the number is one. -/
def toInt64? : Number → Option Int64
  | integer value => some value
  | float _ => none

/-- The order of two numbers: exact between integers, else that of floating point. -/
def compare? : Number → Number → Option Ordering
  | integer a, integer b => some (compare a.toInt b.toInt)
  | a, b => a.toBinary64.compare? b.toBinary64

/-- Whether two numbers are equal in their order. -/
def numEq (a b : Number) : Bool :=
  a.compare? b == some .eq

/-- Whether two numbers have the same form and are equal in it. -/
def same : Number → Number → Bool
  | integer a, integer b => a == b
  | float a, float b => a.numEq b
  | _, _ => false

/-- A whole floating-point number below 2⁶³ as an integer. -/
def normalized : Binary64 → Number
  | .finite negative units =>
    if units % Binary64.one = 0 ∧ units < Nat.pow 2 63 * Binary64.one then
      integer (Int64.ofInt (Binary64.signed negative (units / Binary64.one)))
    else float (.finite negative units)
  | value => float value

/-- The text of a number. -/
def text : Number → String
  | integer value => intText value.toInt
  | float value => value.plainText

end Number
end EventSieve
