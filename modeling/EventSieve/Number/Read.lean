import EventSieve.Number.Binary64
import EventSieve.Number.Digits

/-!
# Reading floating-point numbers

Decimal numbers with an optional fraction and exponent, and the names of the special values.

## Main definitions

* `Binary64.read?` — the number that a text stands for
-/
namespace EventSieve.Number.Binary64

/-- A run of digits with an optional minus or plus sign before it. -/
def readExponent? : List Char → Option Int
  | '-' :: digits => (readRadix? 10 digits).map fun n => -(n : Int)
  | '+' :: digits => (readRadix? 10 digits).map fun n => (n : Int)
  | digits => (readRadix? 10 digits).map fun n => (n : Int)

/-- A decimal number without a sign: digits with at most one point among or beside them, and an
exponent after an `e`. -/
def readUnsigned? (negative : Bool) (cs : List Char) : Option Binary64 := do
  let whole := cs.takeWhile Char.isDigit
  let afterWhole := cs.dropWhile Char.isDigit
  let (fraction, rest) :=
    match afterWhole with
    | '.' :: more => (more.takeWhile Char.isDigit, more.dropWhile Char.isDigit)
    | more => ([], more)
  let digits ← readRadix? 10 (whole ++ fraction)
  let exponent ←
    match rest with
    | [] => some 0
    | c :: more => if c = 'e' ∨ c = 'E' then readExponent? more else none
  return ofDecimal negative digits (exponent - fraction.length)

/-- A number without a sign, or the name of a special value in any case. -/
def readMagnitude? (negative : Bool) (cs : List Char) : Option Binary64 :=
  let small := String.ofList (cs.map Char.toLower)
  if small = "inf" ∨ small = "infinity" then some (.infinite negative)
  else if small = "nan" then some .nan
  else readUnsigned? negative cs

/-- The number that a text stands for. -/
def read? (text : String) : Option Binary64 :=
  match text.toList with
  | '-' :: rest => readMagnitude? true rest
  | '+' :: rest => readMagnitude? false rest
  | cs => readMagnitude? false cs

end EventSieve.Number.Binary64
