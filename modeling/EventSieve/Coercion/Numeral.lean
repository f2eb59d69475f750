import EventSieve.Number.Basic

/-!
# Numerals

The ways to write a number in a filter: integers in three bases, decimal numbers with grouped
digits, and decimal numbers with a unit. Each reader takes a whole text or nothing. Results are
exact while they are whole, and what does not fit 64 bits is no number.

## Main definitions

* `integerLiteral?` — `42`, `0x2A`, `#2a`, `052`
* `groupedDecimal?` — `1,234.5`
* `unitScaled?` — `2k`, `20m`
* `duration?` — `200ms`, in nanoseconds
-/
namespace EventSieve.Coercion

open Number (Binary64 readRadix? readInt64? narrow?)

/-- Whether a text begins with a minus sign, and the text without a sign. -/
def splitSign : List Char → Bool × List Char
  | '-' :: rest => (true, rest)
  | '+' :: rest => (false, rest)
  | cs => (false, cs)

/-- The text before and after the first of a character. -/
def splitFirst (mark : Char) (cs : List Char) : List Char × List Char :=
  (cs.takeWhile (· != mark), (cs.dropWhile (· != mark)).drop 1)

/-- An integer with the sign that was read before it. The number is never negative, so this is
no overflow. -/
def withSign (negative : Bool) (value : Int64) : Int64 :=
  if negative then -value else value

/-- The digits of an integer and their base: hexadecimal after `0x`, `0X` or `#`, octal after a
zero, else decimal. -/
def integerDigits : List Char → Nat × List Char
  | '0' :: 'x' :: digits | '0' :: 'X' :: digits | '#' :: digits => (16, digits)
  | '0' :: c :: digits => (8, c :: digits)
  | digits => (10, digits)

/-- A decimal, hexadecimal or octal integer. -/
def integerLiteral? (raw : List Char) : Option Number := do
  let (negative, body) := splitSign raw
  let (radix, digits) := integerDigits body
  let value ← narrow? (← readRadix? radix digits)
  return .integer (withSign negative value)

/-- The number with `whole` before and `fraction` after the point, times a power of ten. -/
def scale? (negative : Bool) (whole fraction : List Char) (exponent : Int) : Option Number := do
  let digits := whole ++ fraction
  let shift := exponent - fraction.length
  if digits.isEmpty then none
  else if 0 ≤ shift then
    let base ← readInt64? digits
    let power ← narrow? (Nat.pow 10 shift.toNat)
    let value ← narrow? (base.toInt * power.toInt)
    return .integer (withSign negative value)
  else if exponent = 0 ∧ fraction.all (· == '0') then
    return .integer (withSign negative (← readInt64? whole))
  else
    return Number.normalized (.ofDecimal negative (← readRadix? 10 digits) shift)

/-! ## Grouped digits -/

/-- The parts of a text between the occurrences of a character. -/
def splitAll (mark : Char) : List Char → List (List Char)
  | [] => [[]]
  | c :: rest =>
    match splitAll mark rest with
    | [] => [[c]]
    | part :: later => if c = mark then [] :: part :: later else (c :: part) :: later

/-- The digits of a whole number, which may be grouped by threes. -/
def wholeDigits? (grouping : Char) (cs : List Char) : Option (List Char) :=
  if cs.contains grouping then
    let groups := splitAll grouping cs
    let isWell (place : Nat) (group : List Char) : Bool :=
      (if place = 0 then 1 ≤ group.length && group.length ≤ 3 else group.length == 3) &&
        group.all Char.isDigit
    if (groups.mapIdx isWell).all id then some groups.flatten else none
  else if cs.all Char.isDigit then some cs
  else none

/-- A decimal number; the digits before the separator may be grouped. -/
def groupedDecimal? (grouping decimal : Char) (raw : List Char) : Option Number := do
  let (negative, body) := splitSign raw
  let (whole, fraction) := splitFirst decimal body
  if whole.isEmpty && fraction.isEmpty then none
  else if fraction.all Char.isDigit then
    let digits ← wholeDigits? grouping whole
    scale? negative (if digits.isEmpty then ['0'] else digits) fraction 0
  else none

/-! ## Units -/

/-- The powers of ten of the units of amounts. -/
def amountUnits : List (List Char × Int) :=
  [(['k'], 3), (['M'], 6), (['G'], 9), (['T'], 12), (['P'], 15), (['m'], -3), (['u'], -6),
   (['µ'], -6), (['n'], -9), (['p'], -12)]

/-- The powers of ten of the units of time, in nanoseconds. -/
def timeUnits : List (List Char × Int) :=
  [(['s'], 9), (['m', 's'], 6), (['u', 's'], 3), (['µ', 's'], 3), (['n', 's'], 0)]

/-- The digits before and after the point of a decimal number at the start of a text, and the
rest. One of them may be missing. -/
def takeDecimal? (cs : List Char) : Option (List Char × List Char × List Char) :=
  let whole := cs.takeWhile Char.isDigit
  match cs.dropWhile Char.isDigit with
  | '.' :: more =>
    let fraction := more.takeWhile Char.isDigit
    if whole.isEmpty && fraction.isEmpty then none
    else some (whole, fraction, more.dropWhile Char.isDigit)
  | rest => if whole.isEmpty then none else some (whole, [], rest)

/-- A decimal number with a unit after it; a blank may stand between. -/
def withUnit? (units : List (List Char × Int)) (raw : List Char) : Option Number := do
  let (negative, body) := splitSign raw
  let (whole, fraction, rest) ← takeDecimal? body
  let name :=
    match rest with
    | ' ' :: more => more
    | _ => rest
  scale? negative whole fraction (← units.lookup name)

/-- A decimal number with a unit of amounts. -/
def unitScaled? (raw : List Char) : Option Number :=
  withUnit? amountUnits raw

/-- A decimal number with a unit of time, in whole nanoseconds. -/
def duration? (raw : List Char) : Option Number :=
  (withUnit? timeUnits raw).map fun
    | .float ticks => .integer (Number.clamp ticks.round)
    | number => number

end EventSieve.Coercion
