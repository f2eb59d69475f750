import EventSieve.Json.Basic
import EventSieve.Number.Read

/-!
# Numbers in JSON

The numbers of strict JSON. A whole number that fits 64 bits stays whole. Any other number is
read in two steps: the leading digits as a whole number of 64 bits, and then a product or a
quotient with a power of ten, each rounded by itself.

## Main definitions

* `Json.Numeral` — the parts of a number
* `Json.takeNumber?` — the number at the start of a text, and the rest
-/
namespace EventSieve.Json

open Number (Binary64)

/-- The largest power of ten that is multiplied at once. -/
def largestPower : Nat := 308

/-- A power of ten as a floating-point number. -/
def powerOfTen (exponent : Nat) : Binary64 :=
  .ofDecimal false 1 exponent

/-- A number times a power of ten, in as many steps as the powers need; none if it is out of
range. -/
def scaleFloat? : Nat → Binary64 → Int → Option Binary64
  | 0, _, _ => none
  | fuel + 1, x, exponent =>
    if exponent.natAbs ≤ largestPower then
      if 0 ≤ exponent then
        match x.mul (powerOfTen exponent.natAbs) with
        | .finite negative units => some (.finite negative units)
        | _ => none
      else some (x.div (powerOfTen exponent.natAbs))
    else if x = .finite false 0 then some x
    else if 0 ≤ exponent then none
    else scaleFloat? fuel (x.div (powerOfTen largestPower)) (exponent + largestPower)

/-- The digits that fit a 64-bit number without a sign, and how many do not. Once a digit does
not fit, no later one counts. -/
def fittingDigits (significand : Nat) : List Char → Nat × Nat
  | [] => (significand, 0)
  | c :: rest =>
    let more := significand * 10 + (c.toNat - 48)
    if more < UInt64.size then fittingDigits more rest else (significand, rest.length + 1)

/-- The exponents above which a number other than zero is out of range. -/
def exponentBound : Nat := Nat.pow 2 31

/-- The floating-point number of some digits before and after the point and an exponent. -/
def floatOf? (negative : Bool) (whole fraction : List Char) (exponent : Int) :
    Option Binary64 := do
  let (leading, dropped) := fittingDigits 0 whole
  let (significand, ignored) := fittingDigits leading fraction
  let shift : Int := dropped - (fraction.length - ignored : Nat)
  let value ←
    if exponent.natAbs < exponentBound then
      scaleFloat? 20 (.ofInt significand) (exponent + shift)
    else if 0 < exponent ∧ significand ≠ 0 then none
    else some (.finite false 0)
  return if negative then value.neg else value

/-- The digits of an exponent with an optional sign, and the rest. -/
def takeExponent? (cs : List Char) : Option (Int × List Char) :=
  let signed (negative : Bool) (cs : List Char) : Option (Int × List Char) :=
    (Number.readRadix? 10 (cs.takeWhile Char.isDigit)).map fun n =>
      (if negative then -(n : Int) else n, cs.dropWhile Char.isDigit)
  match cs with
  | '-' :: rest => signed true rest
  | '+' :: rest => signed false rest
  | _ => signed false cs

/-- The digits of a whole number, which has no zero before others, and the rest. -/
def takeWhole? (cs : List Char) : Option (List Char × List Char) :=
  let digits := cs.takeWhile Char.isDigit
  match digits with
  | [] => none
  | '0' :: _ :: _ => none
  | _ => some (digits, cs.dropWhile Char.isDigit)

/-- A whole number; minus zero and what does not fit 64 bits are floating-point numbers. -/
def wholeNumber? (negative : Bool) (digits : List Char) : Option Json := do
  let magnitude ← Number.readRadix? 10 digits
  if !negative && magnitude < UInt64.size then return integer magnitude
  else if negative && 0 < magnitude && magnitude ≤ Nat.pow 2 63 then return integer (-magnitude)
  else (floatOf? negative digits [] 0).map float

/-- The fraction after a point, if there is a point, and the rest. -/
def takeFraction? (cs : List Char) : Option (List Char × List Char) :=
  match cs with
  | '.' :: more =>
    let digits := more.takeWhile Char.isDigit
    if digits.isEmpty then none else some (digits, more.dropWhile Char.isDigit)
  | _ => some ([], cs)

/-- The number without a sign at the start of a text, and the rest. -/
def takeUnsigned? (negative : Bool) (cs : List Char) : Option (Json × List Char) := do
  let (whole, afterWhole) ← takeWhole? cs
  let (fraction, rest) ← takeFraction? afterWhole
  match rest with
  | c :: more =>
    if c = 'e' ∨ c = 'E' then
      let (exponent, rest) ← takeExponent? more
      return (float (← floatOf? negative whole fraction exponent), rest)
    else if fraction.isEmpty then return (← wholeNumber? negative whole, rest)
    else return (float (← floatOf? negative whole fraction 0), rest)
  | [] =>
    if fraction.isEmpty then return (← wholeNumber? negative whole, rest)
    else return (float (← floatOf? negative whole fraction 0), rest)

/-- The number at the start of a text, and the rest. -/
def takeNumber? : List Char → Option (Json × List Char)
  | '-' :: rest => takeUnsigned? true rest
  | cs => takeUnsigned? false cs

end EventSieve.Json
