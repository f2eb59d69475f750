/-!
# Binary floating point

Numbers of the 64-bit binary format. Every finite one is a whole multiple of the smallest,
2⁻¹⁰⁷⁴, so a finite number is kept as a sign and a count of these units; sign and count tell the
two zeros apart, and the order of numbers is the order of signed counts.

## Main definitions

* `Binary64` — a number, an infinity or the value that is no number
* `Binary64.ofRatio` — the number nearest to a quotient of naturals
* `Binary64.compare?` — the order, undefined where one side is no number
-/
namespace EventSieve.Number

/-- A binary floating-point number; a finite one counts units of 2⁻¹⁰⁷⁴. -/
inductive Binary64 where
  | nan
  | infinite (negative : Bool)
  | finite (negative : Bool) (units : Nat)
deriving DecidableEq, Repr

/-- A quotient of naturals rounded to a whole number, a half to the even neighbour. -/
def roundDiv (num den : Nat) : Nat :=
  let quotient := num / den
  let twice := 2 * (num % den)
  if twice < den then quotient
  else if den < twice then quotient + 1
  else if quotient % 2 = 0 then quotient
  else quotient + 1

namespace Binary64

/-- The units in one. -/
def one : Nat := Nat.pow 2 1074

/-- The units in the first power of two that is out of range. -/
def beyond : Nat := Nat.pow 2 2098

/-- The distance between the numbers with 53 significant bits around a count of units. -/
def spacing (units : Nat) : Nat :=
  Nat.pow 2 (units.log2 + 1 - 53)

/-- The number nearest to a quotient, counted in units. -/
def ofUnitRatio (negative : Bool) (num den : Nat) : Binary64 :=
  let step := spacing (num / den)
  let units := roundDiv num (den * step) * step
  if units < beyond then .finite negative units else .infinite negative

/-- The number nearest to a quotient of naturals. -/
def ofRatio (negative : Bool) (num den : Nat) : Binary64 :=
  ofUnitRatio negative (num * one) den

/-- The number nearest to an integer. -/
def ofInt (i : Int) : Binary64 :=
  ofRatio (decide (i < 0)) i.natAbs 1

/-- The number nearest to `digits * 10 ^ exponent`. Exponents far out of range are answered
without computing the power. -/
def ofDecimal (negative : Bool) (digits : Nat) (exponent : Int) : Binary64 :=
  let magnitude := exponent + (Nat.toDigits 10 digits).length
  if digits = 0 then .finite negative 0
  else if 400 < magnitude then .infinite negative
  else if magnitude < -400 then .finite negative 0
  else if 0 ≤ exponent then ofRatio negative (digits * Nat.pow 10 exponent.toNat) 1
  else ofRatio negative digits (Nat.pow 10 (-exponent).toNat)

/-! ## Order -/

/-- A finite count with its sign. -/
def signed (negative : Bool) (units : Nat) : Int :=
  if negative then -(units : Int) else units

/-- The place of a number on the line of signed units; the infinities stand at its ends. -/
def rank? : Binary64 → Option Int
  | nan => none
  | infinite negative => some (signed negative beyond)
  | finite negative units => some (signed negative units)

/-- The order of two numbers, undefined where one of them is no number. -/
def compare? (a b : Binary64) : Option Ordering :=
  match a.rank?, b.rank? with
  | some x, some y => some (compare x y)
  | _, _ => none

/-- Numeric equality: the zeros are equal, and what is no number equals nothing. -/
def numEq (a b : Binary64) : Bool :=
  a.compare? b == some .eq

/-! ## Arithmetic -/

/-- The product, rounded. -/
def mul : Binary64 → Binary64 → Binary64
  | finite s x, finite t y => ofUnitRatio (s ^^ t) (x * y) one
  | nan, _ | _, nan => nan
  | infinite s, infinite t => infinite (s ^^ t)
  | infinite s, finite t y => if y = 0 then nan else infinite (s ^^ t)
  | finite s x, infinite t => if x = 0 then nan else infinite (s ^^ t)

/-- The quotient, rounded. -/
def div : Binary64 → Binary64 → Binary64
  | finite s x, finite t y =>
    if y ≠ 0 then ofUnitRatio (s ^^ t) (x * one) y
    else if x = 0 then nan
    else infinite (s ^^ t)
  | nan, _ | _, nan => nan
  | infinite _, infinite _ => nan
  | infinite s, finite t _ => infinite (s ^^ t)
  | finite s _, infinite t => finite (s ^^ t) 0

/-- The number with the other sign. -/
def neg : Binary64 → Binary64
  | nan => nan
  | infinite negative => infinite (!negative)
  | finite negative units => finite (!negative) units

/-- The whole number nearest to a number, a half away from zero; the ends of the 64-bit range
stand for what lies outside, and zero for what is no number. -/
def round : Binary64 → Int
  | nan => 0
  | infinite negative => signed negative UInt64.size
  | finite negative units => signed negative ((2 * units + one) / (2 * one))

end Binary64
end EventSieve.Number
