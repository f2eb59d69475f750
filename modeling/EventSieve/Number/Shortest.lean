import EventSieve.Number.Binary64

/-!
# Shortest decimal digits

The fewest decimal digits that read back as the same binary number, and of those the ones
nearest to it.

A number is the nearest one to every real of an interval around it. For one digit, two digits
and so on, the two neighbours of the number on that decimal grid are tried; the first grid with
a neighbour inside the interval gives the digits.

## Main definitions

* `shortest` — the digits and the exponent of a positive number
-/
namespace EventSieve.Number.Binary64

/-- Whether a power of ten, times the denominator, is at most the numerator. -/
def reaches (num den : Nat) (exponent : Int) : Bool :=
  if 0 ≤ exponent then den * Nat.pow 10 exponent.toNat ≤ num
  else den ≤ num * Nat.pow 10 (-exponent).toNat

/-- The largest of some exponents, from `start` up, whose power of ten is at most `num / den`. -/
def climb (num den : Nat) (start : Int) : Nat → Int
  | 0 => start
  | fuel + 1 => if reaches num den (start + 1) then climb num den (start + 1) fuel else start

/-- The exponent of the first decimal digit of a positive count of units. -/
def decimalExponent (units : Nat) : Int :=
  let binary : Int := (units.log2 : Int) - 1074
  climb units one (binary * 30103 / 100000 - 1) 4

/-- The neighbours of a number on the grid of multiples of `10 ^ exponent` that round to it, the
nearer first. All is counted in quarters of a unit. -/
def onGrid (units : Nat) (exponent : Int) : Option Nat :=
  let step := spacing units
  let stepBelow := if 1 < step ∧ units = Nat.pow 2 units.log2 then step / 2 else step
  let raise := if 0 ≤ exponent then 1 else Nat.pow 10 (-exponent).toNat
  let den := if 0 ≤ exponent then one * Nat.pow 10 exponent.toNat else one
  let num := units * raise
  let low := (4 * units - 2 * stepBelow) * raise
  let high := (4 * units + 2 * step) * raise
  let even := units / step % 2 == 0
  let inside (n : Nat) : Bool :=
    let place := 4 * n * den
    if even then low ≤ place && place ≤ high else low < place && place < high
  let below := num / den
  let twice := 2 * (num % den)
  match inside below && below != 0, inside (below + 1) with
  | true, true =>
    if twice < den then some below
    else if den < twice then some (below + 1)
    else if below % 2 = 0 then some below
    else some (below + 1)
  | true, false => some below
  | false, true => some (below + 1)
  | false, false => none

/-- Takes zeros off the end of some digits. -/
def dropZeros (digits : Nat) (exponent : Int) : Nat → Nat × Int
  | 0 => (digits, exponent)
  | fuel + 1 =>
    if digits % 10 = 0 then dropZeros (digits / 10) (exponent + 1) fuel else (digits, exponent)

/-- The first grid, from the coarsest on, that has a neighbour of the number. -/
def firstGrid (units : Nat) (exponent : Int) : Nat → Nat × Int
  | 0 => (0, 0)
  | fuel + 1 =>
    match onGrid units exponent with
    | some digits => dropZeros digits exponent 20
    | none => firstGrid units (exponent - 1) fuel

/-- The shortest digits of a positive number, as a whole number and a power of ten. -/
def shortest (units : Nat) : Nat × Int :=
  firstGrid units (decimalExponent units) 18

end EventSieve.Number.Binary64
