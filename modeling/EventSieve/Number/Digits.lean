/-!
# Whole numbers as digits

Whole numbers are written in decimal and read in any base up to sixteen. A value that has to
fit a 64-bit integer is checked, never wrapped.

## Main definitions

* `intChars` — the decimal digits of an integer, with a minus sign where it is negative
* `readRadix?` — the number that some digits stand for in a base
* `narrow?` — the 64-bit integer of an integer, if it is in range
-/
namespace EventSieve.Number

/-- The decimal digits of an integer, with a minus sign where it is negative. -/
def intChars (i : Int) : List Char :=
  if i < 0 then '-' :: Nat.toDigits 10 i.natAbs else Nat.toDigits 10 i.natAbs

/-- An integer in decimal. -/
def intText (i : Int) : String :=
  String.ofList (intChars i)

/-- The value of a hexadecimal digit in either case. -/
def digitValue? (c : Char) : Option Nat :=
  if c.isDigit then some (c.toNat - 48)
  else if 'a' ≤ c ∧ c ≤ 'f' then some (c.toNat - 87)
  else if 'A' ≤ c ∧ c ≤ 'F' then some (c.toNat - 55)
  else none

/-- The number that some digits stand for in a base, after digits that stand for `value`. -/
def readRadixFrom? (radix value : Nat) : List Char → Option Nat
  | [] => some value
  | c :: rest =>
    match digitValue? c with
    | none => none
    | some digit =>
      if digit < radix then readRadixFrom? radix (value * radix + digit) rest else none

/-- The number that some digits stand for in a base; no digits stand for none. -/
def readRadix? (radix : Nat) : List Char → Option Nat
  | [] => none
  | digits => readRadixFrom? radix 0 digits

/-- The 64-bit integer of an integer, if it is in range. -/
def narrow? (i : Int) : Option Int64 :=
  if Int64.minValue.toInt ≤ i ∧ i ≤ Int64.maxValue.toInt then some (Int64.ofInt i) else none

/-- The 64-bit integer that decimal digits stand for, if it is in range. -/
def readInt64? (digits : List Char) : Option Int64 := do
  let value ← readRadix? 10 digits
  narrow? value

/-- An integer brought into the 64-bit range by taking the nearest end. -/
def clamp (i : Int) : Int64 :=
  if i < Int64.minValue.toInt then Int64.minValue
  else if Int64.maxValue.toInt < i then Int64.maxValue
  else Int64.ofInt i

theorem toInt_of_narrow? {i : Int} {w : Int64} (h : narrow? i = some w) : w.toInt = i := by
  unfold narrow? at h
  split at h
  · next range =>
    cases h
    exact Int64.toInt_ofInt_of_le range.1 (Int.lt_of_le_sub_one range.2)
  · cases h

end EventSieve.Number
