import EventSieve.Proofs.Decimals

/-!
# Digits and powers of ten

What comes of digits before and after a point and of a power of ten that they are scaled by. There
are three ways to it: in 64-bit integers where the power reaches as far as the digits after the
point, by leaving these digits out where they are zeros and the power is one, and else by the
nearest floating-point number.

## Main definitions

* `Coercion.Sign` — what may stand before a numeral

## Main statements

* `Coercion.Sign.splitSign_chars` — a sign is split off
* `Coercion.scale?_of_reaching`, `Coercion.scale?_of_zeros`, `Coercion.scale?_of_short` — the three
  ways to scale digits
-/
namespace EventSieve

open Number (Binary64 readRadix? readInt64? narrow?)

/-- Zeros after digits multiply their number by a power of ten. -/
theorem Number.ofDigitChars_of_zeros (digits : List Char) {more : List Char}
    (zeros : more.all (· == '0') = true) : Nat.ofDigitChars 10 (digits ++ more) 0 =
      10 ^ more.length * Nat.ofDigitChars 10 digits 0 := by
  have same : more = List.replicate more.length '0' :=
    List.eq_replicate_of_mem fun c mem => beq_iff_eq.mp (List.all_eq_true.mp zeros c mem)
  rw [Nat.ofDigitChars_append, same, Nat.ofDigitChars_replicate_zero, List.length_replicate]

namespace Coercion

/-! ## Signs -/

/-- What may stand before a numeral. -/
inductive Sign where
  | absent
  | plus
  | minus
deriving DecidableEq, Repr

namespace Sign

/-- A sign as it is written. -/
def chars : Sign → List Char
  | absent => []
  | plus => ['+']
  | minus => ['-']

/-- Whether a sign makes a number negative. -/
def isMinus : Sign → Bool
  | minus => true
  | _ => false

/-- A magnitude with a sign. -/
def apply (sign : Sign) (n : Nat) : Int :=
  Binary64.signed sign.isMinus n

/-- A sign is split off what begins with no other sign. -/
theorem splitSign_chars (sign : Sign) {body : List Char}
    (noSign : ∀ c ∈ body.head?, c ∉ ['-', '+']) :
    splitSign (sign.chars ++ body) = (sign.isMinus, body) := by
  cases sign with
  | plus => rfl
  | minus => rfl
  | absent =>
    refine splitSign.eq_3 body (fun rest same => ?_) (fun rest same => ?_)
    · exact noSign '-' (by simp [same]) (by simp)
    · exact noSign '+' (by simp [same]) (by simp)

/-- A magnitude that fits 64 bits, with a sign. -/
theorem withSign_ofInt (sign : Sign) {n : Nat} (fits : (n : Int) ≤ Int64.maxValue.toInt) :
    withSign sign.isMinus (Int64.ofInt n) = Int64.ofInt (sign.apply n) := by
  rw [← Int64.ofInt_toInt (withSign sign.isMinus (Int64.ofInt n)), toInt_withSign _ fits, apply]

end Sign

/-! ## Scaling -/

/-- Zeros after the point are left out. -/
theorem scale?_of_zeros (negative : Bool) (whole : List Char) {fraction : List Char}
    (some : fraction ≠ []) (zeros : fraction.all (· == '0') = true) :
    scale? negative whole fraction 0 =
      (readInt64? whole).map fun value => .integer (withSign negative value) := by
  have digits : (whole ++ fraction).isEmpty = false := by simp [some]
  have short : ¬0 ≤ (0 : Int) - fraction.length := by
    have := List.length_pos_iff.mpr some
    omega
  rw [scale?]
  simp only [digits, short, Bool.false_eq_true, if_false, zeros, and_self, if_true]
  cases readInt64? whole <;> rfl

section
variable (negative : Bool) {whole fraction : List Char} (nonempty : whole ++ fraction ≠ [])
  (isDigit : ∀ c ∈ whole ++ fraction, c.isDigit = true)

include nonempty isDigit

/-- Digits whose last place is no smaller than one are scaled as a 64-bit integer. -/
theorem scale?_of_reaching {shift : Nat} (small : shift ≤ 18) :
    scale? negative whole fraction (fraction.length + shift) =
      (narrow? (Nat.ofDigitChars 10 (whole ++ fraction) 0 * 10 ^ shift : Nat)).map fun value =>
        .integer (withSign negative value) := by
  have max : Int64.maxValue.toInt = 2 ^ 63 - 1 := rfl
  have min : Int64.minValue.toInt = -2 ^ 63 := rfl
  have digits : (whole ++ fraction).isEmpty = false := List.isEmpty_eq_false_iff.mpr nonempty
  have reaching : (fraction.length + shift : Int) - fraction.length = shift := by omega
  have bound : 10 ^ shift ≤ 10 ^ 18 := Nat.pow_le_pow_right (by decide) small
  have positive : 0 < 10 ^ shift := Nat.pow_pos (by decide)
  have power : narrow? (Nat.pow 10 shift) = some (Int64.ofInt (10 ^ shift : Nat)) :=
    Number.narrow?_of_fits (i := (10 ^ shift : Nat)) (by omega) (by omega)
  have power_toInt : (Int64.ofInt (10 ^ shift : Nat)).toInt = (10 ^ shift : Nat) :=
    Int64.toInt_ofInt_of_le (by omega) (by omega)
  have read : readInt64? (whole ++ fraction) = _ := Number.readInt64?_digits nonempty isDigit
  generalize Nat.ofDigitChars 10 (whole ++ fraction) 0 = n at read ⊢
  rw [scale?]
  simp only [digits, reaching, Bool.false_eq_true, if_false, Int.natCast_nonneg, if_true,
    Int.toNat_natCast, power, read]
  by_cases fits : (n : Int) ≤ Int64.maxValue.toInt
  · have base_toInt : (Int64.ofInt n).toInt = n := Int64.toInt_ofInt_of_le (by omega) (by omega)
    rw [Number.narrow?_of_fits (by omega) fits]
    simp only [Option.bind_eq_bind, Option.bind_some, base_toInt, power_toInt, Int.natCast_mul]
    cases narrow? (n * (10 ^ shift : Nat)) <;> rfl
  · have beyond : ¬((n * 10 ^ shift : Nat) : Int) ≤ Int64.maxValue.toInt := by
      have grows : n ≤ n * 10 ^ shift := Nat.le_mul_of_pos_right n positive
      omega
    rw [narrow?, if_neg fun range => fits range.2, narrow?, if_neg fun range => beyond range.2]
    rfl

/-- Other digits are scaled in floating point. -/
theorem scale?_of_short {exponent : Int} (short : exponent < fraction.length)
    (notZeros : ¬(exponent = 0 ∧ fraction.all (· == '0') = true)) :
    scale? negative whole fraction exponent = some (Number.normalized
      (.ofDecimal negative (Nat.ofDigitChars 10 (whole ++ fraction) 0)
        (exponent - fraction.length))) := by
  have digits : (whole ++ fraction).isEmpty = false := List.isEmpty_eq_false_iff.mpr nonempty
  have negativeShift : ¬0 ≤ exponent - fraction.length := by omega
  rw [scale?]
  simp only [digits, negativeShift, Bool.false_eq_true, if_false, notZeros,
    Number.readRadix?_digits nonempty isDigit]
  rfl

end

end Coercion

end EventSieve
