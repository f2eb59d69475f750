import EventSieve.Proofs.PlainTexts

/-!
# Decimal numbers in floating point

What decimal digits with a power of ten are read as depends only on the number that they stand for.
It is the number itself where the format has it, and it is not below a power of two where the number
is not.

## Main statements

* `Binary64.ofDecimal_congr` — digits that stand for the same number are read alike
* `Binary64.ofDecimal_of_whole` — a whole number of the format is read as itself
* `Binary64.le_of_ofDecimal` — what is read does not fall below a power of two
* `Number.normalized_eq_integer` — which numbers become integers
-/
namespace EventSieve

namespace Number

/-- A quotient is rounded the same when both sides are multiplied. -/
theorem roundDiv_mul (num den : Nat) {factor : Nat} (positive : 0 < factor) :
    roundDiv (num * factor) (den * factor) = roundDiv num den := by
  have less (a b : Nat) : 2 * (a * factor) < b * factor ↔ 2 * a < b := by
    rw [← Nat.mul_assoc]
    exact Nat.mul_lt_mul_right positive
  have more (a b : Nat) : b * factor < 2 * (a * factor) ↔ b < 2 * a := by
    rw [← Nat.mul_assoc]
    exact Nat.mul_lt_mul_right positive
  rw [roundDiv, roundDiv, Nat.mul_div_mul_right _ _ positive, Nat.mul_mod_mul_right]
  simp only [less, more]

/-- A quotient is not rounded below the whole number that it reaches. -/
theorem div_le_roundDiv (num den : Nat) : num / den ≤ roundDiv num den := by
  rw [roundDiv]
  split
  · exact Nat.le_refl _
  · split
    · exact Nat.le_succ _
    · split
      · exact Nat.le_refl _
      · exact Nat.le_succ _

namespace Binary64

variable {negative : Bool} {digits num den : Nat} {exponent : Int}

theorem ofUnitRatio_mul {factor : Nat} (positive : 0 < factor) :
    ofUnitRatio negative (num * factor) (den * factor) = ofUnitRatio negative num den := by
  rw [ofUnitRatio, ofUnitRatio, Nat.mul_div_mul_right _ _ positive, Nat.mul_right_comm,
    roundDiv_mul _ _ positive]

/-- A quotient is rounded alike whatever it is the quotient of. -/
theorem ofUnitRatio_congr {num' den' : Nat} (positive : 0 < den) (positive' : 0 < den')
    (same : num * den' = num' * den) :
    ofUnitRatio negative num den = ofUnitRatio negative num' den' := by
  rw [← ofUnitRatio_mul positive', same, Nat.mul_comm den, ofUnitRatio_mul positive]

/-! ## Digits that stand for the same number -/

/-- Zeros after the digits make up for a lower exponent. -/
theorem ofDecimal_shift (negative : Bool) (digits : Nat) (exponent : Int) (zeros : Nat) :
    ofDecimal negative (digits * 10 ^ zeros) (exponent - zeros) =
      ofDecimal negative digits exponent := by
  by_cases zero : digits = 0
  · rw [ofDecimal, ofDecimal, if_pos zero, if_pos (by rw [zero, Nat.zero_mul])]
  have nonzero : digits * 10 ^ zeros ≠ 0 := Nat.mul_ne_zero zero (Nat.pow_pos (by decide)).ne'
  have magnitude : exponent - zeros + (Nat.toDigits 10 (digits * 10 ^ zeros)).length =
      exponent + (Nat.toDigits 10 digits).length := by
    rw [toDigits_mul_pow (Nat.pos_of_ne_zero zero), List.length_append, List.length_replicate]
    omega
  by_cases high : exponent + (Nat.toDigits 10 digits).length ≤ 400
  · by_cases low : -400 ≤ exponent + (Nat.toDigits 10 digits).length
    · rw [ofDecimal_eq zero high low, ofDecimal_eq nonzero (magnitude ▸ high) (magnitude ▸ low)]
      refine ofUnitRatio_congr (raise_pos _) (raise_pos _) ?_
      have power : (10 : ℚ) ^ exponent = 10 ^ zeros * 10 ^ (exponent - zeros) := by
        rw [← zpow_natCast, ← zpow_add₀ (by norm_num)]
        congr 1
        omega
      have cast : (digits * 10 ^ zeros * unitsOf (exponent - zeros) * raise exponent : ℚ) =
          digits * unitsOf exponent * raise (exponent - zeros) := by
        rw [unitsOf_eq, unitsOf_eq, power]
        ring
      exact_mod_cast cast
    · rw [ofDecimal, ofDecimal]
      simp only [if_neg zero, if_neg nonzero, magnitude, if_neg (Int.not_lt.mpr high),
        if_pos (Int.not_le.mp low)]
  · rw [ofDecimal, ofDecimal]
    simp only [if_neg zero, if_neg nonzero, magnitude, if_pos (Int.not_le.mp high)]

/-- Digits are read alike if they stand for the same number. -/
theorem ofDecimal_congr (negative : Bool) {digits' : Nat} {exponent' : Int}
    (same : (digits * 10 ^ exponent : ℚ) = digits' * 10 ^ exponent') :
    ofDecimal negative digits exponent = ofDecimal negative digits' exponent' := by
  have shifted {digits digits' : Nat} {exponent exponent' : Int} (le : exponent' ≤ exponent)
      (same : (digits * 10 ^ exponent : ℚ) = digits' * 10 ^ exponent') :
      ofDecimal negative digits exponent = ofDecimal negative digits' exponent' := by
    obtain ⟨zeros, gap⟩ := Int.eq_ofNat_of_zero_le (Int.sub_nonneg.mpr le)
    have lower : exponent' = exponent - zeros := by omega
    have more : digits' = digits * 10 ^ zeros := by
      have power : (10 : ℚ) ^ exponent = 10 ^ zeros * 10 ^ exponent' := by
        rw [← zpow_natCast, ← zpow_add₀ (by norm_num)]
        congr 1
        omega
      have nonzero : (10 : ℚ) ^ exponent' ≠ 0 := by positivity
      rw [power, ← mul_assoc] at same
      have cast := mul_right_cancel₀ nonzero same
      exact_mod_cast cast.symm
    rw [more, lower, ofDecimal_shift]
  rcases Int.le_total exponent' exponent with le | le
  · exact shifted le same
  · exact (shifted le same.symm).symm

/-! ## What is read from digits -/

theorem ofUnitRatio_ne_nan (negative : Bool) (num den : Nat) :
    ofUnitRatio negative num den ≠ .nan := by
  rw [ofUnitRatio]
  split <;> exact Binary64.noConfusion

theorem ofDecimal_ne_nan (negative : Bool) (digits : Nat) (exponent : Int) :
    ofDecimal negative digits exponent ≠ .nan := by
  rw [ofDecimal]
  split_ifs
  · exact Binary64.noConfusion
  · exact Binary64.noConfusion
  · exact Binary64.noConfusion
  · exact ofUnitRatio_ne_nan _ _ _
  · exact ofUnitRatio_ne_nan _ _ _

theorem representable_zero (negative : Bool) : Representable (.finite negative 0) :=
  representable_finite.mpr ⟨beyond_pos, Nat.dvd_zero _⟩

/-- What is read from digits is a number of the format. -/
theorem representable_ofDecimal (negative : Bool) (digits : Nat) (exponent : Int) :
    Representable (ofDecimal negative digits exponent) := by
  rw [ofDecimal]
  split_ifs
  · exact representable_zero negative
  · intro _ _ same
    cases same
  · exact representable_zero negative
  · exact representable_ofUnitRatio Nat.one_pos
  · exact representable_ofUnitRatio (Nat.pow_pos (by decide))

/-- A whole number of the format is read as itself from any digits that stand for it. -/
theorem ofDecimal_of_whole {n : Nat} (rep : Representable (.finite negative (n * one)))
    (same : (digits * 10 ^ exponent : ℚ) = n) :
    ofDecimal negative digits exponent = .finite negative (n * one) := by
  have plain : (digits * 10 ^ exponent : ℚ) = n * 10 ^ (0 : Int) := by
    rw [zpow_zero, mul_one, same]
  rw [ofDecimal_congr negative plain]
  by_cases zero : n = 0
  · rw [zero, Nat.zero_mul, ofDecimal, if_pos rfl]
  · exact ofDecimal_of_nearest (Nat.mul_pos (Nat.pos_of_ne_zero zero) one_pos) rep zero
      (.whole n)

/-- What a quotient that reaches a power of two is rounded to reaches it too. -/
theorem le_of_ofUnitRatio {bits units : Nat} {sign : Bool} (low : 2 ^ bits ≤ num / den)
    (read : ofUnitRatio negative num den = .finite sign units) : 2 ^ bits ≤ units := by
  have nonzero : num / den ≠ 0 := by
    have := Nat.two_pow_pos bits
    omega
  generalize more : (num / den).log2 + 1 - 53 = shift
  have step : spacing (num / den) = 2 ^ shift := by rw [← more]; rfl
  have top : 2 ^ (num / den).log2 ≤ num / den := Nat.log2_self_le nonzero
  have reached : bits ≤ (num / den).log2 := (Nat.le_log2 nonzero).mpr low
  have same : roundDiv num (den * 2 ^ shift) * 2 ^ shift = units := by
    rw [ofUnitRatio, step] at read
    split at read
    · exact (Binary64.finite.inj read).2
    · cases read
  -- Below the step there are fewer bits than the quotient has, so its first bit is kept.
  have kept : 2 ^ ((num / den).log2 - shift) ≤ roundDiv num (den * 2 ^ shift) := by
    refine Nat.le_trans ?_ (div_le_roundDiv num (den * 2 ^ shift))
    rw [← Nat.div_div_eq_div_mul, Nat.le_div_iff_mul_le (Nat.two_pow_pos shift), ← Nat.pow_add,
      Nat.sub_add_cancel (by omega)]
    exact top
  calc 2 ^ bits ≤ 2 ^ (num / den).log2 := Nat.pow_le_pow_right (by decide) reached
    _ = 2 ^ ((num / den).log2 - shift) * 2 ^ shift := by
      rw [← Nat.pow_add, Nat.sub_add_cancel (by omega)]
    _ ≤ roundDiv num (den * 2 ^ shift) * 2 ^ shift := Nat.mul_le_mul_right _ kept
    _ = units := same

/-- A number is below the power of ten that its digits do not reach. -/
theorem mul_zpow_lt (digits : Nat) (exponent : Int) :
    (digits * 10 ^ exponent : ℚ) < 10 ^ (exponent + (Nat.toDigits 10 digits).length) := by
  have below : digits < 10 ^ (Nat.toDigits 10 digits).length :=
    (Nat.length_toDigits_le_iff (by decide) Nat.length_toDigits_pos).mp (Nat.le_refl _)
  rw [zpow_add₀ (by norm_num), mul_comm, zpow_natCast]
  exact mul_lt_mul_of_pos_left (by exact_mod_cast below) (by positivity)

/-- What digits that reach a power of two are read as reaches it too. -/
theorem le_of_ofDecimal {bits units : Nat} {sign : Bool}
    (low : (2 ^ bits : ℚ) ≤ digits * 10 ^ exponent)
    (read : ofDecimal negative digits exponent = .finite sign units) :
    2 ^ bits * one ≤ units := by
  have one_le : (1 : ℚ) ≤ digits * 10 ^ exponent := (one_le_pow₀ (by norm_num)).trans low
  have nonzero : digits ≠ 0 := by
    rintro rfl
    norm_num at one_le
  by_cases high : exponent + (Nat.toDigits 10 digits).length ≤ 400
  · have notLow : -400 ≤ exponent + (Nat.toDigits 10 digits).length := by
      by_contra small
      have less := one_le.trans_lt (mul_zpow_lt digits exponent)
      have more : (10 : ℚ) ^ (exponent + (Nat.toDigits 10 digits).length) ≤ 10 ^ (0 : Int) :=
        zpow_le_zpow_right₀ (by norm_num) (by omega)
      rw [zpow_zero] at more
      linarith
    obtain ⟨unitBits, unit⟩ : ∃ unitBits, one = 2 ^ unitBits := ⟨1074, by decide +kernel⟩
    rw [ofDecimal_eq nonzero high notLow] at read
    rw [unit, ← Nat.pow_add]
    refine le_of_ofUnitRatio ?_ read
    rw [Nat.le_div_iff_mul_le (raise_pos exponent), Nat.pow_add, ← unit]
    have positive : (0 : ℚ) ≤ one * raise exponent :=
      mul_nonneg (Nat.cast_nonneg one) (Nat.cast_nonneg _)
    have scaled := mul_le_mul_of_nonneg_right low positive
    have cast : (2 ^ bits * one * raise exponent : ℚ) ≤ digits * unitsOf exponent := by
      rw [unitsOf_eq]
      linarith
    exact_mod_cast cast
  · rw [ofDecimal, if_neg nonzero, if_pos (Int.not_le.mp high)] at read
    cases read

/-- Numbers of 53 and more bits before the point are whole. -/
theorem one_dvd_of_representable {units : Nat} (rep : Representable (.finite negative units))
    (large : 2 ^ 52 * one ≤ units) : one ∣ units := by
  obtain ⟨unitBits, unit⟩ : ∃ unitBits, one = 2 ^ unitBits := ⟨1074, by decide +kernel⟩
  rw [unit, ← Nat.pow_add] at large
  have nonzero : units ≠ 0 := by
    have := Nat.two_pow_pos (52 + unitBits)
    omega
  have bits : 52 + unitBits ≤ units.log2 := (Nat.le_log2 nonzero).mpr large
  rw [unit]
  exact (Nat.pow_dvd_pow 2 (by omega)).trans (representable_finite.mp rep).2

end Binary64

/-! ## Integers -/

open Binary64

/-- The numbers that become integers are the whole ones below 2⁶³. -/
theorem normalized_eq_integer {x : Binary64} {value : Int64} : normalized x = .integer value ↔
    ∃ negative n, x = .finite negative (n * one) ∧ n < 2 ^ 63 ∧
      value = Int64.ofInt (signed negative n) := by
  constructor
  · intro read
    unfold normalized at read
    split at read
    · next negative units =>
      split at read
      · next whole =>
        have small : units / one < Nat.pow 2 63 :=
          (Nat.div_lt_iff_lt_mul Binary64.one_pos).mpr whole.2
        refine ⟨negative, units / one, ?_, small, (Number.integer.inj read).symm⟩
        rw [Nat.div_mul_cancel (Nat.dvd_of_mod_eq_zero whole.1)]
      · cases read
    · cases read
  · rintro ⟨negative, n, rfl, small, rfl⟩
    have whole : n * one % one = 0 := Nat.mul_mod_left n one
    have below : n * one < Nat.pow 2 63 * one := Nat.mul_lt_mul_of_pos_right small Binary64.one_pos
    rw [normalized]
    simp only [whole, below, and_self, if_true, Nat.mul_div_cancel _ Binary64.one_pos]

/-- What does not become an integer stays as it is. -/
theorem normalized_cases (x : Binary64) :
    (∃ value, normalized x = .integer value) ∨ normalized x = .float x := by
  unfold normalized
  split
  · split
    · exact .inl ⟨_, rfl⟩
    · exact .inr rfl
  · exact .inr rfl

/-- A number of 53 and more bits before the point that does not become an integer is beyond 64
bits. -/
theorem le_of_normalized {x : Binary64} (rep : x.Representable)
    (large : ∀ negative units, x = .finite negative units → 2 ^ 52 * one ≤ units)
    (float : normalized x = .float x) {negative : Bool} {units : Nat}
    (finite : x = .finite negative units) : 2 ^ 63 * one ≤ units := by
  subst finite
  obtain ⟨n, whole⟩ := one_dvd_of_representable rep (large negative units rfl)
  rw [whole, Nat.mul_comm one] at float ⊢
  have reached : 2 ^ 63 ≤ n := by
    by_contra small
    have integer : normalized (.finite negative (n * one)) =
        .integer (Int64.ofInt (signed negative n)) :=
      normalized_eq_integer.mpr ⟨negative, n, rfl, Nat.lt_of_not_le small, rfl⟩
    rw [float] at integer
    cases integer
  exact Nat.mul_le_mul_right one reached

/-- The 64-bit range is closed off by its ends. -/
theorem clamp_signed {n : Nat} (large : 2 ^ 63 ≤ n) (negative : Bool) :
    clamp (signed negative n) = if negative then Int64.minValue else Int64.maxValue := by
  have max : Int64.maxValue.toInt = 2 ^ 63 - 1 := rfl
  have min : Int64.minValue.toInt = -2 ^ 63 := rfl
  rw [clamp, signed]
  cases negative with
  | true =>
    simp only [if_true]
    by_cases least : n = 2 ^ 63
    · subst least
      rfl
    · exact if_pos (by omega)
  | false =>
    simp only [Bool.false_eq_true, if_false]
    rw [if_neg (by omega), if_pos (by omega)]

/-- A number beyond 64 bits is rounded to an end of their range. -/
theorem clamp_round_of_large {x : Binary64} (isNumber : x ≠ .nan)
    (large : ∀ negative units, x = .finite negative units → 2 ^ 63 * one ≤ units) :
    clamp x.round = Int64.minValue ∨ clamp x.round = Int64.maxValue := by
  have ends (negative : Bool) {n : Nat} (large : 2 ^ 63 ≤ n) :
      clamp (signed negative n) = Int64.minValue ∨ clamp (signed negative n) = Int64.maxValue := by
    rw [clamp_signed large]
    cases negative <;> simp
  cases x with
  | nan => exact absurd rfl isNumber
  | infinite negative => exact ends negative (by decide)
  | finite negative units =>
    refine ends negative ?_
    have := large negative units rfl
    rw [Nat.le_div_iff_mul_le (Nat.mul_pos (by decide) Binary64.one_pos)]
    omega

/-- The greatest 64-bit integer is read as the power of two after it. -/
theorem Binary64.ofDecimal_maxValue (negative : Bool) {digits : Nat} {exponent : Int}
    (same : (digits * 10 ^ exponent : ℚ) = (2 ^ 63 - 1 : Nat)) :
    ofDecimal negative digits exponent = .finite negative (2 ^ 63 * one) := by
  have plain : (digits * 10 ^ exponent : ℚ) = (2 ^ 63 - 1 : Nat) * 10 ^ (0 : Int) := by
    rw [zpow_zero, mul_one, same]
  have rep : Representable (.finite negative (2 ^ 63 * one)) :=
    representable_finite.mpr ⟨by decide +kernel, by decide +kernel⟩
  have nearest : Nearest (2 ^ 63 * one) (place (2 ^ 63 - 1) 0) := by
    have step : 2 * one < stepBelow (2 ^ 63 * one) := by decide +kernel
    have place_eq : place (2 ^ 63 - 1) 0 = (2 ^ 63 * one : Nat) - one := by
      rw [place_zero, Nat.cast_mul, Nat.cast_mul, Nat.cast_sub (by decide)]
      ring
    have positive : (0 : ℚ) < one := Nat.cast_pos.mpr Binary64.one_pos
    have above : (0 : ℚ) < spacing (2 ^ 63 * one) := Nat.cast_pos.mpr (spacing_pos _)
    rw [place_eq]
    generalize 2 ^ 63 * one = units at step above
    generalize one = unit at step positive
    have below : (2 * unit : ℚ) < stepBelow units := by exact_mod_cast step
    exact ⟨by linarith, by linarith, fun _ => ⟨by linarith, by linarith⟩⟩
  rw [ofDecimal_congr negative plain]
  exact ofDecimal_of_nearest (by decide +kernel) rep (by decide) nearest

end Number

end EventSieve
