import EventSieve.Proofs.Scaling
import EventSieve.Proofs.ShortestDigits

/-!
# Texts of floating-point numbers

A finite number is written with digits, or with digits and a point among them, and in both forms the
text stands for a place that the number is the nearest one to. So the readers of numerals find the
number, if they take the text and its point is the decimal separator.

## Main definitions

* `Binary64.PointsGroup` — the point in the text of a number could separate a group

## Main statements

* `Binary64.plainChars_eq` — the form of the text of a number
* `Coercion.numEq_of_numeral?_plainText` — the numeral of the text of a number is the number
* `Coercion.numeral?_plainText_of_pointsGroup` — or, where points separate groups, another number
-/
namespace EventSieve

open Number (Binary64 readRadix? readInt64? narrow?)

/-! ## Digits -/

namespace Number

/-- Zeros after the digits of a number multiply it by a power of ten. -/
theorem toDigits_mul_pow {n : Nat} (positive : 0 < n) (zeros : Nat) :
    Nat.toDigits 10 (n * 10 ^ zeros) = Nat.toDigits 10 n ++ List.replicate zeros '0' := by
  have isDigit : ∀ c ∈ List.replicate zeros '0', c.isDigit = true := fun c mem => by
    rw [List.eq_of_mem_replicate mem]
    rfl
  rw [← toDigits_ofDigitChars isDigit positive, Nat.ofDigitChars_replicate_zero, Nat.mul_comm]

theorem ofDigitChars_lt {digits : List Char} (isDigit : ∀ c ∈ digits, c.isDigit = true)
    (value : Nat) : Nat.ofDigitChars 10 digits value < (value + 1) * 10 ^ digits.length := by
  induction digits generalizing value with
  | nil =>
    rw [Nat.ofDigitChars_nil, List.length_nil, Nat.pow_zero, Nat.mul_one]
    exact Nat.lt_succ_self value
  | cons c digits ih =>
    have bounds := toNat_bounds_of_isDigit (isDigit c List.mem_cons_self)
    rw [Nat.ofDigitChars_cons, List.length_cons, Nat.pow_succ', ← Nat.mul_assoc]
    refine Nat.lt_of_lt_of_le (ih (fun d mem => isDigit d (List.mem_cons_of_mem _ mem)) _) ?_
    refine Nat.mul_le_mul_right _ ?_
    have zero : '0'.toNat = 48 := rfl
    omega

end Number

/-! ## Integers in floating point -/

namespace Number.Binary64

variable {units : Nat} {negative : Bool}

theorem stepBelow_pos (units : Nat) : 0 < stepBelow units := by
  rw [stepBelow]
  split
  · next long => exact Nat.div_pos long.1 (by decide)
  · exact spacing_pos units

/-- A number is nearest to itself. -/
theorem Nearest.self (units : Nat) : Nearest units units := by
  have below : (0 : ℚ) < stepBelow units := Nat.cast_pos.mpr (stepBelow_pos units)
  have above : (0 : ℚ) < spacing units := Nat.cast_pos.mpr (spacing_pos units)
  exact ⟨by linarith, by linarith, fun _ => ⟨by linarith, by linarith⟩⟩

theorem place_zero (digits : Nat) : place digits 0 = (digits * one : Nat) := by
  rw [place, zpow_zero, mul_one, Nat.cast_mul]

/-- A whole number is nearest to its digits. -/
theorem Nearest.whole (n : Nat) : Nearest (n * one) (place n 0) := by
  rw [place_zero]
  exact .self _

/-- A whole number that is nearest to a number is the number in floating point. -/
theorem ofInt_of_nearest (nonzero : 0 < units) (rep : Representable (.finite negative units))
    {digits : Nat} (positive : digits ≠ 0) (h : Nearest units (place digits 0)) :
    ofInt (signed negative digits) = .finite negative units := by
  have sign : decide (signed negative digits < 0) = negative := by
    cases negative with
    | true =>
      refine decide_eq_true ?_
      show -(digits : Int) < 0
      omega
    | false =>
      refine decide_eq_false ?_
      show ¬(digits : Int) < 0
      omega
  have magnitude : (signed negative digits).natAbs = digits := by
    cases negative
    · exact Int.natAbs_natCast digits
    · exact (Int.natAbs_neg _).trans (Int.natAbs_natCast digits)
  rw [place_zero, ← div_one ((digits * one : Nat) : ℚ), ← Nat.cast_one] at h
  rw [ofInt, ofRatio, sign, magnitude]
  exact ofUnitRatio_of_nearest Nat.one_pos nonzero rep h

theorem ofInt_signed_zero (negative : Bool) : ofInt (signed negative 0) = .finite false 0 := by
  cases negative <;> decide +kernel

theorem beyond_pos : 0 < beyond := by
  decide +kernel

/-- Whole numbers of at most 53 bits are numbers of the format. -/
theorem representable_whole {n : Nat} (small : n < 2 ^ 53) :
    Representable (.finite negative (n * one)) := by
  by_cases zero : n = 0
  · rw [zero, Nat.zero_mul, representable_finite]
    exact ⟨beyond_pos, Nat.dvd_zero _⟩
  · have main (bits : Nat) (same : one = 2 ^ bits) (large : 52 ≤ bits)
        (range : 2 ^ 53 * 2 ^ bits ≤ beyond) : Representable (.finite negative (n * one)) := by
      have nonzero : n * 2 ^ bits ≠ 0 := Nat.mul_ne_zero zero (Nat.two_pow_pos bits).ne'
      rw [same, representable_finite]
      refine ⟨Nat.lt_of_lt_of_le (Nat.mul_lt_mul_of_pos_right small (Nat.two_pow_pos bits)) range,
        Nat.dvd_trans (Nat.pow_dvd_pow 2 ?_) (Nat.dvd_mul_left _ _)⟩
      have count : (n * 2 ^ bits).log2 < 53 + bits := by
        rw [Nat.log2_lt nonzero, Nat.pow_add]
        exact Nat.mul_lt_mul_of_pos_right small (Nat.two_pow_pos bits)
      omega
    exact main 1074 (by decide +kernel) (by decide) (by decide +kernel)

/-- Whole numbers of at most 53 bits are exact in floating point. -/
theorem ofInt_signed {n : Nat} (positive : n ≠ 0) (small : n < 2 ^ 53) :
    ofInt (signed negative n) = .finite negative (n * one) :=
  ofInt_of_nearest (Nat.mul_pos (Nat.pos_of_ne_zero positive) one_pos) (representable_whole small)
    positive (.whole n)

theorem numEq_finite_self (negative : Bool) (units : Nat) :
    (Binary64.finite negative units).numEq (.finite negative units) = true := by
  simp [numEq, compare?, rank?]

theorem numEq_finite_of_ne (negative : Bool) {other : Nat} (differs : units ≠ other) :
    (Binary64.finite negative units).numEq (.finite negative other) = false := by
  have apart : signed negative units ≠ signed negative other := by
    rw [signed, signed]
    split <;> omega
  rw [numEq, compare?, rank?, rank?]
  exact beq_false_of_ne fun same => apart (compare_eq_iff_eq.mp (Option.some.inj same))

theorem numEq_finite_zero (negative other : Bool) :
    (Binary64.finite negative 0).numEq (.finite other 0) = true := by
  cases negative <;> cases other <;> rfl

end Number.Binary64

/-! ## The form of a text -/

/-- The numeral of a natural number with a sign. -/
def WholeNumeral.ofNat (negative : Bool) (n : Nat) : WholeNumeral where
  negative
  digits := Nat.toDigits 10 n
  nonempty := Nat.toDigits_ne_nil
  isDigit _ mem := Nat.isDigit_of_mem_toDigits (by decide) (by decide) mem
  canonical zero := by rw [Number.eq_zero_of_head?_toDigits _ zero]; rfl

@[simp] theorem WholeNumeral.magnitude_ofNat (negative : Bool) (n : Nat) :
    (ofNat negative n).magnitude = n :=
  Nat.ofDigitChars_ten_toDigits

namespace PointNumeral

/-- The digits of a number after a point and zeros. -/
def afterZeros (negative : Bool) (zeros n : Nat) : PointNumeral where
  whole := .ofNat negative 0
  fraction := List.replicate zeros '0' ++ Nat.toDigits 10 n
  nonempty := List.append_ne_nil_of_right_ne_nil _ Nat.toDigits_ne_nil
  isDigit c mem := by
    rcases List.mem_append.mp mem with zero | digit
    · rw [List.eq_of_mem_replicate zero]
      rfl
    · exact Nat.isDigit_of_mem_toDigits (by decide) (by decide) digit

theorem mantissa_afterZeros (negative : Bool) (zeros n : Nat) :
    (afterZeros negative zeros n).mantissa = n := by
  show Nat.ofDigitChars 10 (['0'] ++ (List.replicate zeros '0' ++ Nat.toDigits 10 n)) 0 = n
  rw [Nat.ofDigitChars_append, Nat.ofDigitChars_append, Nat.ofDigitChars_replicate_zero]
  exact Nat.ofDigitChars_ten_toDigits

section
variable (negative : Bool) {n count : Nat} (positive : 0 < n) (some : 0 < count)
  (inside : count < (Nat.toDigits 10 n).length)

/-- The digits of a number with a point after the first of them. -/
def among : PointNumeral where
  whole :=
    { negative
      digits := (Nat.toDigits 10 n).take count
      nonempty := by
        rw [← List.length_pos_iff, List.length_take]
        omega
      isDigit := fun _ mem =>
        Nat.isDigit_of_mem_toDigits (by decide) (by decide) (List.mem_of_mem_take mem)
      canonical := fun zero => by
        rw [List.head?_take, if_neg some.ne'] at zero
        exact absurd (Number.eq_zero_of_head?_toDigits n zero) positive.ne' }
  fraction := (Nat.toDigits 10 n).drop count
  nonempty := by
    rw [← List.length_pos_iff, List.length_drop]
    omega
  isDigit _ mem := Nat.isDigit_of_mem_toDigits (by decide) (by decide) (List.mem_of_mem_drop mem)

theorem mantissa_among : (among negative positive some inside).mantissa = n := by
  show Nat.ofDigitChars 10 ((Nat.toDigits 10 n).take count ++ (Nat.toDigits 10 n).drop count) 0 = n
  rw [List.take_append_drop]
  exact Nat.ofDigitChars_ten_toDigits

end

end PointNumeral

namespace Number.Binary64

variable {units digits : Nat} {exponent : Int} {negative : Bool}

theorem withSign_append (n : WholeNumeral) (rest : List Char) :
    withSign n.negative (n.digits ++ rest) = n.chars ++ rest := by
  rw [withSign, WholeNumeral.chars]
  split <;> rfl

/-- A point after the last digit is not written. -/
theorem placePoint_of_nonneg (positive : 0 < digits) (whole : 0 ≤ exponent) :
    placePoint (Nat.toDigits 10 digits) ((Nat.toDigits 10 digits).length + exponent) =
      Nat.toDigits 10 (digits * 10 ^ exponent.toNat) := by
  have some := @Nat.length_toDigits_pos 10 digits
  rw [Number.toDigits_mul_pow positive, placePoint, if_neg (by omega), if_pos (by omega),
    add_sub_cancel_left]

/-- A point among or before the digits of a number leaves as many of them after it as the exponent
says. -/
theorem exists_placePoint_of_neg (negative : Bool) (positive : 0 < digits)
    (fractional : exponent < 0) : ∃ p : PointNumeral, p.whole.negative = negative ∧
      p.mantissa = digits ∧ (p.fraction.length : Int) = -exponent ∧
      placePoint (Nat.toDigits 10 digits) ((Nat.toDigits 10 digits).length + exponent) =
        p.whole.digits ++ '.' :: p.fraction := by
  generalize point : ((Nat.toDigits 10 digits).length : Int) + exponent = place
  rw [placePoint]
  by_cases before : place ≤ 0
  · refine ⟨.afterZeros negative (-place).toNat digits, rfl,
      PointNumeral.mantissa_afterZeros _ _ _, ?_, ?_⟩
    · rw [PointNumeral.afterZeros, List.length_append, List.length_replicate]
      omega
    · rw [if_pos before]
      rfl
  · have inside : place.toNat < (Nat.toDigits 10 digits).length := by omega
    refine ⟨.among negative positive (by omega) inside, rfl,
      PointNumeral.mantissa_among negative positive (by omega) inside, ?_, ?_⟩
    · rw [PointNumeral.among, List.length_drop]
      omega
    · rw [if_neg before, if_neg (by omega)]
      rfl

/-- A number is written as digits, or as digits with a point among them, that are nearest to it. -/
theorem plainChars_eq (negative : Bool) (nonzero : 0 < units) (range : units < beyond) :
    (∃ n : WholeNumeral, n.negative = negative ∧ n.magnitude ≠ 0 ∧
      plainChars (.finite negative units) = n.chars ∧ Nearest units (place n.magnitude 0)) ∨
    ∃ n : PointNumeral, n.whole.negative = negative ∧ n.mantissa ≠ 0 ∧
      plainChars (.finite negative units) = n.chars ∧
      Nearest units (place n.mantissa (-n.fraction.length)) := by
  obtain ⟨some, nearest⟩ := shortest_nearest nonzero range
  have positive := Nat.pos_of_ne_zero some
  have chars : plainChars (.finite negative units) = withSign negative
      (placePoint (Nat.toDigits 10 (shortest units).1)
        ((Nat.toDigits 10 (shortest units).1).length + (shortest units).2)) := by
    rw [plainChars, if_neg nonzero.ne']
  generalize (shortest units).1 = digits at *
  generalize (shortest units).2 = exponent at *
  by_cases whole : 0 ≤ exponent
  · refine .inl ⟨.ofNat negative (digits * 10 ^ exponent.toNat), rfl, ?_, ?_, ?_⟩
    · rw [WholeNumeral.magnitude_ofNat]
      exact Nat.mul_ne_zero some (Nat.pow_pos (by decide)).ne'
    · rw [chars, placePoint_of_nonneg positive whole]
      rfl
    · have same : place (digits * 10 ^ exponent.toNat) 0 = place digits exponent := by
        obtain ⟨n, rfl⟩ := Int.eq_ofNat_of_zero_le whole
        rw [Int.toNat_natCast, place, place, zpow_zero, mul_one, Nat.cast_mul, Nat.cast_pow,
          zpow_natCast, Nat.cast_ofNat]
      rw [WholeNumeral.magnitude_ofNat, same]
      exact nearest
  · obtain ⟨n, sign, mantissa, count, same⟩ :=
      exists_placePoint_of_neg negative positive (Int.not_le.mp whole)
    refine .inr ⟨n, sign, mantissa ▸ some, ?_, ?_⟩
    · rw [chars, same, ← sign, withSign_append]
      rfl
    · rw [mantissa, count, neg_neg]
      exact nearest

end Number.Binary64

/-! ## Numbers that are equal to a floating-point number -/

open Coercion

section
variable {units digits : Nat} {negative : Bool}

theorem Number.numEq_integer (x : Binary64) (i : Int64) :
    (Number.float x).numEq (.integer i) = x.numEq (.ofInt i.toInt) :=
  rfl

/-- A whole number that is nearest to a number and fits 64 bits is equal to it. -/
theorem Number.numEq_whole (nonzero : 0 < units)
    (rep : Binary64.Representable (.finite negative units)) (positive : digits ≠ 0)
    (nearest : Binary64.Nearest units (Binary64.place digits 0))
    (fits : (digits : Int) ≤ Int64.maxValue.toInt) :
    (Number.float (.finite negative units)).numEq
      (.integer (withSign negative (Int64.ofInt digits))) = true := by
  rw [numEq_integer, toInt_withSign negative fits,
    Binary64.ofInt_of_nearest nonzero rep positive nearest]
  exact Binary64.numEq_finite_self negative units

/-- A whole number below 2⁶³ is equal to its integer. -/
theorem Number.numEq_ofInt (negative : Bool) {n : Nat} (small : n < 2 ^ 63)
    (rep : Binary64.Representable (.finite negative (n * Binary64.one))) :
    (Number.float (.finite negative (n * Binary64.one))).numEq
      (.integer (Int64.ofInt (Binary64.signed negative n))) = true := by
  rw [numEq_integer, toInt_ofInt_signed negative small]
  by_cases zero : n = 0
  · rw [zero, Nat.zero_mul, Binary64.ofInt_signed_zero]
    exact Binary64.numEq_finite_zero negative false
  · have nonzero : 0 < n * Binary64.one := Nat.mul_pos (Nat.pos_of_ne_zero zero) Binary64.one_pos
    rw [Binary64.ofInt_of_nearest nonzero rep zero (.whole n)]
    exact Binary64.numEq_finite_self negative _

/-- A number stays the same where it becomes an integer. -/
theorem Number.numEq_normalized (rep : Binary64.Representable (.finite negative units)) :
    (Number.float (.finite negative units)).numEq (normalized (.finite negative units)) = true := by
  rw [normalized]
  split
  · next whole =>
    have parts : units / Binary64.one * Binary64.one = units :=
      Nat.div_mul_cancel (Nat.dvd_of_mod_eq_zero whole.1)
    have small : units / Binary64.one < Nat.pow 2 63 :=
      (Nat.div_lt_iff_lt_mul Binary64.one_pos).mpr whole.2
    have equal := numEq_ofInt negative small
    rw [parts] at equal
    exact equal rep
  · exact Binary64.numEq_finite_self negative units

end

/-! ## Reading a text -/

namespace PointNumeral

variable (n : PointNumeral) {units : Nat}

/-- Zeros after the point multiply the number of all digits by a power of ten. -/
theorem mantissa_of_zeros (zeros : n.fraction.all (· == '0') = true) :
    n.mantissa = 10 ^ n.fraction.length * n.whole.magnitude := by
  exact Number.ofDigitChars_of_zeros n.whole.digits zeros

/-- Zeros after the point stand for no place. -/
theorem place_of_zeros (zeros : n.fraction.all (· == '0') = true) :
    Binary64.place n.mantissa (-n.fraction.length) = Binary64.place n.whole.magnitude 0 := by
  have power : (10 : ℚ) ^ n.fraction.length ≠ 0 := by positivity
  rw [n.mantissa_of_zeros zeros, Binary64.place, Binary64.place, zpow_zero, zpow_neg, zpow_natCast,
    Nat.cast_mul, Nat.cast_pow, Nat.cast_ofNat, mul_one, mul_comm (10 ^ n.fraction.length : ℚ),
    mul_inv_cancel_right₀ power]

/-- A numeral is read as the number that it is nearest to, if it is read. -/
theorem numEq_of_scale? (nonzero : 0 < units)
    (rep : Binary64.Representable (.finite n.whole.negative units)) (positive : n.mantissa ≠ 0)
    (nearest : Binary64.Nearest units (Binary64.place n.mantissa (-n.fraction.length)))
    {number : Number} (read : scale? n.whole.negative n.whole.digits n.fraction 0 = some number) :
    (Number.float (.finite n.whole.negative units)).numEq number = true := by
  by_cases zeros : n.fraction.all (· == '0') = true
  · rw [scale?_of_zeros _ _ n.nonempty zeros,
      Number.readInt64?_digits n.whole.nonempty n.whole.isDigit] at read
    rw [n.place_of_zeros zeros] at nearest
    have whole : n.whole.magnitude ≠ 0 := fun zero => positive (by
      rw [n.mantissa_of_zeros zeros, zero, Nat.mul_zero])
    obtain ⟨value, narrowed, rfl⟩ := Option.map_eq_some_iff.mp read
    rw [narrow?] at narrowed
    split at narrowed
    · next fits =>
      cases narrowed
      exact Number.numEq_whole nonzero rep whole nearest fits.2
    · cases narrowed
  · have short : 0 < n.fraction.length := List.length_pos_iff.mpr n.nonempty
    rw [scale?_of_short _ n.digits_ne_nil (fun _ => n.isDigit_of_mem) (by omega)
      fun zero => zeros zero.2] at read
    cases read
    rw [zero_sub, ← mantissa, Binary64.ofDecimal_of_nearest nonzero rep positive nearest]
    exact Number.numEq_normalized rep

/-- At most three digits before the point and three after it. -/
theorem mantissa_lt (whole : n.whole.digits.length ≤ 3) (fraction : n.fraction.length = 3) :
    n.mantissa < 10 ^ 6 := by
  have bound := Number.ofDigitChars_lt (fun c mem => n.isDigit_of_mem mem) 0
  rw [Nat.zero_add, Nat.one_mul, List.length_append] at bound
  exact Nat.lt_of_lt_of_le bound (Nat.pow_le_pow_right (by decide) (by omega))

/-- A numeral whose point separates a group is read as a thousand times its number. -/
theorem scale?_of_group (negative : Bool) (small : n.mantissa < 10 ^ 6) :
    (n.mantissa : Int) ≤ Int64.maxValue.toInt ∧
      scale? negative (n.whole.digits ++ n.fraction) [] 0 =
        some (.integer (withSign negative (Int64.ofInt n.mantissa))) := by
  have max : Int64.maxValue.toInt = 2 ^ 63 - 1 := rfl
  have min : Int64.minValue.toInt = -2 ^ 63 := rfl
  have fits : (n.mantissa : Int) ≤ Int64.maxValue.toInt := by omega
  refine ⟨fits, ?_⟩
  have digits : n.whole.digits ++ n.fraction ++ [] ≠ [] := by simp [n.nonempty]
  have isDigit : ∀ c ∈ n.whole.digits ++ n.fraction ++ [], c.isDigit = true := by
    rw [List.append_nil]
    exact fun _ => n.isDigit_of_mem
  have read := scale?_of_reaching negative digits isDigit (Nat.zero_le 18)
  rw [List.append_nil, Nat.pow_zero, Nat.mul_one, ← mantissa,
    Number.narrow?_of_fits (by omega) fits] at read
  exact read

/-- The number that digits with a point stand for is not equal to a thousand times its number. -/
theorem ne_mantissa (nonzero : 0 < units)
    (nearest : Binary64.Nearest units (Binary64.place n.mantissa (-n.fraction.length)))
    (fraction : n.fraction.length = 3) : units ≠ n.mantissa * Binary64.one := by
  intro same
  have low := nearest.low
  have short : (Binary64.stepBelow units : ℚ) ≤ units :=
    Nat.cast_le.mpr ((Binary64.stepBelow_le units).trans (Binary64.spacing_le nonzero))
  have positive : (0 : ℚ) < units := Nat.cast_pos.mpr nonzero
  have third : Binary64.place n.mantissa (-n.fraction.length) = units / 1000 := by
    rw [fraction, Binary64.place, same, Nat.cast_mul, zpow_neg]
    generalize (Binary64.one : ℚ) = unit
    norm_num
    ring
  rw [third] at low
  linarith

end PointNumeral

/-! ## The numeral of a text -/

/-- At most three characters stand before the point in the text of a number, and three after it. -/
def Number.Binary64.PointsGroup (x : Binary64) : Prop :=
  (splitFirst '.' (splitSign x.plainChars).2).1.length ≤ 3 ∧
    (splitFirst '.' (splitSign x.plainChars).2).2.length = 3

instance (x : Binary64) : Decidable x.PointsGroup :=
  inferInstanceAs (Decidable (_ ∧ _))

theorem WholeNumeral.not_pointsGroup {n : WholeNumeral} {x : Binary64}
    (same : x.plainChars = n.chars) : ¬x.PointsGroup := by
  rw [Binary64.PointsGroup, same, n.splitSign_chars, splitFirst_of_notMem (n.notMem_digits rfl)]
  exact fun points => absurd points.2 (by simp)

theorem PointNumeral.pointsGroup_iff {n : PointNumeral} {x : Binary64}
    (same : x.plainChars = n.chars) :
    x.PointsGroup ↔ n.whole.digits.length ≤ 3 ∧ n.fraction.length = 3 := by
  rw [Binary64.PointsGroup, same, n.splitSign_chars, splitFirst_append (n.whole.notMem_digits rfl)]

theorem PointNumeral.hyphen_notMem_chars (n : PointNumeral) : '-' ∉ n.chars.drop 1 := by
  obtain ⟨c, cs, same, isDigit, -⟩ := n.whole.exists_chars
  rw [PointNumeral.chars, same, List.cons_append, List.drop_one, List.tail_cons, List.mem_append,
    List.mem_cons]
  rintro (whole | point | fraction)
  · exact Number.ne_of_isDigit (isDigit _ whole) rfl rfl
  · cases point
  · exact Number.ne_of_isDigit (n.isDigit _ fraction) rfl rfl

/-- A hyphen is at most the sign of a number. -/
theorem Number.Binary64.hyphen_notMem_plainChars {x : Binary64} (rep : x.Representable) :
    '-' ∉ x.plainChars.drop 1 := by
  cases x with
  | nan => decide
  | infinite negative => cases negative <;> decide
  | finite negative units =>
    by_cases zero : units = 0
    · subst zero
      cases negative <;> decide
    · rcases plainChars_eq negative (Nat.pos_of_ne_zero zero) (representable_finite.mp rep).1 with
        ⟨n, -, -, same, -⟩ | ⟨n, -, -, same, -⟩
      · rw [same]
        exact n.hyphen_notMem_chars
      · rw [same]
        exact n.hyphen_notMem_chars

namespace Coercion

variable {coercion : Coercion} {x : Binary64} {number : Number}

/-- The name of an infinity is no numeral. -/
theorem numeral?_infinite (negative : Bool) :
    coercion.numeral? (Binary64.infinite negative).plainText = none := by
  have body : splitSign (Binary64.infinite negative).plainChars = (negative, ['i', 'n', 'f']) := by
    cases negative <;> rfl
  have noUnit (units : List (List Char × Int)) :
      withUnit? units (Binary64.infinite negative).plainText.toList = none := by
    rw [Binary64.plainText, String.toList_ofList, withUnit?, body]
    rfl
  rw [numeral?_of_noUnit (noUnit _) (noUnit _), Binary64.plainText, String.toList_ofList,
    groupedDecimal?_eq_none ['i', 'n', 'f'] (by decide) (by decide)
      (by rw [body]; exact fun c mem => mem) rfl]
  cases negative <;> rfl

theorem plainText_zero (negative : Bool) :
    (Binary64.finite negative 0).plainText = (WholeNumeral.ofNat negative 0).text := by
  cases negative <;> rfl

variable (separated : coercion.Separated)

include separated

/-- The digits of a number are a numeral of the number itself, or, beyond 64 bits, none. -/
theorem numEq_of_whole {units : Nat} {n : WholeNumeral} (nonzero : 0 < units)
    (rep : Binary64.Representable (.finite n.negative units)) (positive : n.magnitude ≠ 0)
    (nearest : Binary64.Nearest units (Binary64.place n.magnitude 0))
    (read : coercion.numeral? n.text = some number) :
    (Number.float (.finite n.negative units)).numEq number = true := by
  by_cases fits : (n.magnitude : Int) ≤ Int64.maxValue.toInt
  · rw [n.numeral?_of_fits fits] at read
    cases read
    exact Number.numEq_whole nonzero rep positive nearest fits
  · rw [n.numeral?_of_beyond separated (Int.not_le.mp fits)] at read
    cases read

/-- Digits with a point that does not separate a group are a numeral of the number itself, or
none. -/
theorem numEq_of_point {units : Nat} {n : PointNumeral} (nonzero : 0 < units)
    (rep : Binary64.Representable (.finite n.whole.negative units)) (positive : n.mantissa ≠ 0)
    (nearest : Binary64.Nearest units (Binary64.place n.mantissa (-n.fraction.length)))
    (noGroup : ¬(coercion.grouping = '.' ∧ n.whole.digits.length ≤ 3 ∧ n.fraction.length = 3))
    (read : coercion.numeral? n.text = some number) :
    (Number.float (.finite n.whole.negative units)).numEq number = true := by
  by_cases decimal : coercion.decimal = '.'
  · rw [n.numeral?_of_decimal separated decimal] at read
    exact n.numEq_of_scale? nonzero rep positive nearest read
  · by_cases grouping : coercion.grouping = '.'
    · rw [n.numeral?_of_grouping separated grouping, if_neg fun long => noGroup ⟨grouping, long⟩]
        at read
      cases read
    · rw [n.numeral?_of_other separated grouping decimal] at read
      cases read

/-- The numeral of the text of a number is the number, unless a point in it separates a group. -/
theorem numEq_of_numeral?_plainText (isNumber : x ≠ .nan) (rep : x.Representable)
    (noGroup : ¬(coercion.grouping = '.' ∧ x.PointsGroup))
    (read : coercion.numeral? x.plainText = some number) :
    (Number.float x).numEq number = true := by
  cases x with
  | nan => exact absurd rfl isNumber
  | infinite negative =>
    rw [numeral?_infinite] at read
    cases read
  | finite negative units =>
    by_cases zero : units = 0
    · rw [zero, plainText_zero, WholeNumeral.numeral?_of_fits _ (by cases negative <;> decide)]
        at read
      cases read
      subst zero
      cases negative <;> decide +kernel
    · have nonzero := Nat.pos_of_ne_zero zero
      rcases Binary64.plainChars_eq negative nonzero
          (Binary64.representable_finite.mp rep).1 with
        ⟨n, rfl, positive, same, nearest⟩ | ⟨n, rfl, positive, same, nearest⟩
      · rw [Binary64.plainText, same] at read
        exact numEq_of_whole separated nonzero rep positive nearest read
      · rw [n.pointsGroup_iff same] at noGroup
        rw [Binary64.plainText, same] at read
        exact numEq_of_point separated nonzero rep positive nearest noGroup read

/-- Where points separate groups, the numeral of the text of a number with one group is another
number. -/
theorem numeral?_plainText_of_pointsGroup (rep : x.Representable)
    (grouping : coercion.grouping = '.') (points : x.PointsGroup) :
    ∃ i, coercion.numeral? x.plainText = some (.integer i) ∧
      (Number.float x).numEq (.integer i) = false := by
  cases x with
  | nan => exact absurd points (by decide)
  | infinite negative => cases negative <;> exact absurd points (by decide)
  | finite negative units =>
    by_cases zero : units = 0
    · subst zero
      cases negative <;> exact absurd points (by decide)
    · have nonzero := Nat.pos_of_ne_zero zero
      rcases Binary64.plainChars_eq negative nonzero
          (Binary64.representable_finite.mp rep).1 with
        ⟨n, rfl, positive, same, nearest⟩ | ⟨n, rfl, positive, same, nearest⟩
      · exact absurd points (WholeNumeral.not_pointsGroup same)
      · obtain ⟨whole, fraction⟩ := (n.pointsGroup_iff same).mp points
        have small := n.mantissa_lt whole fraction
        obtain ⟨fits, read⟩ := n.scale?_of_group n.whole.negative small
        have other := n.ne_mantissa nonzero nearest fraction
        have text : (Binary64.finite n.whole.negative units).plainText = n.text :=
          congrArg String.ofList same
        refine ⟨withSign n.whole.negative (Int64.ofInt n.mantissa), ?_, ?_⟩
        · rw [text, n.numeral?_of_grouping separated grouping, if_pos ⟨whole, fraction⟩, read]
        · rw [Number.numEq_integer, toInt_withSign _ fits,
            Binary64.ofInt_signed positive (by omega)]
          exact Binary64.numEq_finite_of_ne _ other

end Coercion

end EventSieve
