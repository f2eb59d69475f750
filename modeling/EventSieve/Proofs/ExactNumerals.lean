import EventSieve.Proofs.UnitNumerals

/-!
# Exact numerals with a unit

A numeral with a unit is exact if it is read as its number where this is a 64-bit integer, and as no
integer where this is beyond 64 bits. Numerals that do not reach below one are, as their digits are
scaled as integers. The others are rounded to the nearest floating-point number, so that they are
exact up to the whole numbers that the format has not. A time that is rounded beyond 64 bits is
brought back to them; and of zeros after a point nothing may be left to read.

## Main definitions

* `Coercion.UnitNumeral.IsExact` — a numeral is read as its number
* `Coercion.UnitNumeral.IsRounded` — the digits are scaled in floating point
* `Coercion.UnitNumeral.IsInexact` — the numerals that are read as something else

## Main statements

* `Coercion.UnitNumeral.isExact_of_not_isRounded` — scaling of integers is exact
* `Coercion.UnitNumeral.settle_normalized` — the whole numbers that rounding keeps
* `Coercion.UnitNumeral.isExact_iff_not_isInexact` — the numerals that are exact
* `Coercion.UnitNumeral.number?_of_isExact` — numerals of one number are read alike
-/
namespace EventSieve

open Number (Binary64 readInt64? narrow?)

namespace Coercion.UnitNumeral

variable (n : UnitNumeral)

/-! ## Exactness -/

/-- A numeral whose product, where it is a whole number of 64 bits, is read as that integer, and
where it is beyond them, as no integer. -/
structure IsExact : Prop where
  kept : ∀ i : Int, n.product = i → |i| ≤ Int64.maxValue.toInt →
    ({} : Coercion).number? n.text = some (.integer (Int64.ofInt i))
  beyond : 2 ^ 63 ≤ |n.product| → ∀ value,
    ({} : Coercion).number? n.text ≠ some (.integer value)

/-- Exactness, told of the magnitude. -/
theorem isExact_iff : n.IsExact ↔
    (∀ k : Nat, n.magnitude = k → (k : Int) ≤ Int64.maxValue.toInt →
      ({} : Coercion).number? n.text = some (.integer (Int64.ofInt (n.sign.apply k)))) ∧
    (2 ^ 63 ≤ n.magnitude → ∀ value,
      ({} : Coercion).number? n.text ≠ some (.integer value)) := by
  constructor
  · intro exact
    refine ⟨fun k whole fits => ?_, fun large => exact.beyond (n.abs_product ▸ large)⟩
    refine exact.kept _ ((n.product_eq_iff k).mpr whole) ?_
    rw [Sign.apply, Binary64.signed]
    split <;> simpa using fits
  · rintro ⟨kept, beyond⟩
    refine ⟨fun i whole fits => ?_, fun large => beyond (n.abs_product ▸ large)⟩
    obtain ⟨magnitude, signed⟩ := n.exists_of_product_eq whole
    rw [signed]
    exact kept i.natAbs magnitude (by rwa [Int.natCast_natAbs])

/-! ## Integers -/

/-- A numeral that is scaled as a 64-bit integer is exact. -/
theorem isExact_of_narrow {k : Nat} (whole : n.magnitude = k)
    (read : ({} : Coercion).number? n.text =
      (narrow? k).map fun value => .integer (withSign n.sign.isMinus value)) : n.IsExact := by
  have max : Int64.maxValue.toInt = 2 ^ 63 - 1 := rfl
  have min : Int64.minValue.toInt = -2 ^ 63 := rfl
  refine n.isExact_iff.mpr ⟨fun k' whole' fits => ?_, fun large value => ?_⟩
  · have same : k' = k := by
      rw [whole] at whole'
      exact_mod_cast whole'.symm
    subst same
    rw [read, Number.narrow?_of_fits (by omega) fits, Option.map_some, n.sign.withSign_ofInt fits]
  · have reached : 2 ^ 63 ≤ k := by
      rw [whole] at large
      exact_mod_cast large
    rw [read, narrow?, if_neg (by omega)]
    intro same
    cases same

/-- The places of a numeral are no more than the power of ten of its unit moves. -/
theorem number?_of_reaching (reaching : n.places.length ≤ n.exponent) :
    ∃ k : Nat, n.magnitude = k ∧ ({} : Coercion).number? n.text =
      (narrow? k).map fun value => .integer (withSign n.sign.isMinus value) := by
  obtain ⟨shift, gap⟩ := Int.eq_ofNat_of_zero_le (Int.sub_nonneg.mpr reaching)
  have exponent : n.exponent = n.places.length + shift := by omega
  have small : shift ≤ 18 := by
    have := Measure.exponent_le n.known
    omega
  refine ⟨n.mantissa * 10 ^ shift, ?_, ?_⟩
  · rw [magnitude, gap, Nat.cast_mul, Nat.cast_pow, Nat.cast_ofNat]
    rfl
  · rw [n.number?_text, exponent, scale?_of_reaching _ n.digits_ne_nil n.isDigit_digits small,
      Option.map_map]
    exact congrArg (Option.map · _) (funext fun value => n.measure.settle_integer _)

/-- Zeros after the point of a numeral whose unit is one are left out. -/
theorem number?_of_zeros (unit : n.exponent = 0) (zeros : n.places.all (· == '0') = true)
    (some : n.places ≠ []) : n.magnitude = Nat.ofDigitChars 10 n.whole 0 ∧
      ({} : Coercion).number? n.text = (readInt64? n.whole).map fun value =>
        .integer (withSign n.sign.isMinus value) := by
  constructor
  · have mantissa : n.mantissa = 10 ^ n.places.length * Nat.ofDigitChars 10 n.whole 0 :=
      Number.ofDigitChars_of_zeros n.whole zeros
    have power : (10 : ℚ) ^ n.places.length ≠ 0 := by positivity
    rw [magnitude, mantissa, unit, zero_sub, zpow_neg, zpow_natCast, Nat.cast_mul, Nat.cast_pow,
      Nat.cast_ofNat, mul_comm, inv_mul_cancel_left₀ power]
  · rw [n.number?_text, unit, scale?_of_zeros _ _ some zeros, Option.map_map]
    exact congrArg (Option.map · _) (funext fun value => n.measure.settle_integer _)

/-! ## Floating point -/

/-- Whether the digits are scaled in floating point: they reach below one, and not just with zeros
after the point of a number of ones. -/
def IsRounded : Prop :=
  n.exponent < n.places.length ∧ ¬(n.exponent = 0 ∧ n.places.all (· == '0') = true)

instance : Decidable n.IsRounded :=
  inferInstanceAs (Decidable (_ ∧ ¬(_ ∧ _)))

/-- The floating-point number that is nearest to a numeral. -/
def rounded : Binary64 :=
  .ofDecimal n.sign.isMinus n.mantissa (n.exponent - n.places.length)

theorem number?_of_isRounded (isRounded : n.IsRounded) :
    ({} : Coercion).number? n.text = some (n.measure.settle (Number.normalized n.rounded)) := by
  rw [n.number?_text, scale?_of_short _ n.digits_ne_nil n.isDigit_digits isRounded.1 isRounded.2]
  rfl

/-- A numeral that is not rounded has a whole product, and is exact unless it is zeros after a
point only. -/
theorem isExact_of_not_isRounded (notRounded : ¬n.IsRounded) :
    (∃ k : Nat, n.magnitude = k) ∧ (n.IsExact ↔ (n.exponent = 0 → n.whole ≠ [])) := by
  by_cases reaching : n.places.length ≤ n.exponent
  · obtain ⟨k, whole, read⟩ := n.number?_of_reaching reaching
    refine ⟨⟨k, whole⟩, fun _ unit none => ?_, fun _ => n.isExact_of_narrow whole read⟩
    have noPlaces : n.places = [] := List.length_eq_zero_iff.mp (by omega)
    exact n.nonempty (List.append_eq_nil_iff.mpr ⟨none, noPlaces⟩)
  · have short : n.exponent < n.places.length := by omega
    obtain ⟨unit, zeros⟩ : n.exponent = 0 ∧ n.places.all (· == '0') = true := by
      by_contra notZeros
      exact notRounded ⟨short, notZeros⟩
    have some : n.places ≠ [] := List.length_pos_iff.mp (by omega)
    obtain ⟨whole, read⟩ := n.number?_of_zeros unit zeros some
    refine ⟨⟨_, whole⟩, fun exact _ none => ?_, fun present => ?_⟩
    · rw [none] at whole read
      have kept := (n.isExact_iff.mp exact).1 0 whole (by decide)
      rw [read] at kept
      cases kept
    · rw [Number.readInt64?_digits (present unit) fun c => n.isDigit_whole] at read
      exact n.isExact_of_narrow whole read

theorem representable_rounded : n.rounded.Representable :=
  Binary64.representable_ofDecimal _ _ _

section
variable {n} {k : Nat}

theorem le_of_rounded {bits units : Nat} {negative : Bool} (low : 2 ^ bits ≤ n.magnitude)
    (finite : n.rounded = .finite negative units) : 2 ^ bits * Binary64.one ≤ units :=
  Binary64.le_of_ofDecimal low finite

/-- A numeral beyond 64 bits is not rounded to an integer. -/
theorem normalized_of_beyond (large : 2 ^ 63 ≤ n.magnitude) (value : Int64) :
    Number.normalized n.rounded ≠ .integer value := by
  intro read
  obtain ⟨negative, m, finite, small, -⟩ := Number.normalized_eq_integer.mp read
  have reached := le_of_rounded large finite
  exact Nat.not_le.mpr small (Nat.le_of_mul_le_mul_right reached Binary64.one_pos)

/-- The whole numbers of the format are the only ones that become integers themselves. -/
theorem normalized_rounded (whole : n.magnitude = k) (fits : (k : Int) ≤ Int64.maxValue.toInt) :
    Number.normalized n.rounded = .integer (Int64.ofInt (n.sign.apply k)) ↔
      Binary64.Representable (.finite false (k * Binary64.one)) := by
  have max : Int64.maxValue.toInt = 2 ^ 63 - 1 := rfl
  constructor
  · intro read
    obtain ⟨negative, m, finite, small, value⟩ := Number.normalized_eq_integer.mp read
    have rep := n.representable_rounded
    rw [finite] at rep
    have same : m = k := by
      have signed := congrArg Int64.toInt value
      rw [Sign.apply, Number.toInt_ofInt_signed _ (by omega), Number.toInt_ofInt_signed _ small,
        Binary64.signed, Binary64.signed] at signed
      split at signed <;> split at signed <;> omega
    rw [← same]
    exact Binary64.representable_finite.mpr (Binary64.representable_finite.mp rep)
  · intro rep
    have rep : Binary64.Representable (.finite n.sign.isMinus (k * Binary64.one)) :=
      Binary64.representable_finite.mpr (Binary64.representable_finite.mp rep)
    exact Number.normalized_eq_integer.mpr
      ⟨_, k, Binary64.ofDecimal_of_whole rep whole, by omega, rfl⟩

/-- A numeral of 53 and more bits that is rounded to no integer is brought back to an end of the
64-bit range where it is a time. -/
theorem clamp_round_rounded (large : 2 ^ 52 ≤ n.magnitude)
    (float : Number.normalized n.rounded = .float n.rounded) :
    Number.clamp n.rounded.round = Int64.minValue ∨
      Number.clamp n.rounded.round = Int64.maxValue :=
  Number.clamp_round_of_large (Binary64.ofDecimal_ne_nan _ _ _) fun _ _ finite =>
    Number.le_of_normalized n.representable_rounded (fun _ _ => le_of_rounded large) float finite

/-- The greatest 64-bit integer is rounded up as a time, and brought back. -/
theorem settle_time_maxValue (whole : n.magnitude = k)
    (greatest : n.sign.apply k = Int64.maxValue.toInt) :
    Measure.time.settle (Number.normalized n.rounded) = .integer Int64.maxValue := by
  have max : Int64.maxValue.toInt = 2 ^ 63 - 1 := rfl
  rw [Sign.apply, Binary64.signed, max] at greatest
  split at greatest
  · omega
  · next plus =>
    have top : k = 2 ^ 63 - 1 := by omega
    rw [top] at whole
    rw [rounded, Bool.eq_false_iff.mpr plus, Binary64.ofDecimal_maxValue false whole]
    decide +kernel

/-- A whole number of 64 bits that is not of the format is read as another one, unless it is a time
that is rounded beyond 64 bits and brought back to their end. -/
theorem settle_normalized (whole : n.magnitude = k) (fits : (k : Int) ≤ Int64.maxValue.toInt) :
    n.measure.settle (Number.normalized n.rounded) = .integer (Int64.ofInt (n.sign.apply k)) ↔
      Binary64.Representable (.finite false (k * Binary64.one)) ∨
        n.measure = .time ∧ n.sign.apply k = Int64.maxValue.toInt := by
  constructor
  · intro read
    rcases Number.normalized_cases n.rounded with ⟨value, integer⟩ | float
    · rw [integer, Measure.settle_integer] at read
      exact .inl ((normalized_rounded whole fits).mp (integer.trans read))
    -- From 2⁵² on all numbers of the format are whole, so this one is beyond the integers.
    · by_cases small : k < 2 ^ 52
      · exact .inl (Binary64.representable_whole (by omega))
      · have large : (2 ^ 52 : ℚ) ≤ n.magnitude := by
          rw [whole]
          exact_mod_cast Nat.not_lt.mp small
        rw [float] at read
        cases measure : n.measure with
        | amount =>
          rw [measure] at read
          cases read
        | time =>
          rw [measure] at read
          have max : Int64.maxValue.toInt = 2 ^ 63 - 1 := rfl
          have min : Int64.minValue.toInt = -2 ^ 63 := rfl
          have value := congrArg Int64.toInt (Number.integer.inj read)
          rw [Sign.apply, Number.toInt_ofInt_signed _ (by omega)] at value
          rcases clamp_round_rounded large float with least | greatest
          · rw [least, min, Binary64.signed] at value
            split at value <;> omega
          · exact .inr ⟨rfl, by rw [Sign.apply, ← value, greatest]⟩
  · rintro (rep | ⟨measure, greatest⟩)
    · rw [(normalized_rounded whole fits).mpr rep, Measure.settle_integer]
    · rw [measure, settle_time_maxValue whole greatest, greatest, Int64.ofInt_toInt]

/-- A numeral that is rounded is exact up to the whole numbers that the format has not, and up to
times beyond 64 bits. -/
theorem isExact_of_isRounded (isRounded : n.IsRounded) : n.IsExact ↔
    (∀ k : Nat, n.magnitude = k → (k : Int) ≤ Int64.maxValue.toInt →
      Binary64.Representable (.finite false (k * Binary64.one)) ∨
        n.measure = .time ∧ n.sign.apply k = Int64.maxValue.toInt) ∧
    (n.measure = .time → n.magnitude < 2 ^ 63) := by
  rw [isExact_iff, n.number?_of_isRounded isRounded]
  simp only [Option.some.injEq]
  refine and_congr (forall_congr' fun k => forall₂_congr settle_normalized) ?_
  constructor
  · intro beyond measure
    by_contra large
    obtain ⟨value, integer⟩ := Measure.exists_settle_time (Number.normalized n.rounded)
    refine beyond (not_lt.mp large) value ?_
    rw [measure, integer]
  · intro within large value read
    cases measure : n.measure with
    | amount =>
      rw [measure] at read
      exact normalized_of_beyond large value (Option.some.inj read)
    | time => exact not_lt.mpr large (within measure)

end

/-! ## Numerals that are not exact -/

/-- The ways in which a numeral is read as another number than its own. Zeros after a point are left
out where the unit is one, so that no digit may be left. A numeral that reaches below one is rounded
though its number is whole; and a time beyond 64 bits that is rounded is brought back to them. -/
inductive IsInexact (n : UnitNumeral) : Prop
  | digitless (unit : n.exponent = 0) (none : n.whole = [])
    (zeros : n.places.all (· == '0') = true) : IsInexact n
  | lost {i : Int} (isRounded : n.IsRounded) (whole : n.product = i)
    (fits : |i| ≤ Int64.maxValue.toInt)
    (notRep : ¬Binary64.Representable (.finite false (i.natAbs * Binary64.one)))
    (notEnd : ¬(n.measure = .time ∧ i = Int64.maxValue.toInt)) : IsInexact n
  | saturated (isRounded : n.IsRounded) (time : n.measure = .time) (large : 2 ^ 63 ≤ |n.product|) :
    IsInexact n

variable {n}

theorem isInexact_of_not_isRounded (notRounded : ¬n.IsRounded) :
    n.IsInexact ↔ n.exponent = 0 ∧ n.whole = [] := by
  constructor
  · rintro (⟨unit, none, -⟩ | ⟨isRounded, -, -, -, -⟩ | ⟨isRounded, -, -⟩)
    · exact ⟨unit, none⟩
    · exact absurd isRounded notRounded
    · exact absurd isRounded notRounded
  · rintro ⟨unit, none⟩
    have some : n.places ≠ [] := by simpa [none] using n.digits_ne_nil
    have short : n.exponent < n.places.length := by
      have := List.length_pos_iff.mpr some
      omega
    refine .digitless unit none ?_
    by_contra notZeros
    exact notRounded ⟨short, fun zeros => notZeros zeros.2⟩

theorem isInexact_of_isRounded (isRounded : n.IsRounded) : n.IsInexact ↔
    (∃ k : Nat, n.magnitude = k ∧ (k : Int) ≤ Int64.maxValue.toInt ∧
      ¬Binary64.Representable (.finite false (k * Binary64.one)) ∧
        ¬(n.measure = .time ∧ n.sign.apply k = Int64.maxValue.toInt)) ∨
    n.measure = .time ∧ 2 ^ 63 ≤ n.magnitude := by
  constructor
  · rintro (⟨unit, -, zeros⟩ | ⟨-, whole, fits, notRep, notEnd⟩ | ⟨-, time, large⟩)
    · exact absurd ⟨unit, zeros⟩ isRounded.2
    · next i =>
      obtain ⟨magnitude, signed⟩ := n.exists_of_product_eq whole
      exact .inl ⟨i.natAbs, magnitude, by rwa [Int.natCast_natAbs], notRep, signed ▸ notEnd⟩
    · exact .inr ⟨time, n.abs_product ▸ large⟩
  · rintro (⟨k, whole, fits, notRep, notEnd⟩ | ⟨time, large⟩)
    · have natAbs : (n.sign.apply k).natAbs = k := by
        rw [Sign.apply, Binary64.signed]
        split <;> simp
      refine .lost isRounded ((n.product_eq_iff k).mpr whole) ?_ (by rwa [natAbs]) notEnd
      rwa [← Int.natCast_natAbs, natAbs]
    · exact .saturated isRounded time (n.abs_product.symm ▸ large)

/-- The numerals that are not exact are those. -/
theorem isExact_iff_not_isInexact : n.IsExact ↔ ¬n.IsInexact := by
  by_cases isRounded : n.IsRounded
  · rw [isExact_of_isRounded isRounded, isInexact_of_isRounded isRounded]
    push Not
    simp only [or_iff_not_imp_left]
  · rw [(n.isExact_of_not_isRounded isRounded).2, isInexact_of_not_isRounded isRounded, not_and]

/-! ## Numerals of one number -/

variable {m : UnitNumeral}

theorem normalized_of_zero (zero : n.magnitude = 0) :
    Number.normalized n.rounded = .integer 0 := by
  have whole : n.magnitude = (0 : Nat) := by rw [zero, Nat.cast_zero]
  have rep : Binary64.Representable (.finite false (0 * Binary64.one)) := by
    rw [Nat.zero_mul]
    exact Binary64.representable_zero false
  rw [(normalized_rounded whole (by decide)).mpr rep]
  cases n.sign <;> rfl

/-- Numerals that are rounded are read alike if they stand for the same number. -/
theorem number?_of_rounded (measure : m.measure = n.measure) (same : m.product = n.product)
    (isRounded : m.IsRounded) (isRounded' : n.IsRounded) :
    ({} : Coercion).number? m.text = ({} : Coercion).number? n.text := by
  rw [m.number?_of_isRounded isRounded, n.number?_of_isRounded isRounded', measure]
  have magnitude : m.magnitude = n.magnitude := by rw [← abs_product, same, abs_product]
  -- The numerals of zero may differ in their signs.
  by_cases zero : m.magnitude = 0
  · rw [normalized_of_zero zero, normalized_of_zero (magnitude ▸ zero)]
  · have sign : m.sign.isMinus = n.sign.isMinus := by
      have positive := m.magnitude_nonneg.lt_of_ne' zero
      rw [product_eq, product_eq, ← magnitude] at same
      split at same <;> split at same
      · simp [*]
      · linarith
      · linarith
      · simp [*]
    have alike : m.rounded = n.rounded := by
      rw [rounded, rounded, sign]
      exact Binary64.ofDecimal_congr _ magnitude
    rw [alike]

/-- Exact numerals below 2⁶³ are read alike if they stand for the same number. -/
theorem number?_of_isExact (measure : m.measure = n.measure) (same : m.product = n.product)
    (small : |m.product| < 2 ^ 63) (exact : m.IsExact) (exact' : n.IsExact) :
    ({} : Coercion).number? m.text = ({} : Coercion).number? n.text := by
  have max : Int64.maxValue.toInt = 2 ^ 63 - 1 := rfl
  by_cases whole : ∃ i : Int, m.product = i
  · obtain ⟨i, whole⟩ := whole
    have fits : |i| ≤ Int64.maxValue.toInt := by
      rw [whole] at small
      have : |i| < 2 ^ 63 := by exact_mod_cast small
      omega
    rw [exact.kept i whole fits, exact'.kept i (same ▸ whole) fits]
  · have isRounded {n : UnitNumeral} (same : m.product = n.product) : n.IsRounded := by
      by_contra notRounded
      obtain ⟨k, magnitude⟩ := (n.isExact_of_not_isRounded notRounded).1
      exact whole ⟨_, same.trans ((n.product_eq_iff k).mpr magnitude)⟩
    exact number?_of_rounded measure same (isRounded rfl) (isRounded same)

/-- A numeral with a unit that stands for a 64-bit integer is read as this integer, and one beyond
64 bits as no integer, unless it is one of the inexact ones. Numerals of one measure and number are
read alike if they are below 2⁶³ and not inexact, or if both are rounded. -/
theorem number?_text_exact (n : UnitNumeral) :
    (n.IsExact ↔ ¬n.IsInexact) ∧
    ∀ m : UnitNumeral, m.measure = n.measure → m.product = n.product →
      |m.product| < 2 ^ 63 ∧ ¬m.IsInexact ∧ ¬n.IsInexact ∨ m.IsRounded ∧ n.IsRounded →
        ({} : Coercion).number? m.text = ({} : Coercion).number? n.text := by
  refine ⟨isExact_iff_not_isInexact, ?_⟩
  rintro m measure same (⟨small, exact, exact'⟩ | ⟨isRounded, isRounded'⟩)
  · exact number?_of_isExact measure same small (isExact_iff_not_isInexact.mpr exact)
      (isExact_iff_not_isInexact.mpr exact')
  · exact number?_of_rounded measure same isRounded isRounded'

/-- `1.5ms` and `1500.0us` are the same time, 1500000 nanoseconds. `0.5m` and `500u` are both
rounded to the same amount. -/
theorem number?_text_exact_milli :
    let ms : UnitNumeral :=
      ⟨.absent, ['1'], some ['5'], by decide, by simp, false, .time, ['m', 's'], 6, by decide⟩
    let us : UnitNumeral := ⟨.absent, ['1', '5', '0', '0'], some ['0'], by decide, by simp, false,
      .time, ['u', 's'], 3, by decide⟩
    let m : UnitNumeral :=
      ⟨.absent, ['0'], some ['5'], by decide, by simp, false, .amount, ['m'], -3, by decide⟩
    let u : UnitNumeral := ⟨.absent, ['5', '0', '0'], none, by decide, by simp, false, .amount,
      ['u'], -6, by decide⟩
    ms.text = "1.5ms" ∧ us.text = "1500.0us" ∧ ms.IsExact ∧
      ms.product = 1500000 ∧ ({} : Coercion).number? "1.5ms" = some (.integer 1500000) ∧
      ({} : Coercion).number? "1.5ms" = ({} : Coercion).number? "1500.0us" ∧
      m.text = "0.5m" ∧ u.text = "500u" ∧
      ({} : Coercion).number? "0.5m" = ({} : Coercion).number? "500u" := by
  intro ms us m u
  have notRounded : ¬ms.IsRounded ∧ ¬us.IsRounded := by decide
  have isRounded : m.IsRounded ∧ u.IsRounded := by decide
  have exact : ¬ms.IsInexact ∧ ¬us.IsInexact := by
    rw [isInexact_of_not_isRounded notRounded.1, isInexact_of_not_isRounded notRounded.2]
    decide
  have product : ms.product = 1500000 :=
    (product_of_plus rfl (by decide : ms.mantissa = 15)).trans (by norm_num [ms, places])
  have product' : us.product = 1500000 :=
    (product_of_plus rfl (by decide : us.mantissa = 15000)).trans (by norm_num [us, places])
  have half : m.product = u.product := by
    rw [product_of_plus rfl (by decide : m.mantissa = 5),
      product_of_plus rfl (by decide : u.mantissa = 500)]
    norm_num [m, u, places]
  have isExact : ms.IsExact := (number?_text_exact ms).1.mpr exact.1
  have alike := (number?_text_exact us).2 ms rfl (product.trans product'.symm)
    (.inl ⟨by rw [product]; norm_num, exact⟩)
  have alike' := (number?_text_exact u).2 m rfl half (.inr isRounded)
  have kept := isExact.kept 1500000 (by rw [product]; norm_num) (by decide)
  exact ⟨rfl, rfl, isExact, product, kept, alike, rfl, rfl, alike'⟩

/-- `.0ns` is zero and is read as no number; `9007199254740993000m` is rounded to the even number
before it; and `9223372036.8547758080s` is beyond 64 bits and is read as their greatest integer. -/
theorem number?_text_exact_ne :
    let zero : UnitNumeral := ⟨.absent, [], some ['0'], by decide, by simp, false, .time,
      ['n', 's'], 0, by decide⟩
    let odd : UnitNumeral := ⟨.absent, "9007199254740993000".toList, none, by decide, by simp,
      false, .amount, ['m'], -3, by decide⟩
    let beyond : UnitNumeral := ⟨.absent, "9223372036".toList, some "8547758080".toList, by decide,
      by simp, false, .time, ['s'], 9, by decide⟩
    (zero.text = ".0ns" ∧ zero.product = 0 ∧ ({} : Coercion).number? zero.text = none) ∧
    (odd.text = "9007199254740993000m" ∧ odd.product = 9007199254740993 ∧
      ({} : Coercion).number? odd.text = some (.integer 9007199254740992)) ∧
    (beyond.text = "9223372036.8547758080s" ∧ beyond.product = 2 ^ 63 ∧
      ({} : Coercion).number? beyond.text = some (.integer Int64.maxValue)) ∧
    ¬zero.IsExact ∧ ¬odd.IsExact ∧ ¬beyond.IsExact := by
  intro zero odd beyond
  have product : zero.product = 0 := by
    rw [product_of_plus rfl (by decide : zero.mantissa = 0), Nat.cast_zero, zero_mul]
  have product' : odd.product = 9007199254740993 :=
    (product_of_plus rfl (by decide +kernel : odd.mantissa = 9007199254740993000)).trans
      (by norm_num [odd, places])
  have length : beyond.places.length = 10 := by decide
  have product'' : beyond.product = 2 ^ 63 := by
    rw [product_of_plus rfl (by decide +kernel : beyond.mantissa = 92233720368547758080), length]
    norm_num [beyond]
  have read : ({} : Coercion).number? zero.text = none := by decide +kernel
  have read' : ({} : Coercion).number? odd.text = some (.integer 9007199254740992) := by
    decide +kernel
  have read'' : ({} : Coercion).number? beyond.text = some (.integer Int64.maxValue) := by
    decide +kernel
  refine ⟨⟨rfl, product, read⟩, ⟨by decide +kernel, product', read'⟩,
    ⟨by decide +kernel, product'', read''⟩, fun exact => ?_, fun exact => ?_, fun exact => ?_⟩
  · have kept := exact.kept 0 (by rw [product, Int.cast_zero]) (by decide)
    rw [read] at kept
    cases kept
  · have kept := exact.kept 9007199254740993 (by rw [product']; norm_num) (by decide)
    rw [read'] at kept
    exact absurd kept (by decide)
  · exact exact.beyond (by rw [product'']; norm_num) _ read''

end Coercion.UnitNumeral

end EventSieve
