import EventSieve.Number.Shortest
import EventSieve.Proofs.Rounding
import Mathlib.Algebra.Order.Field.Power
import Mathlib.Tactic.Positivity

/-!
# The shortest digits read back

The digits that a number is written with are nearest to the number: a neighbour of the number on a
decimal grid is taken only if it lies in the interval of the number, and the last grid that is tried
is so fine that it has such a neighbour.

## Main definitions

* `Binary64.place` — the place of decimal digits, counted in units

## Main statements

* `Binary64.shortest_nearest` — the shortest digits are nearest to their number
* `Binary64.ofDecimal_shortest` — the shortest digits are read as their number
-/
namespace EventSieve.Number.Binary64

/-- The place of decimal digits, counted in units. -/
def place (digits : Nat) (exponent : Int) : ℚ :=
  digits * 10 ^ exponent * one

theorem one_pos : 0 < one := by
  decide +kernel

/-! The exponents of the unit and of the range are kept as variables where the powers are opened, so
that the powers are not computed. -/

theorem one_cast : (one : ℚ) = 2 ^ (1074 : Int) := by
  have power (bits : Nat) (same : one = 2 ^ bits) : (one : ℚ) = 2 ^ (bits : Int) := by
    rw [same, zpow_natCast]
    exact Nat.cast_pow 2 bits
  exact power 1074 (by decide +kernel)

theorem log2_lt_of_lt_beyond {units : Nat} (nonzero : 0 < units) (range : units < beyond) :
    units.log2 < 2098 := by
  have bound (bits : Nat) (same : beyond = 2 ^ bits) : units.log2 < bits := by
    rw [same] at range
    exact (Nat.log2_lt nonzero.ne').mpr range
  exact bound 2098 (by decide +kernel)

/-! ## Neighbours on a grid -/

/-- The denominator of a power of ten. -/
def raise (exponent : Int) : Nat :=
  if 0 ≤ exponent then 1 else Nat.pow 10 (-exponent).toNat

/-- The units of a power of ten, times its denominator. -/
def unitsOf (exponent : Int) : Nat :=
  if 0 ≤ exponent then one * Nat.pow 10 exponent.toNat else one

/-- Whether a number is nearest to a multiple of a power of ten, in quarters of a unit. -/
def isInside (units : Nat) (exponent : Int) (n : Nat) : Bool :=
  let low := (4 * units - 2 * stepBelow units) * raise exponent
  let high := (4 * units + 2 * spacing units) * raise exponent
  let position := 4 * n * unitsOf exponent
  if units / spacing units % 2 == 0 then low ≤ position && position ≤ high
  else low < position && position < high

theorem raise_pos (exponent : Int) : 0 < raise exponent := by
  rw [raise]
  split
  · exact Nat.one_pos
  · exact Nat.pow_pos (by decide)

theorem unitsOf_pos (exponent : Int) : 0 < unitsOf exponent := by
  rw [unitsOf]
  split
  · exact Nat.mul_pos one_pos (Nat.pow_pos (by decide))
  · exact one_pos

/-- The units of a power of ten as a quotient. -/
theorem unitsOf_eq (exponent : Int) :
    (unitsOf exponent : ℚ) = 10 ^ exponent * one * raise exponent := by
  rw [unitsOf, raise]
  split
  · next positive =>
    obtain ⟨n, rfl⟩ := Int.eq_ofNat_of_zero_le positive
    rw [Int.toNat_natCast, zpow_natCast, Nat.cast_mul, Nat.cast_one, mul_one, mul_comm]
    exact congrArg (· * (one : ℚ)) (Nat.cast_pow 10 n)
  · next negative =>
    obtain ⟨n, same⟩ := Int.eq_ofNat_of_zero_le (show 0 ≤ -exponent by omega)
    have power : exponent = -(n : Int) := by omega
    have nonzero : (10 : ℚ) ^ n ≠ 0 := by positivity
    have raised : ((Nat.pow 10 n : Nat) : ℚ) = 10 ^ n := Nat.cast_pow 10 n
    rw [same, Int.toNat_natCast, power, zpow_neg, zpow_natCast, raised, mul_right_comm,
      inv_mul_cancel₀ nonzero, one_mul]

theorem place_eq (n : Nat) (exponent : Int) :
    place n exponent = (n * unitsOf exponent : Nat) / raise exponent := by
  have positive : (raise exponent : ℚ) ≠ 0 := Nat.cast_ne_zero.mpr (raise_pos exponent).ne'
  rw [place, Nat.cast_mul, unitsOf_eq, eq_div_iff positive]
  ring

theorem onGrid_eq (units : Nat) (exponent : Int) : onGrid units exponent =
    let below := units * raise exponent / unitsOf exponent
    let twice := 2 * (units * raise exponent % unitsOf exponent)
    match isInside units exponent below && below != 0, isInside units exponent (below + 1) with
    | true, true =>
      if twice < unitsOf exponent then some below
      else if unitsOf exponent < twice then some (below + 1)
      else if below % 2 = 0 then some below
      else some (below + 1)
    | true, false => some below
    | false, true => some (below + 1)
    | false, false => none :=
  rfl

theorem spacing_le {units : Nat} (nonzero : 0 < units) : spacing units ≤ units := by
  have bits := Nat.log2_self_le nonzero.ne'
  refine Nat.le_trans (Nat.pow_le_pow_right (by decide) ?_) bits
  omega

section
variable {units n : Nat} {exponent : Int}

/-- The ends of the interval of a number, in quarters of a unit. -/
theorem bounds_iff (nonzero : 0 < units) :
    ((4 * units - 2 * stepBelow units) * raise exponent ≤ 4 * n * unitsOf exponent ↔
        (units - stepBelow units / 2 : ℚ) ≤ place n exponent) ∧
      ((4 * units - 2 * stepBelow units) * raise exponent < 4 * n * unitsOf exponent ↔
        (units - stepBelow units / 2 : ℚ) < place n exponent) ∧
      (4 * n * unitsOf exponent ≤ (4 * units + 2 * spacing units) * raise exponent ↔
        place n exponent ≤ (units + spacing units / 2 : ℚ)) ∧
      (4 * n * unitsOf exponent < (4 * units + 2 * spacing units) * raise exponent ↔
        place n exponent < (units + spacing units / 2 : ℚ)) := by
  have positive : (0 : ℚ) < raise exponent := Nat.cast_pos.mpr (raise_pos exponent)
  have below : 2 * stepBelow units ≤ 4 * units := by
    have := stepBelow_le units
    have := spacing_le nonzero
    omega
  rw [place_eq, le_div_iff₀ positive, lt_div_iff₀ positive, div_le_iff₀ positive,
    div_lt_iff₀ positive]
  have le (x y : Nat) : x ≤ y ↔ (x : ℚ) ≤ y := Nat.cast_le.symm
  have lt (x y : Nat) : x < y ↔ (x : ℚ) < y := Nat.cast_lt.symm
  refine ⟨(le _ _).trans ?_, (lt _ _).trans ?_, (le _ _).trans ?_, (lt _ _).trans ?_⟩ <;>
    push_cast [below] <;> constructor <;> intro h <;> linarith

/-- A number is tried on a grid if it is nearest to a multiple there. -/
theorem isInside_iff (nonzero : 0 < units) :
    isInside units exponent n = true ↔ Nearest units (place n exponent) := by
  obtain ⟨lowLe, lowLt, highLe, highLt⟩ := bounds_iff nonzero
  rw [isInside]
  by_cases even : units / spacing units % 2 = 0
  · simp only [even, beq_self_eq_true, if_true, Bool.and_eq_true, decide_eq_true_eq]
    rw [lowLe, highLe]
    exact ⟨fun h => ⟨h.1, h.2, fun odd => by omega⟩, fun h => ⟨h.low, h.high⟩⟩
  · simp only [beq_eq_false_iff_ne.mpr even, Bool.false_eq_true, if_false, Bool.and_eq_true,
      decide_eq_true_eq]
    rw [lowLt, highLt]
    exact ⟨fun h => ⟨h.1.le, h.2.le, fun _ => h⟩, fun h => h.inside (by omega)⟩

/-- What is taken on a grid is nearest to the number, and is not zero. -/
theorem nearest_of_onGrid (nonzero : 0 < units) (taken : onGrid units exponent = some n) :
    n ≠ 0 ∧ Nearest units (place n exponent) := by
  have cases : (isInside units exponent n && n != 0) = true ∨
      ∃ below, n = below + 1 ∧ isInside units exponent n = true := by
    rw [onGrid_eq] at taken
    simp only at taken
    generalize units * raise exponent / unitsOf exponent = below at taken
    split at taken
    · next lower upper =>
      split at taken
      · cases taken
        exact .inl lower
      · split at taken
        · cases taken
          exact .inr ⟨below, rfl, upper⟩
        · split at taken
          · cases taken
            exact .inl lower
          · cases taken
            exact .inr ⟨below, rfl, upper⟩
    · next lower upper =>
      cases taken
      exact .inl lower
    · next lower upper =>
      cases taken
      exact .inr ⟨below, rfl, upper⟩
    · cases taken
  rcases cases with lower | ⟨below, rfl, upper⟩
  · rw [Bool.and_eq_true, bne_iff_ne] at lower
    exact ⟨lower.2, (isInside_iff nonzero).mp lower.1⟩
  · exact ⟨Nat.succ_ne_zero below, (isInside_iff nonzero).mp upper⟩

/-- A grid that is finer than half the step at a number has a neighbour of it. -/
theorem exists_onGrid (nonzero : 0 < units)
    (fine : 2 * ((10 : ℚ) ^ exponent * one) < spacing units) :
    ∃ n, onGrid units exponent = some n := by
  have upper : isInside units exponent (units * raise exponent / unitsOf exponent + 1) = true := by
    rw [isInside_iff nonzero]
    have positive := unitsOf_pos exponent
    generalize quotient : units * raise exponent / unitsOf exponent = below
    have floor : below * unitsOf exponent ≤ units * raise exponent := by
      rw [← quotient]
      exact Nat.div_mul_le_self _ _
    have above : units * raise exponent < (below + 1) * unitsOf exponent := by
      rw [← Nat.div_lt_iff_lt_mul positive, quotient]
      exact Nat.lt_succ_self below
    have raised : (0 : ℚ) < raise exponent := Nat.cast_pos.mpr (raise_pos exponent)
    have lower : place below exponent ≤ units := by
      rw [place_eq, div_le_iff₀ raised]
      exact_mod_cast floor
    have higher : (units : ℚ) < place (below + 1) exponent := by
      rw [place_eq, lt_div_iff₀ raised]
      exact_mod_cast above
    have next : place (below + 1) exponent = place below exponent + 10 ^ exponent * one := by
      rw [place, place, Nat.cast_add_one]
      ring
    have half : (0 : ℚ) ≤ stepBelow units / 2 := div_nonneg (Nat.cast_nonneg _) (by norm_num)
    exact ⟨by linarith, by linarith, fun _ => ⟨by linarith, by linarith⟩⟩
  rw [onGrid_eq]
  simp only [upper]
  split
  · split_ifs <;> exact ⟨_, rfl⟩
  · next impossible => cases impossible
  · exact ⟨_, rfl⟩
  · next impossible => cases impossible

end

/-! ## The grids that are tried -/

/-- Taking zeros off the end of digits keeps their place. -/
theorem dropZeros_place (digits : Nat) (exponent : Int) (fuel : Nat) (nonzero : digits ≠ 0) :
    (dropZeros digits exponent fuel).1 ≠ 0 ∧
      place (dropZeros digits exponent fuel).1 (dropZeros digits exponent fuel).2 =
        place digits exponent := by
  induction fuel generalizing digits exponent with
  | zero => exact ⟨nonzero, rfl⟩
  | succ fuel ih =>
    rw [dropZeros]
    by_cases zero : digits % 10 = 0
    · rw [if_pos zero]
      have parts : digits = digits / 10 * 10 := by omega
      obtain ⟨still, same⟩ := ih (digits / 10) (exponent + 1) (by omega)
      refine ⟨still, same.trans ?_⟩
      rw [place, place, zpow_add_one₀ (by norm_num)]
      have cast : (digits : ℚ) = (digits / 10 : Nat) * 10 := by exact_mod_cast parts
      rw [cast]
      ring
    · rw [if_neg zero]
      exact ⟨nonzero, rfl⟩

/-- The grids are tried from the coarsest one on, so what is taken on the first of them that has a
neighbour is nearest to the number. -/
theorem firstGrid_nearest {units : Nat} (nonzero : 0 < units) {exponent : Int} {fuel : Nat}
    (found : ∃ count < fuel, ∃ n, onGrid units (exponent - count) = some n) :
    (firstGrid units exponent fuel).1 ≠ 0 ∧ Nearest units
      (place (firstGrid units exponent fuel).1 (firstGrid units exponent fuel).2) := by
  induction fuel generalizing exponent with
  | zero =>
    obtain ⟨count, less, -⟩ := found
    exact absurd less (Nat.not_lt_zero count)
  | succ fuel ih =>
    rw [firstGrid]
    cases taken : onGrid units exponent with
    | some n =>
      obtain ⟨positive, nearest⟩ := nearest_of_onGrid nonzero taken
      obtain ⟨still, same⟩ := dropZeros_place n exponent 20 positive
      exact ⟨still, same ▸ nearest⟩
    | none =>
      refine ih ?_
      obtain ⟨count, less, n, later⟩ := found
      cases count with
      | zero =>
        rw [Nat.cast_zero, sub_zero, taken] at later
        cases later
      | succ count =>
        refine ⟨count, Nat.lt_of_succ_lt_succ less, n, ?_⟩
        rwa [sub_sub, add_comm 1, ← Nat.cast_add_one]

/-! ## The first digit -/

theorem reaches_iff {num : Nat} {exponent : Int} :
    reaches num one exponent = true ↔ place 1 exponent ≤ num := by
  have positive : (0 : ℚ) < raise exponent := Nat.cast_pos.mpr (raise_pos exponent)
  have same : reaches num one exponent = decide (unitsOf exponent ≤ num * raise exponent) := by
    rw [reaches, unitsOf, raise]
    split <;> simp
  rw [same, decide_eq_true_iff, place_eq, one_mul, div_le_iff₀ positive, ← Nat.cast_mul,
    Nat.cast_le]

/-- A power of ten that is reached is climbed from to one that is reached. -/
theorem reaches_climb {num den : Nat} {start : Int} (reached : reaches num den start = true)
    (fuel : Nat) : reaches num den (climb num den start fuel) = true := by
  induction fuel generalizing start with
  | zero => exact reached
  | succ fuel ih =>
    rw [climb]
    split
    · next higher => exact ih higher
    · exact reached

/-- A power of ten is at most a power of two if its exponent is so much smaller, as two powers of
them that lie within one factor of two say. -/
theorem ten_zpow_le {k m : Nat} (low : 2 ^ m ≤ 10 ^ k) (high : 10 ^ k ≤ 2 ^ (m + 1))
    (positive : 0 < m) {binary exponent : Int} (less : exponent * m ≤ binary * k - m)
    (small : binary ≤ m) : (10 : ℚ) ^ exponent ≤ 2 ^ binary := by
  have low : (2 : ℚ) ^ m ≤ 10 ^ k := by exact_mod_cast low
  have high : (10 : ℚ) ^ k ≤ 2 ^ m * 2 := by
    rw [← pow_succ]
    exact_mod_cast high
  have powers : ((10 : ℚ) ^ k) ^ binary ≤ ((2 : ℚ) ^ m) ^ binary * 10 ^ m := by
    rcases Int.lt_or_le binary 0 with negative | positive
    · obtain ⟨n, rfl⟩ := Int.eq_negSucc_of_lt_zero negative
      rw [zpow_negSucc, zpow_negSucc]
      have inverse : (((10 : ℚ) ^ k) ^ (n + 1))⁻¹ ≤ (((2 : ℚ) ^ m) ^ (n + 1))⁻¹ := by
        gcongr
      refine inverse.trans (le_mul_of_one_le_right (by positivity) (one_le_pow₀ (by norm_num)))
    · obtain ⟨n, rfl⟩ := Int.eq_ofNat_of_zero_le positive
      rw [zpow_natCast, zpow_natCast]
      calc ((10 : ℚ) ^ k) ^ n ≤ (2 ^ m * 2) ^ n := by gcongr
        _ = (2 ^ m) ^ n * 2 ^ n := mul_pow _ _ _
        _ ≤ (2 ^ m) ^ n * 10 ^ m := by
          gcongr
          calc (2 : ℚ) ^ n ≤ 10 ^ n := by gcongr; norm_num
            _ ≤ 10 ^ m := by gcongr <;> [norm_num; exact_mod_cast small]
  have raised : ((10 : ℚ) ^ exponent) ^ m ≤ ((2 : ℚ) ^ binary) ^ m := by
    calc ((10 : ℚ) ^ exponent) ^ m = 10 ^ (exponent * m) := by rw [zpow_mul, zpow_natCast]
      _ ≤ 10 ^ (binary * k - m) := zpow_le_zpow_right₀ (by norm_num) less
      _ = ((10 : ℚ) ^ k) ^ binary / 10 ^ m := by
        rw [zpow_sub₀ (by norm_num), mul_comm, zpow_mul, zpow_natCast, zpow_natCast]
      _ ≤ ((2 : ℚ) ^ m) ^ binary := by
        rw [div_le_iff₀ (by positivity)]
        exact powers
      _ = ((2 : ℚ) ^ binary) ^ m := by
        rw [← zpow_natCast, ← zpow_mul, mul_comm, zpow_mul, zpow_natCast]
  exact le_of_pow_le_pow_left₀ positive.ne' (by positivity) raised

/-- The power of ten of the first digit is reached. -/
theorem place_decimalExponent {units : Nat} (nonzero : 0 < units) (range : units < beyond) :
    place 1 (decimalExponent units) ≤ units := by
  rw [← reaches_iff, decimalExponent]
  refine reaches_climb (reaches_iff.mpr ?_) 4
  have bits := log2_lt_of_lt_beyond nonzero range
  have low : (2 : Nat) ^ 100000 ≤ 10 ^ 30103 := by decide +kernel
  have high : (10 : Nat) ^ 30103 ≤ 2 ^ (100000 + 1) := by decide +kernel
  have first : ((2 ^ units.log2 : Nat) : ℚ) ≤ units :=
    Nat.cast_le.mpr (Nat.log2_self_le nonzero.ne')
  have unit := one_cast
  have split : (2 : ℚ) ^ ((units.log2 : Int) - 1074) * one = (2 ^ units.log2 : Nat) := by
    rw [unit, ← zpow_add₀ (by norm_num), sub_add_cancel, zpow_natCast, Nat.cast_pow, Nat.cast_two]
  refine le_trans ?_ first
  rw [← split, place, Nat.cast_one, one_mul]
  refine mul_le_mul_of_nonneg_right ?_ (Nat.cast_nonneg one)
  exact ten_zpow_le low high (by decide) (by omega) (by omega)

/-- The shortest digits are nearest to their number. -/
theorem shortest_nearest {units : Nat} (nonzero : 0 < units) (range : units < beyond) :
    (shortest units).1 ≠ 0 ∧
      Nearest units (place (shortest units).1 (shortest units).2) := by
  refine firstGrid_nearest nonzero ⟨17, by decide, exists_onGrid nonzero ?_⟩
  have first := place_decimalExponent nonzero range
  rw [place, Nat.cast_one, one_mul] at first
  have few : (units : ℚ) < 2 ^ 53 * spacing units := by
    exact_mod_cast lt_mul_spacing units
  have finer : (10 : ℚ) ^ (decimalExponent units - (17 : Nat)) =
      10 ^ decimalExponent units / 10 ^ 17 := by
    rw [zpow_sub₀ (by norm_num), zpow_natCast]
  rw [finer]
  linarith

/-! ## Reading -/

section
variable {units digits : Nat} {exponent : Int} {negative : Bool}

/-- Digits that are nearest to a number of the format are not so many that they would be read as an
infinity or as zero. -/
theorem Nearest.magnitude (h : Nearest units (place digits exponent)) (nonzero : 0 < units)
    (range : units < beyond) (positive : digits ≠ 0) :
    exponent + (Nat.toDigits 10 digits).length ≤ 400 ∧
      -400 ≤ exponent + (Nat.toDigits 10 digits).length := by
  have some := @Nat.length_toDigits_pos 10 digits
  generalize count : (Nat.toDigits 10 digits).length = length at some ⊢
  have below : digits < 10 ^ length :=
    (Nat.length_toDigits_le_iff (by decide) some).mp count.le
  have unit : (0 : ℚ) < one := Nat.cast_pos.mpr one_pos
  have short : (spacing units : ℚ) ≤ units := Nat.cast_le.mpr (spacing_le nonzero)
  have shorter : (stepBelow units : ℚ) ≤ spacing units := Nat.cast_le.mpr (stepBelow_le units)
  have atLeast : (1 : ℚ) ≤ units := by exact_mod_cast nonzero
  constructor
  · by_contra large
    have above : 10 ^ (length - 1) ≤ digits := by
      by_cases single : length = 1
      · rw [single]
        exact Nat.pos_of_ne_zero positive
      · refine Nat.le_of_not_lt fun less => ?_
        have fewer := (Nat.length_toDigits_le_iff (by decide) (by omega)).mpr less
        omega
    have bound : 10 ^ (400 : Int) * one ≤ place digits exponent := by
      refine mul_le_mul_of_nonneg_right ?_ unit.le
      calc (10 : ℚ) ^ (400 : Int) ≤ 10 ^ ((length - 1 : Nat) + exponent) :=
            zpow_le_zpow_right₀ (by norm_num) (by omega)
        _ = 10 ^ ((length - 1 : Nat) : Int) * 10 ^ exponent := zpow_add₀ (by norm_num) _ _
        _ ≤ digits * 10 ^ exponent := by
          refine mul_le_mul_of_nonneg_right ?_ (by positivity)
          rw [zpow_natCast]
          exact_mod_cast above
    have far : (2 * beyond : ℚ) ≤ 10 ^ (400 : Int) * one := by
      have less : 2 * beyond ≤ 10 ^ 400 * one := by decide +kernel
      exact_mod_cast less
    have inRange : (units : ℚ) < beyond := Nat.cast_lt.mpr range
    have reached := far.trans (bound.trans h.high)
    linarith only [reached, short, inRange]
  · by_contra small
    have bound : place digits exponent ≤ 10 ^ (-401 : Int) * one := by
      refine mul_le_mul_of_nonneg_right ?_ unit.le
      calc (digits : ℚ) * 10 ^ exponent ≤ 10 ^ (length : Int) * 10 ^ exponent := by
            refine mul_le_mul_of_nonneg_right ?_ (by positivity)
            rw [zpow_natCast]
            exact_mod_cast below.le
        _ = 10 ^ (length + exponent) := (zpow_add₀ (by norm_num) _ _).symm
        _ ≤ 10 ^ (-401 : Int) := zpow_le_zpow_right₀ (by norm_num) (by omega)
    have near : 2 * (10 ^ (-401 : Int) * one : ℚ) < 1 := by
      have less : 2 * one < 10 ^ 401 := by decide +kernel
      have cast : (2 * one : ℚ) < 10 ^ 401 := by exact_mod_cast less
      rw [zpow_neg, mul_left_comm, inv_mul_lt_iff₀ (by positivity), mul_one]
      exact cast
    have reached := h.low.trans bound
    generalize (10 ^ (-401 : Int) * one : ℚ) = small at near reached
    linarith only [reached, near, short, shorter, atLeast]

/-- Digits that are not far out of range are read as a quotient of units. -/
theorem ofDecimal_eq (positive : digits ≠ 0)
    (high : exponent + (Nat.toDigits 10 digits).length ≤ 400)
    (low : -400 ≤ exponent + (Nat.toDigits 10 digits).length) :
    ofDecimal negative digits exponent =
      ofUnitRatio negative (digits * unitsOf exponent) (raise exponent) := by
  rw [ofDecimal]
  simp only [if_neg positive, if_neg (Int.not_lt.mpr high), if_neg (Int.not_lt.mpr low)]
  rw [unitsOf, raise]
  by_cases whole : 0 ≤ exponent
  · rw [if_pos whole, if_pos whole, if_pos whole, ofRatio, Nat.mul_assoc, Nat.mul_comm _ one]
  · rw [if_neg whole, if_neg whole, if_neg whole, ofRatio]

/-- Digits that are nearest to a number are read as the number. -/
theorem ofDecimal_of_nearest (nonzero : 0 < units) (rep : Representable (.finite negative units))
    (positive : digits ≠ 0) (h : Nearest units (place digits exponent)) :
    ofDecimal negative digits exponent = .finite negative units := by
  obtain ⟨high, low⟩ := h.magnitude nonzero (representable_finite.mp rep).1 positive
  rw [place_eq] at h
  rw [ofDecimal_eq positive high low]
  exact ofUnitRatio_of_nearest (raise_pos exponent) nonzero rep h

/-- The shortest digits of a number are read as the number. -/
theorem ofDecimal_shortest (nonzero : 0 < units) (rep : Representable (.finite negative units)) :
    ofDecimal negative (shortest units).1 (shortest units).2 = .finite negative units := by
  obtain ⟨positive, nearest⟩ := shortest_nearest nonzero (representable_finite.mp rep).1
  exact ofDecimal_of_nearest nonzero rep positive nearest

end

end EventSieve.Number.Binary64
