import EventSieve.Number.Binary64
import Mathlib.Algebra.Order.Field.Rat
import Mathlib.Tactic.Linarith
import Mathlib.Tactic.Ring

/-!
# Rounding to binary floating point

A number of the format is the nearest one to all quotients of an interval around it. The interval
reaches half a step up and half a step down, where the step down from a power of two is half as
long, and its ends belong to it if the number is even.

## Main definitions

* `Binary64.Representable` — the numbers of the format
* `Binary64.Nearest` — the interval around a number

## Main statements

* `Binary64.ofUnitRatio_of_nearest` — the quotients of the interval are rounded to the number
* `Binary64.representable_ofUnitRatio` — what is rounded is a number of the format
-/
namespace EventSieve.Number

/-- A quotient is rounded to a whole number that it is at most one half away from, if the number is
even where it is one half away. -/
theorem roundDiv_eq {num den m : Nat} (positive : 0 < den) (low : 2 * (m * den) ≤ 2 * num + den)
    (high : 2 * num ≤ 2 * (m * den) + den)
    (tie : m % 2 = 1 → 2 * (m * den) < 2 * num + den ∧ 2 * num < 2 * (m * den) + den) :
    roundDiv num den = m := by
  have parts : num = num / den * den + num % den := by
    rw [Nat.mul_comm, Nat.div_add_mod]
  have rest := Nat.mod_lt num positive
  rw [roundDiv]
  generalize num / den = quotient at *
  generalize num % den = remainder at *
  -- the quotient is the whole number, or the one before it
  have near : quotient = m ∨ quotient + 1 = m := by
    rcases Nat.lt_trichotomy quotient m with less | same | more
    · right
      by_contra far
      have step : (quotient + 2) * den ≤ m * den := Nat.mul_le_mul_right den (by omega)
      rw [Nat.add_mul] at step
      omega
    · exact .inl same
    · have step : (m + 1) * den ≤ quotient * den := Nat.mul_le_mul_right den more
      rw [Nat.add_mul] at step
      omega
  rcases near with rfl | rfl
  · split
    · rfl
    · split
      · omega
      · split
        · rfl
        · omega
  · rw [Nat.add_mul] at low high tie
    split
    · omega
    · split
      · rfl
      · split
        · omega
        · rfl

/-- A quotient that is no larger than a whole number is not rounded beyond it. -/
theorem roundDiv_le {num den m : Nat} (positive : 0 < den) (le : num ≤ m * den) :
    roundDiv num den ≤ m := by
  have floor : num / den ≤ m := Nat.div_le_of_le_mul (Nat.mul_comm m den ▸ le)
  rw [roundDiv]
  rcases Nat.lt_or_eq_of_le floor with less | same
  · split
    · omega
    · split
      · omega
      · split <;> omega
  · have exact : num % den = 0 := by
      have parts := Nat.div_add_mod num den
      rw [same, Nat.mul_comm] at parts
      omega
    rw [exact, Nat.mul_zero, if_pos positive, same]

namespace Binary64

/-! ## Steps -/

theorem spacing_pos (units : Nat) : 0 < spacing units :=
  Nat.pow_pos (by decide)

theorem spacing_eq_one {units : Nat} (small : units < 2 ^ 53) : spacing units = 1 := by
  have bits : units.log2 ≤ 52 := by
    by_cases zero : units = 0
    · rw [zero]
      decide
    · exact Nat.le_of_lt_succ ((Nat.log2_lt zero).mpr small)
  rw [spacing, show units.log2 + 1 - 53 = 0 by omega]

/-- The step between the numbers with so many bits. -/
theorem spacing_eq {units bits : Nat} (low : 2 ^ bits ≤ units) (high : units < 2 ^ (bits + 1)) :
    spacing units = 2 ^ (bits + 1 - 53) := by
  have nonzero : units ≠ 0 := fun zero => by simp [zero] at low
  rw [spacing, (Nat.log2_eq_iff nonzero).mpr ⟨low, high⟩]
  rfl

/-- A number has at most 53 bits above the step at it. -/
theorem lt_mul_spacing (units : Nat) : units < 2 ^ 53 * spacing units := by
  refine Nat.lt_of_lt_of_le Nat.lt_log2_self ?_
  show 2 ^ (units.log2 + 1) ≤ 2 ^ 53 * 2 ^ (units.log2 + 1 - 53)
  rw [← Nat.pow_add]
  exact Nat.pow_le_pow_right (by decide) (by omega)

/-- The step down from a number, which is half as long from a power of two. -/
def stepBelow (units : Nat) : Nat :=
  if 1 < spacing units ∧ units = Nat.pow 2 units.log2 then spacing units / 2 else spacing units

theorem stepBelow_le (units : Nat) : stepBelow units ≤ spacing units := by
  rw [stepBelow]
  split
  · exact Nat.div_le_self _ _
  · exact Nat.le_refl _

/-! ## Numbers of the format -/

/-- The numbers of the format: a finite one is in range and has at most 53 significant bits. -/
def Representable (x : Binary64) : Prop :=
  ∀ negative units, x = .finite negative units → units < beyond ∧ spacing units ∣ units

theorem representable_finite {negative : Bool} {units : Nat} :
    Representable (.finite negative units) ↔ units < beyond ∧ spacing units ∣ units := by
  refine ⟨fun rep => rep negative units rfl, fun rep _ _ same => ?_⟩
  cases same
  exact rep

/-- The interval of the places, counted in units, that a number is the nearest one to. -/
structure Nearest (units : Nat) (place : ℚ) : Prop where
  low : units - stepBelow units / 2 ≤ place
  high : place ≤ units + spacing units / 2
  inside : units / spacing units % 2 = 1 →
    units - stepBelow units / 2 < place ∧ place < units + spacing units / 2

section
variable {units num den : Nat} {negative : Bool}

/-- A quotient is rounded to a multiple of the step at it that is at most half a step away. -/
theorem ofUnitRatio_eq {m : Nat} (positive : 0 < den) (range : m * spacing (num / den) < beyond)
    (low : 2 * (m * spacing (num / den) * den) ≤ 2 * num + spacing (num / den) * den)
    (high : 2 * num ≤ 2 * (m * spacing (num / den) * den) + spacing (num / den) * den)
    (tie : m % 2 = 1 →
      2 * (m * spacing (num / den) * den) < 2 * num + spacing (num / den) * den ∧
        2 * num < 2 * (m * spacing (num / den) * den) + spacing (num / den) * den) :
    ofUnitRatio negative num den = .finite negative (m * spacing (num / den)) := by
  have rounded : roundDiv num (den * spacing (num / den)) = m := by
    have same : m * (den * spacing (num / den)) = m * spacing (num / den) * den := by
      rw [Nat.mul_comm den, Nat.mul_assoc]
    refine roundDiv_eq (Nat.mul_pos positive (spacing_pos _)) ?_ ?_ ?_ <;>
      rw [same, Nat.mul_comm den]
    · exact low
    · exact high
    · exact tie
  rw [ofUnitRatio]
  simp only [rounded, if_pos range]

/-- The interval of a number, without fractions. -/
theorem Nearest.bounds (h : Nearest units (num / den)) (positive : 0 < den) :
    2 * (units * den) ≤ 2 * num + stepBelow units * den ∧
      2 * num ≤ 2 * (units * den) + spacing units * den ∧
      (units / spacing units % 2 = 1 →
        2 * (units * den) < 2 * num + stepBelow units * den ∧
          2 * num < 2 * (units * den) + spacing units * den) := by
  have denPositive : (0 : ℚ) < den := Nat.cast_pos.mpr positive
  have low := (le_div_iff₀ denPositive).mp h.low
  have high := (div_le_iff₀ denPositive).mp h.high
  refine ⟨?_, ?_, fun odd => ⟨?_, ?_⟩⟩
  · have scaled : (2 * (units * den) : ℚ) ≤ 2 * num + stepBelow units * den := by linarith
    exact_mod_cast scaled
  · have scaled : (2 * num : ℚ) ≤ 2 * (units * den) + spacing units * den := by linarith
    exact_mod_cast scaled
  · have low := (lt_div_iff₀ denPositive).mp (h.inside odd).1
    have scaled : (2 * (units * den) : ℚ) < 2 * num + stepBelow units * den := by linarith
    exact_mod_cast scaled
  · have high := (div_lt_iff₀ denPositive).mp (h.inside odd).2
    have scaled : (2 * num : ℚ) < 2 * (units * den) + spacing units * den := by linarith
    exact_mod_cast scaled

/-- A quotient where the step is that of a number is rounded to the number if it is nearest. -/
theorem ofUnitRatio_of_spacing (positive : 0 < den) (range : units < beyond)
    (whole : spacing units ∣ units) (h : Nearest units (num / den))
    (same : spacing (num / den) = spacing units) :
    ofUnitRatio negative num den = .finite negative units := by
  obtain ⟨low, high, inside⟩ := h.bounds positive
  obtain ⟨m, parts⟩ := whole
  have parts : units = m * spacing (num / den) := by rw [same, Nat.mul_comm, ← parts]
  have below := Nat.mul_le_mul_right den (stepBelow_le units)
  have count : units / spacing units = m := by
    rw [← same]
    exact Nat.div_eq_of_eq_mul_left (spacing_pos _) parts
  rw [← same] at below high inside
  rw [same, count, ← same] at inside
  have rounded := @ofUnitRatio_eq num den negative m positive
  rw [← parts] at rounded
  refine rounded range ?_ high fun odd => ?_
  · omega
  · obtain ⟨low, high⟩ := inside odd
    exact ⟨by omega, high⟩

/-- The quotients of the interval of a number with more than 53 bits are rounded to it: at them the
step is the same, or half as long if they are below a power of two. -/
theorem ofUnitRatio_of_bits {bits : Nat} (positive : 0 < den)
    (rep : Representable (.finite negative units)) (h : Nearest units (num / den))
    (low : 2 ^ (bits + 53) ≤ units) (high : units < 2 ^ (bits + 53 + 1)) :
    ofUnitRatio negative num den = .finite negative units := by
  obtain ⟨range, whole⟩ := representable_finite.mp rep
  obtain ⟨lower, upper, -⟩ := h.bounds positive
  have step : spacing units = 2 * 2 ^ bits := by
    rw [spacing_eq low high, show bits + 53 + 1 - 53 = bits + 1 by omega, Nat.pow_succ']
  have power : 2 ^ (bits + 53) = 2 ^ 53 * 2 ^ bits := by rw [Nat.pow_add, Nat.mul_comm]
  have nextPower : 2 ^ (bits + 53 + 1) = 2 * 2 ^ (bits + 53) := Nat.pow_succ'
  have divides : spacing units ∣ 2 ^ (bits + 53) := ⟨2 ^ 52, by rw [step, power]; ring⟩
  have stepDen : spacing units * den = 2 * (2 ^ bits * den) := by rw [step, Nat.mul_assoc]
  have powerDen : 2 ^ (bits + 53) * den = 2 ^ 53 * (2 ^ bits * den) := by
    rw [power, Nat.mul_assoc]
  have some : 0 < 2 ^ bits * den := Nat.mul_pos (Nat.two_pow_pos bits) positive
  have below : num / den < 2 ^ (bits + 53 + 1) := by
    -- between multiples of the step there is room for a step
    have room : units + spacing units ≤ 2 ^ (bits + 53 + 1) :=
      Nat.le_of_lt_add_of_dvd (Nat.add_lt_add_right high _) (Nat.dvd_add whole dvd_rfl)
        (nextPower ▸ divides.mul_left 2)
    have roomDen := Nat.mul_le_mul_right den room
    rw [Nat.add_mul] at roomDen
    rw [Nat.div_lt_iff_lt_mul positive]
    omega
  by_cases reached : 2 ^ (bits + 53) ≤ num / den
  · refine ofUnitRatio_of_spacing positive range whole h ?_
    rw [spacing_eq reached below, spacing_eq low high]
  · rw [Nat.le_div_iff_mul_le positive, Nat.not_le] at reached
    -- only from a power of two the interval reaches below the power
    have isPower : units = 2 ^ (bits + 53) := by
      refine Nat.le_antisymm (Nat.le_of_not_lt fun more => ?_) low
      have room : 2 ^ (bits + 53) + spacing units ≤ units :=
        Nat.le_of_lt_add_of_dvd (Nat.add_lt_add_right more _) (Nat.dvd_add divides dvd_rfl)
          whole
      have roomDen := Nat.mul_le_mul_right den room
      have shorter := Nat.mul_le_mul_right den (stepBelow_le units)
      rw [Nat.add_mul] at roomDen
      omega
    have half : stepBelow units = 2 ^ bits := by
      have long : 1 < spacing units := by
        have := Nat.two_pow_pos bits
        omega
      have exact : units = Nat.pow 2 units.log2 := by
        rw [isPower, Nat.log2_two_pow]
        rfl
      rw [stepBelow, if_pos ⟨long, exact⟩, step, Nat.mul_div_cancel_left _ (by decide)]
    rw [half, isPower, powerDen] at lower
    have halfDen : 2 ^ (bits + 52) * den = 2 ^ 52 * (2 ^ bits * den) := by
      rw [Nat.pow_add, Nat.mul_comm (2 ^ bits), Nat.mul_assoc]
    have shorter : spacing (num / den) = 2 ^ bits := by
      refine @spacing_eq (num / den) (bits + 52) ?_ ?_
      · rw [Nat.le_div_iff_mul_le positive]
        omega
      · rw [Nat.div_lt_iff_lt_mul positive]
        omega
    have parts : 2 ^ 53 * spacing (num / den) = units := by rw [shorter, ← power, isPower]
    rw [← parts] at range ⊢
    refine ofUnitRatio_eq positive range ?_ ?_ fun odd => absurd odd (by decide)
    · rw [parts, shorter, isPower, powerDen]
      exact lower
    · rw [parts, shorter, isPower]
      omega

/-- The quotients of the interval of a number are rounded to it. -/
theorem ofUnitRatio_of_nearest (positive : 0 < den) (nonzero : 0 < units)
    (rep : Representable (.finite negative units)) (h : Nearest units (num / den)) :
    ofUnitRatio negative num den = .finite negative units := by
  have bounds := (Nat.log2_eq_iff nonzero.ne').mp (Eq.refl units.log2)
  by_cases small : units < 2 ^ 53
  · have step := spacing_eq_one small
    obtain ⟨range, whole⟩ := representable_finite.mp rep
    refine ofUnitRatio_of_spacing positive range whole h ?_
    have high := (h.bounds positive).2.1
    rw [step] at high ⊢
    refine spacing_eq_one (Nat.lt_of_le_of_lt ?_ small)
    refine Nat.le_of_lt_succ (Nat.div_lt_of_lt_mul ?_)
    rw [Nat.mul_succ, Nat.mul_comm]
    omega
  · have large : 53 ≤ units.log2 := (Nat.le_log2 nonzero.ne').mpr (Nat.le_of_not_lt small)
    obtain ⟨bits, many⟩ := Nat.exists_eq_add_of_le' large
    rw [many] at bounds
    exact ofUnitRatio_of_bits positive rep h bounds.1 bounds.2

/-- What is rounded is a number of the format. -/
theorem representable_ofUnitRatio (positive : 0 < den) :
    Representable (ofUnitRatio negative num den) := by
  generalize bits : (num / den).log2 + 1 - 53 = more
  have step : spacing (num / den) = 2 ^ more := by rw [← bits]; rfl
  have count : roundDiv num (den * 2 ^ more) ≤ 2 ^ 53 := by
    refine roundDiv_le (Nat.mul_pos positive (Nat.two_pow_pos more)) ?_
    have below : num / den < 2 ^ (53 + more) :=
      Nat.lt_of_lt_of_le Nat.lt_log2_self (Nat.pow_le_pow_right (by decide) (by omega))
    rw [Nat.div_lt_iff_lt_mul positive, Nat.pow_add, Nat.mul_assoc, Nat.mul_comm (2 ^ more)]
      at below
    exact Nat.le_of_lt below
  have whole : spacing (roundDiv num (den * 2 ^ more) * 2 ^ more) ∣
      roundDiv num (den * 2 ^ more) * 2 ^ more := by
    generalize roundDiv num (den * 2 ^ more) = m at *
    rcases Nat.lt_or_eq_of_le count with less | rfl
    · refine Nat.dvd_trans (Nat.pow_dvd_pow 2 ?_) (Nat.dvd_mul_left _ _)
      by_cases zero : m * 2 ^ more = 0
      · rw [zero]
        exact Nat.zero_le _
      · have below : m * 2 ^ more < 2 ^ (53 + more) := by
          rw [Nat.pow_add]
          exact Nat.mul_lt_mul_of_pos_right less (Nat.two_pow_pos more)
        have bound := (Nat.log2_lt zero).mpr below
        omega
    · rw [← Nat.pow_add, spacing, Nat.log2_two_pow]
      exact Nat.pow_dvd_pow 2 (by omega)
  rw [ofUnitRatio, step]
  rcases Nat.lt_or_ge (roundDiv num (den * 2 ^ more) * 2 ^ more) beyond with range | range
  · rw [if_pos range, representable_finite]
    exact ⟨range, whole⟩
  · rw [if_neg (Nat.not_lt.mpr range)]
    exact nofun

end

end Binary64

end EventSieve.Number
