import EventSieve.Instant.Calendar
import Mathlib.Tactic.IntervalCases

/-!
# Day counts

Every day count is the count of the date that it is taken for, and that date is one of the calendar.
An era of 400 years has three centuries of 36524 days and one of 36525, a century has 24 cycles of
1461 days and one more that may be a day shorter, and a cycle has three years of 365 days and one
more that may have a leap day at its end.

## Main definitions

* `Date.OfEra` — a day of an era by its century, cycle, year and day of the year

## Main statements

* `Date.days_ofDays` — a day count is that of its date
* `Date.isValid_ofDays` — the date of a day count is a date of the calendar
-/
namespace EventSieve.Instant.Date

/-- A day of an era that begins in March, by its century, its cycle of four years, its year and its
day of the year. Only the last year of a cycle has a leap day, and only the last cycle of an era
has one at the end of a century. -/
structure OfEra (day century cycle year dayOfYear : Int) : Prop where
  centuries : 0 ≤ century ∧ century ≤ 3
  cycles : 0 ≤ cycle ∧ cycle ≤ 24
  years : 0 ≤ year ∧ year ≤ 3
  days : 0 ≤ dayOfYear ∧ dayOfYear ≤ 365
  leap : dayOfYear = 365 → year = 3 ∧ (cycle = 24 → century = 3)
  sum : day = 36524 * century + 1461 * cycle + 365 * year + dayOfYear

theorem exists_ofEra {day : Int} (low : 0 ≤ day) (high : day < 146097) :
    ∃ century cycle year dayOfYear, OfEra day century cycle year dayOfYear := by
  obtain ⟨century, hc⟩ : ∃ c, c = min (day / 36524) 3 := ⟨_, rfl⟩
  obtain ⟨ofCentury, hd⟩ : ∃ d, d = day - 36524 * century := ⟨_, rfl⟩
  obtain ⟨cycle, hq⟩ : ∃ q, q = ofCentury / 1461 := ⟨_, rfl⟩
  obtain ⟨ofCycle, he⟩ : ∃ e, e = ofCentury - 1461 * cycle := ⟨_, rfl⟩
  obtain ⟨year, hy⟩ : ∃ y, y = min (ofCycle / 365) 3 := ⟨_, rfl⟩
  refine ⟨century, cycle, year, ofCycle - 365 * year, ?_, ?_, ?_, ?_, ?_, ?_⟩ <;> omega

section
variable {day century cycle year dayOfYear : Int} (parts : OfEra day century cycle year dayOfYear)

include parts

/-- The year of the era is found from the day by divisions only. -/
theorem OfEra.year_eq : (day - day / 1460 + day / 36524 - day / 146096) / 365 =
    100 * century + 4 * cycle + year := by
  obtain ⟨centuries, cycles, years, days, leap, sum⟩ := parts
  by_cases last : day = 146096
  · omega
  · have first : day / 36524 = century := by omega
    have whole : day / 146096 = 0 := by omega
    -- a day in the last year of a cycle may count as one of the next cycle
    by_cases late : 1460 ≤ 24 * century + cycle + 365 * year + dayOfYear
    · have more : day / 1460 = 25 * century + cycle + 1 := by omega
      omega
    · have few : day / 1460 = 25 * century + cycle := by omega
      omega

theorem OfEra.dayOfYear_eq : let y := 100 * century + 4 * cycle + year
    day - (365 * y + y / 4 - y / 100) = dayOfYear := by
  obtain ⟨centuries, cycles, years, days, leap, sum⟩ := parts
  have fours : (100 * century + 4 * cycle + year) / 4 = 25 * century + cycle := by omega
  have hundreds : (100 * century + 4 * cycle + year) / 100 = century := by omega
  intro y
  omega

theorem OfEra.isLeapYear (leap : dayOfYear = 365) (era : Int) :
    isLeapYear (100 * century + 4 * cycle + year + era * 400 + 1) = true := by
  obtain ⟨centuries, cycles, -, -, onlyLast, -⟩ := parts
  obtain ⟨last, centuryEnd⟩ := onlyLast leap
  have fours : (100 * century + 4 * cycle + year + era * 400 + 1) % 4 = 0 := by omega
  have hundreds : (100 * century + 4 * cycle + year + era * 400 + 1) % 100 ≠ 0 ∨
      (100 * century + 4 * cycle + year + era * 400 + 1) % 400 = 0 := by omega
  rw [Instant.isLeapYear, Bool.and_eq_true, Bool.or_eq_true, bne_iff_ne, beq_iff_eq, beq_iff_eq]
  exact ⟨fours, hundreds⟩

end

/-! ## Years that begin in March -/

/-- The date of a day in a year that begins in March. -/
def ofMarch (year dayOfYear : Int) : Date :=
  let monthFromMarch := (5 * dayOfYear + 2) / 153
  let month := if monthFromMarch < 10 then monthFromMarch + 3 else monthFromMarch - 9
  ⟨if month ≤ 2 then year + 1 else year, month.toNat,
    (dayOfYear - (153 * monthFromMarch + 2) / 5 + 1).toNat⟩

section
variable {year dayOfYear : Int} (low : 0 ≤ dayOfYear) (high : dayOfYear ≤ 365)

include low high

/-- The months of a year that begins in March, and the days of each. -/
theorem ofMarch_isValid (leap : dayOfYear = 365 → isLeapYear (year + 1) = true) :
    1 ≤ (ofMarch year dayOfYear).month ∧ (ofMarch year dayOfYear).month ≤ 12 ∧
      1 ≤ (ofMarch year dayOfYear).day ∧ (ofMarch year dayOfYear).day ≤
        daysInMonth (ofMarch year dayOfYear).year (ofMarch year dayOfYear).month := by
  rw [ofMarch]
  obtain ⟨m, month⟩ : ∃ m, m = (5 * dayOfYear + 2) / 153 := ⟨_, rfl⟩
  rw [← month]
  have first : 0 ≤ m := by omega
  have last : m ≤ 11 := by omega
  by_cases february : m = 11
  · subst february
    simp only [daysInMonth]
    by_cases leapDay : dayOfYear = 365
    · subst leapDay
      simp [leap]
    · simp
      split <;> omega
  · interval_cases m <;> simp [daysInMonth] <;> omega

theorem days_ofMarch : (ofMarch year dayOfYear).days =
    year / 400 * 146097 + ((year - year / 400 * 400) * 365 + (year - year / 400 * 400) / 4 -
      (year - year / 400 * 400) / 100 + dayOfYear) - 719468 := by
  obtain ⟨m, count⟩ : ∃ m, m = (5 * dayOfYear + 2) / 153 := ⟨_, rfl⟩
  have first : 0 ≤ m := by omega
  have last : m ≤ 11 := by omega
  have begin : (if (ofMarch year dayOfYear).month ≤ 2 then (ofMarch year dayOfYear).year - 1
      else (ofMarch year dayOfYear).year) = year := by
    simp only [ofMarch, ← count]
    split_ifs <;> omega
  have month : (((ofMarch year dayOfYear).month : Int) + 9) % 12 = m := by
    simp only [ofMarch, ← count]
    split_ifs <;> omega
  have day : (153 * m + 2) / 5 + ((ofMarch year dayOfYear).day : Int) - 1 = dayOfYear := by
    simp only [ofMarch, ← count]
    omega
  rw [days]
  simp only [begin, month, day]

end

section
variable {day century cycle year dayOfYear : Int} (parts : OfEra day century cycle year dayOfYear)
  (era : Int)

include parts

theorem OfEra.days_ofMarch :
    (ofMarch (100 * century + 4 * cycle + year + era * 400) dayOfYear).days =
      era * 146097 + day - 719468 := by
  obtain ⟨centuries, cycles, years, days, leap, sum⟩ := parts
  have eras : (100 * century + 4 * cycle + year + era * 400) / 400 = era := by omega
  have rest : 100 * century + 4 * cycle + year + era * 400 - era * 400 =
      100 * century + 4 * cycle + year := by omega
  have fours : (100 * century + 4 * cycle + year) / 4 = 25 * century + cycle := by omega
  have hundreds : (100 * century + 4 * cycle + year) / 100 = century := by omega
  rw [Date.days_ofMarch days.1 days.2, eras, rest, fours, hundreds]
  omega

end

/-! ## Dates of day counts -/

/-- A day count and the day of its era. -/
theorem ofDays_eq (n : Int) : ∃ era day century cycle year dayOfYear,
    n = era * 146097 + day - 719468 ∧ OfEra day century cycle year dayOfYear ∧
      ofDays n = ofMarch (100 * century + 4 * cycle + year + era * 400) dayOfYear := by
  obtain ⟨century, cycle, year, dayOfYear, parts⟩ :=
    @exists_ofEra (n + 719468 - (n + 719468) / 146097 * 146097) (by omega) (by omega)
  refine ⟨(n + 719468) / 146097, _, century, cycle, year, dayOfYear, ?_, parts, ?_⟩
  · omega
  · rw [ofDays]
    simp only [parts.year_eq, parts.dayOfYear_eq]
    rfl

/-- A day count is that of its date. -/
theorem days_ofDays (n : Int) : (ofDays n).days = n := by
  obtain ⟨era, day, century, cycle, year, dayOfYear, count, parts, same⟩ := ofDays_eq n
  rw [same, parts.days_ofMarch, count]

/-- The date of a day count is a date of the calendar. -/
theorem isValid_ofDays (n : Int) : 1 ≤ (ofDays n).month ∧ (ofDays n).month ≤ 12 ∧
    1 ≤ (ofDays n).day ∧ (ofDays n).day ≤ daysInMonth (ofDays n).year (ofDays n).month := by
  obtain ⟨era, day, century, cycle, year, dayOfYear, -, parts, same⟩ := ofDays_eq n
  rw [same]
  exact ofMarch_isValid parts.days.1 parts.days.2 fun leap => parts.isLeapYear leap era

theorem of?_ofDays {n : Int} (range : yearInRange (ofDays n).year = true) :
    of? (ofDays n).year (ofDays n).month (ofDays n).day = some (ofDays n) :=
  if_pos ⟨range, isValid_ofDays n⟩

theorem daysInMonth_le (year : Int) (month : Nat) : daysInMonth year month ≤ 31 := by
  rw [daysInMonth]
  split
  · split <;> decide
  · split <;> decide

/-- The years from the first day of the count on have at most four digits for a long time. -/
theorem year_ofDays {n : Int} (low : 0 ≤ n + 719468) (high : n + 719468 < 9999 * 365) :
    0 ≤ (ofDays n).year ∧ (ofDays n).year < 10000 := by
  obtain ⟨era, day, century, cycle, year, dayOfYear, count, parts, same⟩ := ofDays_eq n
  obtain ⟨centuries, cycles, years, days, leap, sum⟩ := parts
  have near : 100 * century + 4 * cycle + year + era * 400 ≤ (ofDays n).year ∧
      (ofDays n).year ≤ 100 * century + 4 * cycle + year + era * 400 + 1 := by
    rw [same, ofMarch]
    simp only
    split <;> omega
  omega

end EventSieve.Instant.Date
