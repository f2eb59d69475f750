/-!
# The calendar

Dates of the proleptic Gregorian calendar, counted in days from 1970-01-01.

Days are counted within eras of 400 years that begin on the first of March, so that the leap
day is the last day of its year.

## Main definitions

* `Date` — a year, a month and a day
* `Date.days`, `Date.ofDays` — a date as a day count and back
* `Date.weekday`, `Date.ordinal`, `Date.isoWeek` — where a date stands in its week and its year
-/
namespace EventSieve.Instant

/-- A date of the Gregorian calendar. -/
structure Date where
  year : Int
  month : Nat
  day : Nat
deriving DecidableEq, Repr

/-- Whether a year has a leap day. -/
def isLeapYear (year : Int) : Bool :=
  year % 4 == 0 && (year % 100 != 0 || year % 400 == 0)

/-- The number of days of a month. -/
def daysInMonth (year : Int) (month : Nat) : Nat :=
  if month = 2 then (if isLeapYear year then 29 else 28)
  else if month = 4 ∨ month = 6 ∨ month = 9 ∨ month = 11 then 30
  else 31

/-- The number of days of a year. -/
def daysInYear (year : Int) : Nat :=
  if isLeapYear year then 366 else 365

/-- The years that dates are kept in. -/
def yearInRange (year : Int) : Bool :=
  -262143 ≤ year && year ≤ 262142

namespace Date

/-- The date of a year, a month and a day, if there is one. -/
def of? (year : Int) (month day : Nat) : Option Date :=
  if yearInRange year ∧ 1 ≤ month ∧ month ≤ 12 ∧ 1 ≤ day ∧ day ≤ daysInMonth year month then
    some ⟨year, month, day⟩
  else none

/-- The days from 1970-01-01 to a date. -/
def days (date : Date) : Int :=
  let year := if date.month ≤ 2 then date.year - 1 else date.year
  let era := year / 400
  let yearOfEra := year - era * 400
  let monthFromMarch : Int := ((date.month : Int) + 9) % 12
  let dayOfYear := (153 * monthFromMarch + 2) / 5 + (date.day : Int) - 1
  let dayOfEra := yearOfEra * 365 + yearOfEra / 4 - yearOfEra / 100 + dayOfYear
  era * 146097 + dayOfEra - 719468

/-- The date that is some days after 1970-01-01. -/
def ofDays (days : Int) : Date :=
  let shifted := days + 719468
  let era := shifted / 146097
  let dayOfEra := shifted - era * 146097
  let yearOfEra :=
    (dayOfEra - dayOfEra / 1460 + dayOfEra / 36524 - dayOfEra / 146096) / 365
  let dayOfYear := dayOfEra - (365 * yearOfEra + yearOfEra / 4 - yearOfEra / 100)
  let monthFromMarch := (5 * dayOfYear + 2) / 153
  let day := dayOfYear - (153 * monthFromMarch + 2) / 5 + 1
  let month := if monthFromMarch < 10 then monthFromMarch + 3 else monthFromMarch - 9
  let year := yearOfEra + era * 400
  ⟨if month ≤ 2 then year + 1 else year, month.toNat, day.toNat⟩

/-- The day of the week, Monday being 0. -/
def weekday (date : Date) : Nat :=
  ((date.days + 3) % 7).toNat

/-- The day of the year, from 1 on. -/
def ordinal (date : Date) : Nat :=
  (date.days - days ⟨date.year, 1, 1⟩ + 1).toNat

/-- The date of a year that is its given day, if the year has it. -/
def ofOrdinal? (year : Int) (ordinal : Nat) : Option Date :=
  if yearInRange year ∧ 1 ≤ ordinal ∧ ordinal ≤ daysInYear year then
    some (ofDays (days ⟨year, 1, 1⟩ + ordinal - 1))
  else none

/-- The number of the week in the year, where week 1 begins on the first day of the week that
is `first`, Monday being 0, and the days before it are in week 0. -/
def weekFrom (first : Nat) (date : Date) : Nat :=
  (date.ordinal + 6 - (date.weekday + 7 - first) % 7) / 7

/-- The number of ISO weeks of a year. -/
def isoWeeks (year : Int) : Nat :=
  let first := weekday ⟨year, 1, 1⟩
  if first = 3 ∨ (first = 2 ∧ isLeapYear year) then 53 else 52

/-- The ISO year and week of a date. -/
def isoWeek (date : Date) : Int × Nat :=
  let week := (date.ordinal + 9 - date.weekday) / 7
  if week < 1 then (date.year - 1, isoWeeks (date.year - 1))
  else if isoWeeks date.year < week then (date.year + 1, 1)
  else (date.year, week)

/-- The date of an ISO year, week and day of the week, Monday being 0, if the year has it. -/
def ofIsoWeek? (year : Int) (week weekday : Nat) : Option Date :=
  if 1 ≤ week ∧ week ≤ isoWeeks year ∧ yearInRange year then
    let fourth := days ⟨year, 1, 4⟩
    let monday := fourth - (fourth + 3) % 7
    let date := ofDays (monday + (week - 1) * 7 + weekday)
    if yearInRange date.year then some date else none
  else none

end Date
end EventSieve.Instant
