import EventSieve.Instant.Calendar
import EventSieve.Instant.Rfc3339

/-!
# Fields of a date and a time

A text read by a template gives some fields: a year, the day of a year, an hour of a half day
and so on. This module finds the date and the time that have all of them.

A field given twice has to be the same both times. The date follows from the first of these
that is complete: year, month and day; year and day of the year; year, week and weekday; ISO
year, week and weekday. Every other field has to agree with it.

## Main definitions

* `Field` — the kinds of fields, with the values each may have
* `Fields` — the fields read so far
* `Fields.date?`, `Fields.moment?` — the date, and the date with its time
-/
namespace EventSieve.Instant

/-- The kinds of fields. -/
inductive Field where
  | year | century | yearOfCentury
  | isoYear | isoCentury | isoYearOfCentury
  | quarter | month | day | ordinal
  | weekFromSunday | weekFromMonday | isoWeek | weekday
  | halfDay | hourOfHalf | minute | second | nanosecond
  | epochSecond | offset
deriving DecidableEq, Repr

/-- The least and the greatest value of a field. -/
def Field.bounds : Field → Int × Int
  | year | isoYear | offset => (-2147483648, 2147483647)
  | century | isoCentury => (0, 2147483647)
  | yearOfCentury | isoYearOfCentury => (0, 99)
  | quarter => (1, 4)
  | month => (1, 12)
  | day => (1, 31)
  | ordinal => (1, 366)
  | weekFromSunday | weekFromMonday => (0, 53)
  | isoWeek => (1, 53)
  | weekday => (0, 6)
  | halfDay => (0, 1)
  | hourOfHalf => (0, 11)
  | minute => (0, 59)
  | second => (0, 60)
  | nanosecond => (0, 999999999)
  | epochSecond => (-9223372036854775808, 9223372036854775807)

/-- The fields read so far. -/
abbrev Fields := List (Field × Int)

/-- Why fields give no date or no time: some are missing, or there is none that has them all. -/
inductive FieldError where
  | incomplete
  | contradictory
deriving DecidableEq, Repr

namespace Fields

/-- The value of a field. -/
def get? (fields : Fields) (field : Field) : Option Int :=
  fields.lookup field

/-- The fields with one more; it has to be in its bounds and the same as before. -/
def put? (fields : Fields) (field : Field) (value : Int) : Option Fields :=
  if field.bounds.1 ≤ value ∧ value ≤ field.bounds.2 then
    match fields.get? field with
    | some old => if old = value then some fields else none
    | none => some ((field, value) :: fields)
  else none

/-- Whether a field is missing or has a value. -/
def agrees (fields : Fields) (field : Field) (value : Int) : Bool :=
  match fields.get? field with
  | some given => given == value
  | none => true

/-- The year that a full year, a century and a year of the century give, if they give one. Two
digits alone are of 1970 to 2069. -/
def resolveYear (whole hundreds ones : Option Int) : Except FieldError (Option Int) :=
  match whole, hundreds, ones with
  | y, none, none => .ok y
  | some y, c, r =>
    if 0 ≤ y ∧ c.getD (y / 100) = y / 100 ∧ r.getD (y % 100) = y % 100 then .ok (some y)
    else .error .contradictory
  | none, some c, some r =>
    if c * 100 + r ≤ 2147483647 then .ok (some (c * 100 + r)) else .error .contradictory
  | none, none, some r => .ok (some (r + if r < 70 then 2000 else 1900))
  | none, some _, none => .error .incomplete

/-- Whether a century and a year of the century agree with a year; only years from 0 on have
them. -/
def agreesWithYear (fields : Fields) (hundreds ones : Field) (y : Int) : Bool :=
  if 0 ≤ y then fields.agrees hundreds (y / 100) && fields.agrees ones (y % 100)
  else (fields.get? hundreds).isNone && (fields.get? ones).isNone

/-- Whether the year, the month and the day agree with a date. -/
def agreesWithDay (fields : Fields) (date : Date) : Bool :=
  fields.agrees .year date.year &&
    fields.agreesWithYear .century .yearOfCentury date.year &&
    fields.agrees .month date.month && fields.agrees .day date.day

/-- Whether the ISO week and the weekday agree with a date. -/
def agreesWithIsoWeek (fields : Fields) (date : Date) : Bool :=
  fields.agrees .isoYear date.isoWeek.1 &&
    fields.agreesWithYear .isoCentury .isoYearOfCentury date.isoWeek.1 &&
    fields.agrees .isoWeek date.isoWeek.2 && fields.agrees .weekday date.weekday

/-- Whether the day of the year and the weeks of the year agree with a date. -/
def agreesWithOrdinal (fields : Fields) (date : Date) : Bool :=
  fields.agrees .ordinal date.ordinal &&
    fields.agrees .weekFromSunday (date.weekFrom 6) &&
    fields.agrees .weekFromMonday (date.weekFrom 0)

/-- Whether the quarter agrees with a date. -/
def agreesWithQuarter (fields : Fields) (date : Date) : Bool :=
  fields.agrees .quarter (((date.month : Int) - 1) / 3 + 1)

/-- Whether every field of a date agrees with it. -/
def agreesWith (fields : Fields) (date : Date) : Bool :=
  fields.agreesWithDay date && fields.agreesWithIsoWeek date &&
    fields.agreesWithOrdinal date && fields.agreesWithQuarter date

/-- The date in a week of a year, where weeks begin on `first`, Monday being 0. -/
def dateInWeek? (year week weekday : Int) (first : Int) : Option Date := do
  let start ← Date.ofOrdinal? year 1
  let firstWeek := 1 + (first - start.weekday) % 7
  let ordinal := firstWeek + (week - 1) * 7 + (weekday - first) % 7
  if 0 < ordinal then Date.ofOrdinal? year ordinal.toNat else none

/-- The date that the complete fields name, before the others are compared with it. -/
def candidate? (fields : Fields) : Except FieldError Date := do
  let year ← resolveYear (fields.get? .year) (fields.get? .century) (fields.get? .yearOfCentury)
  let isoYear ← resolveYear (fields.get? .isoYear) (fields.get? .isoCentury)
    (fields.get? .isoYearOfCentury)
  let found : Option (Option Date) :=
    (do return Date.of? (← year) (← fields.get? .month).toNat (← fields.get? .day).toNat)
    <|> (do return Date.ofOrdinal? (← year) (← fields.get? .ordinal).toNat)
    <|> (do return dateInWeek? (← year) (← fields.get? .weekFromSunday)
              (← fields.get? .weekday) 6)
    <|> (do return dateInWeek? (← year) (← fields.get? .weekFromMonday)
              (← fields.get? .weekday) 0)
    <|> (do return Date.ofIsoWeek? (← isoYear) (← fields.get? .isoWeek).toNat
              (← fields.get? .weekday).toNat)
  match found with
  | none => throw .incomplete
  | some none => throw .contradictory
  | some (some date) => return date

/-- The date that has all fields of a date. -/
def date? (fields : Fields) : Except FieldError Date := do
  let date ← fields.candidate?
  if fields.agreesWith date then return date else throw .contradictory

/-- The second of the day and the nanoseconds; these need a second, and a second needs none. -/
def time? (fields : Fields) : Except FieldError (Nat × Nat) :=
  match fields.get? .halfDay, fields.get? .hourOfHalf, fields.get? .minute with
  | some half, some hour, some minute =>
    let nano := (fields.get? .nanosecond).getD 0
    if (fields.get? .nanosecond).isSome ∧ (fields.get? .second).isNone then .error .incomplete
    else
      let second := ((fields.get? .second).getD 0).toNat
      match clock? (half * 12 + hour).toNat minute.toNat second with
      | some (ofDay, leap) => .ok (ofDay, leap + nano.toNat)
      | none => .error .contradictory
  | _, _, _ => .error .incomplete

/-- The seconds from the start of 1970. -/
def epochSeconds (date : Date) (ofDay : Nat) : Int :=
  date.days * 86400 + ofDay

/-- The fields with the date and the time of a count of seconds, which have to agree with those
given. A second of 60 stands for the second after 59. -/
def fillFrom? (fields : Fields) (seconds : Int) : Option Fields := do
  let leap := fields.get? .second == some 60
  let seconds ←
    if leap then
      if seconds % 60 = 59 then some seconds
      else if seconds % 60 = 0 then some (seconds - 1)
      else none
    else some seconds
  let date := Date.ofDays (seconds / 86400)
  let ofDay := seconds % 86400
  let hour := ofDay / 3600
  if yearInRange date.year then
    let fields ← if leap then some fields else fields.put? .second (seconds % 60)
    let fields ← fields.put? .year date.year
    let fields ← fields.put? .ordinal date.ordinal
    let fields ← fields.put? .halfDay (hour / 12)
    let fields ← fields.put? .hourOfHalf (hour % 12)
    fields.put? .minute (ofDay / 60 % 60)
  else none

/-- The instant of fields that name a date and a time; a count of seconds names both. -/
def moment? (fields : Fields) : Option Int :=
  match fields.date?, fields.time? with
  | .ok date, .ok (ofDay, nano) =>
    let seconds := epochSeconds date ofDay
    let agreed :=
      match fields.get? .epochSecond with
      | none => true
      | some given =>
        given == seconds || (decide (1000000000 ≤ nano) && given == seconds + 1)
    if agreed then some (ofParts date.days ofDay nano) else none
  | .error .contradictory, _ => none
  | _, .error .contradictory => none
  | _, _ => do
    let fields ← fields.fillFrom? (← fields.get? .epochSecond)
    match fields.date?, fields.time? with
    | .ok date, .ok (ofDay, nano) => some (ofParts date.days ofDay nano)
    | _, _ => none

end Fields
end EventSieve.Instant
