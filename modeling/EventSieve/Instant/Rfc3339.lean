import EventSieve.Instant.Calendar
import EventSieve.Number.Digits
import EventSieve.Text.Blank

/-!
# RFC 3339 timestamps

An instant is a number of nanoseconds from the start of 1970 in universal time. It is written
as `2024-01-05T10:00:00.000000000Z`; it is read with any number of digits after the second, with
`t` or a blank in place of the `T`, and with an offset from universal time.

## Main definitions

* `timestampText` — an instant as text
* `readTimestamp?` — the instant of a text
-/
namespace EventSieve.Instant

/-- The nanoseconds of a second. -/
def perSecond : Int := 1000000000

/-- The instant of a day count, a second of the day and nanoseconds. -/
def ofParts (days : Int) (second nano : Nat) : Int :=
  (days * 86400 + second) * perSecond + nano

/-- Decimal digits with zeros before them up to a width. -/
def padded (width n : Nat) : List Char :=
  let digits := Nat.toDigits 10 n
  List.replicate (width - digits.length) '0' ++ digits

/-- The characters of an instant: date, time, nine digits of the second, and `Z`. -/
def timestampChars (nanos : Int) : List Char :=
  let seconds := nanos / perSecond
  let nano := (nanos % perSecond).toNat
  let date := Date.ofDays (seconds / 86400)
  let ofDay := (seconds % 86400).toNat
  padded 4 date.year.toNat ++ '-' :: padded 2 date.month ++ '-' :: padded 2 date.day ++
    'T' :: padded 2 (ofDay / 3600) ++ ':' :: padded 2 (ofDay / 60 % 60) ++
    ':' :: padded 2 (ofDay % 60) ++ '.' :: padded 9 nano ++ ['Z']

/-- An instant as text. -/
def timestampText (nanos : Int) : String :=
  String.ofList (timestampChars nanos)

/-! ## Reading -/

/-- A number of exactly `width` digits at the start, and the rest. -/
def takeDigits? (width : Nat) (cs : List Char) : Option (Nat × List Char) :=
  let digits := cs.take width
  if digits.length = width ∧ digits.all Char.isDigit then
    (Number.readRadix? 10 digits).map fun n => (n, cs.drop width)
  else none

/-- The rest after a given character. -/
def skip? (c : Char) : List Char → Option (List Char)
  | d :: rest => if c = d then some rest else none
  | [] => none

/-- The nanoseconds of the digits after a point; those after the ninth do not count. -/
def takeFraction? (cs : List Char) : Option (Nat × List Char) :=
  let kept := (cs.takeWhile Char.isDigit).take 9
  (Number.readRadix? 10 kept).map fun n =>
    (n * Nat.pow 10 (9 - kept.length), cs.dropWhile Char.isDigit)

/-- The minutes of an offset, which may be missing where `optional` says so. -/
def takeOffsetMinutes? (optional : Bool) (cs : List Char) : Option (Nat × List Char) :=
  match cs with
  | a :: b :: rest =>
    if '0' ≤ a ∧ a ≤ '5' ∧ b.isDigit then
      some ((a.toNat - 48) * 10 + (b.toNat - 48), rest)
    else none
  | [] => if optional then some (0, []) else none
  | [_] => none

/-- An offset from universal time in seconds: `Z` for none, if `zulu` allows it, or a sign,
two digits of hours, what `separator` takes, and two digits of minutes. -/
def takeOffset? (separator : List Char → Option (List Char)) (zulu minutesOptional : Bool)
    (cs : List Char) : Option (Int × List Char) :=
  match cs with
  | [] => none
  | sign :: rest =>
    if zulu ∧ (sign = 'Z' ∨ sign = 'z') then some (0, rest)
    else if sign = '+' ∨ sign = '-' ∨ sign = '−' then do
      let (hours, rest) ← takeDigits? 2 rest
      let rest ← separator rest
      let (minutes, rest) ← takeOffsetMinutes? minutesOptional rest
      let seconds : Int := hours * 3600 + minutes * 60
      return (if sign = '+' then seconds else -seconds, rest)
    else none

/-- The second of the day of a clock reading and the nanoseconds that a leap second adds, if the
reading is one of a day. -/
def clock? (hour minute second : Nat) : Option (Nat × Nat) :=
  if hour ≤ 23 ∧ minute ≤ 59 then
    if second ≤ 59 then some (hour * 3600 + minute * 60 + second, 0)
    else if second = 60 then some (hour * 3600 + minute * 60 + 59, 1000000000)
    else none
  else none

/-- The instant of a text in RFC 3339 form. -/
def readTimestampChars? (cs : List Char) : Option Int := do
  let (year, cs) ← takeDigits? 4 cs
  let (month, cs) ← takeDigits? 2 (← skip? '-' cs)
  let (day, cs) ← takeDigits? 2 (← skip? '-' cs)
  let cs ← (skip? 'T' cs <|> skip? 't' cs <|> skip? ' ' cs)
  let (hour, cs) ← takeDigits? 2 cs
  let (minute, cs) ← takeDigits? 2 (← skip? ':' cs)
  let (second, cs) ← takeDigits? 2 (← skip? ':' cs)
  let (nano, cs) ←
    match cs with
    | '.' :: rest => takeFraction? rest
    | _ => some (0, cs)
  let (offset, cs) ← takeOffset? (skip? ':') true false cs
  let date ← Date.of? year month day
  let (ofDay, leap) ← clock? hour minute second
  if cs.isEmpty ∧ offset.natAbs ≤ 86340 then
    return ofParts date.days ofDay (nano + leap) - offset * perSecond
  else none

/-- The instant of a text in RFC 3339 form. -/
def readTimestamp? (text : String) : Option Int :=
  readTimestampChars? text.toList

end EventSieve.Instant
