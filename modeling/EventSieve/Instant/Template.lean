import EventSieve.Instant.Fields
import EventSieve.Text.Blank

/-!
# Templates of dates and times

A template says how a date and a time are written: specifiers such as `%Y` stand for fields,
blanks for any number of blanks, and everything else for itself.

## Main definitions

* `Item` — one part of a template
* `Template.parse?` — the parts of a template, unless a specifier is unknown
* `Template.readMoment?`, `Template.readDate?` — the instant, or the date, of a text
-/
namespace EventSieve.Instant

/-- A number in a text, and what it says. -/
inductive Numeral where
  | field (field : Field)
  | hour
  | hourOfHalf
  | weekdayFromSunday
  | weekdayFromMonday
deriving DecidableEq, Repr

/-- One part of a template. -/
inductive Item where
  /-- These characters. -/
  | literal (text : List Char)
  /-- Any number of blanks. -/
  | blanks
  /-- Blanks and then up to `width` digits, with an optional sign and then any number of digits
  if `signed`. -/
  | numeral (numeral : Numeral) (width : Nat) (signed : Bool)
  /-- The short name of a month, or also the long one. -/
  | monthName (long : Bool)
  /-- The short name of a weekday, or also the long one. -/
  | weekdayName (long : Bool)
  /-- `am` or `pm` in any case. -/
  | halfDay
  /-- Nothing, or a point and digits: as many as there are, or exactly so many. -/
  | fraction (digits : Option Nat)
  /-- Exactly so many digits of a fraction. -/
  | bareFraction (digits : Nat)
  /-- Everything up to the next blank. -/
  | zoneName
  /-- An offset from universal time. -/
  | zone (zulu minutesOptional : Bool)
  /-- A date, a time and an offset in the form of RFC 3339, with blanks between the parts. -/
  | timestamp
deriving Repr

namespace Template

/-! ## Templates as text -/

/-- Specifiers that abbreviate others. -/
def abbreviations : List (Char × String) :=
  [('D', "%m/%d/%y"), ('F', "%Y-%m-%d"), ('R', "%H:%M"), ('T', "%H:%M:%S"),
   ('X', "%H:%M:%S"), ('c', "%a %b %e %H:%M:%S %Y"), ('r', "%I:%M:%S %p"),
   ('v', "%e-%b-%Y"), ('x', "%m/%d/%y")]

/-- No bound on the number of digits. -/
def anyWidth : Nat := 1000000000

/-- Specifiers of numbers. A sign for padding may stand before them. -/
def numerals : List (Char × Item) :=
  let plain (field : Field) (width : Nat) : Item := .numeral (.field field) width false
  [('C', plain .century 2), ('G', .numeral (.field .isoYear) 4 true),
   ('H', .numeral .hour 2 false), ('I', .numeral .hourOfHalf 2 false),
   ('M', plain .minute 2), ('S', plain .second 2), ('U', plain .weekFromSunday 2),
   ('V', plain .isoWeek 2), ('W', plain .weekFromMonday 2),
   ('Y', .numeral (.field .year) 4 true), ('d', plain .day 2), ('e', plain .day 2),
   ('f', plain .nanosecond 9), ('g', plain .isoYearOfCentury 2), ('j', plain .ordinal 3),
   ('k', .numeral .hour 2 false), ('l', .numeral .hourOfHalf 2 false), ('m', plain .month 2),
   ('q', plain .quarter 1), ('s', plain .epochSecond anyWidth),
   ('u', .numeral .weekdayFromMonday 1 false), ('w', .numeral .weekdayFromSunday 1 false),
   ('y', plain .yearOfCentury 2)]

/-- Specifiers of everything else. -/
def others : List (Char × Item) :=
  [('A', .weekdayName true), ('B', .monthName true), ('P', .halfDay), ('Z', .zoneName),
   ('a', .weekdayName false), ('b', .monthName false), ('h', .monthName false),
   ('n', .blanks), ('p', .halfDay), ('t', .blanks), ('z', .zone false false),
   ('+', .timestamp), ('%', .literal ['%'])]

/-- A specifier of several characters at the start, and the rest. -/
def longSpecifier? : List Char → Option (Item × List Char)
  | '.' :: 'f' :: rest => some (.fraction none, rest)
  | '.' :: '3' :: 'f' :: rest => some (.fraction (some 3), rest)
  | '.' :: '6' :: 'f' :: rest => some (.fraction (some 6), rest)
  | '.' :: '9' :: 'f' :: rest => some (.fraction (some 9), rest)
  | '3' :: 'f' :: rest => some (.bareFraction 3, rest)
  | '6' :: 'f' :: rest => some (.bareFraction 6, rest)
  | '9' :: 'f' :: rest => some (.bareFraction 9, rest)
  | ':' :: 'z' :: rest => some (.zone false false, rest)
  | ':' :: ':' :: 'z' :: rest => some (.zone false false, rest)
  | ':' :: ':' :: ':' :: 'z' :: rest => some (.zone false false, rest)
  | '#' :: 'z' :: rest => some (.zone true true, rest)
  | _ => none

/-- The specifier after a percent sign, as items, and the rest; `expand` gives the items of an
abbreviation. -/
def specifier? (expand : String → Option (List Item)) :
    List Char → Option (List Item × List Char)
  | [] => none
  | c :: rest =>
    if c = '-' ∨ c = '_' ∨ c = '0' then
      match rest with
      | [] => none
      | d :: later => (numerals.lookup d).map fun item => ([item], later)
    else
      match numerals.lookup c <|> others.lookup c with
      | some item => some ([item], rest)
      | none =>
        match abbreviations.lookup c with
        | some text => (expand text).map fun items => (items, rest)
        | none => (longSpecifier? (c :: rest)).map fun (item, later) => ([item], later)

/-- The items of a template; `expand` gives the items of an abbreviation. -/
def parseWith? (expand : String → Option (List Item)) : Nat → List Char → Option (List Item)
  | 0, _ => some []
  | _ + 1, [] => some []
  | fuel + 1, c :: rest =>
    if c = '%' then do
      let (items, later) ← specifier? expand rest
      return items ++ (← parseWith? expand fuel later)
    else if Text.isBlank c then do
      return .blanks :: (← parseWith? expand fuel (Text.trimStart rest))
    else do
      let isLiteral (d : Char) : Bool := d ≠ '%' && !Text.isBlank d
      return .literal (c :: rest.takeWhile isLiteral) ::
        (← parseWith? expand fuel (rest.dropWhile isLiteral))

/-- The items of a template without abbreviations. -/
def parsePlain? (text : String) : Option (List Item) :=
  parseWith? (fun _ => none) text.toList.length text.toList

/-- The items of a template, unless a specifier is unknown. -/
def parse? (text : String) : Option (List Item) :=
  parseWith? parsePlain? text.toList.length text.toList

/-! ## Reading a text -/

/-- The names of the months. -/
def monthNames : List String :=
  ["january", "february", "march", "april", "may", "june", "july", "august", "september",
   "october", "november", "december"]

/-- The names of the weekdays. -/
def weekdayNames : List String :=
  ["monday", "tuesday", "wednesday", "thursday", "friday", "saturday", "sunday"]

/-- The place of the name whose first three letters start the text, in any case, and the rest;
with `long` the rest of the name is taken too if it is there. -/
def takeName? (names : List String) (long : Bool) (cs : List Char) : Option (Nat × List Char) := do
  let small (cs : List Char) : List Char := cs.map Char.toLower
  let place ← names.findIdx? fun name => small (cs.take 3) == name.toList.take 3
  let name ← names[place]?
  let ending := name.toList.drop 3
  let rest := cs.drop 3
  if long ∧ small (rest.take ending.length) = ending then
    return (place, rest.drop ending.length)
  else
    return (place, rest)

/-- Up to `width` digits at the start as a number that fits 64 bits, and the rest. -/
def takeNumber? (width : Nat) (cs : List Char) : Option (Int × List Char) := do
  let digits := (cs.takeWhile Char.isDigit).take width
  let value ← Number.readRadix? 10 digits
  let value ← Number.narrow? value
  return (value.toInt, cs.drop digits.length)

/-- A number, with a sign and then any number of digits if `signed`. -/
def takeNumeral? (width : Nat) (signed : Bool) (cs : List Char) : Option (Int × List Char) :=
  match signed, cs with
  | true, '-' :: rest => (takeNumber? anyWidth rest).map fun (value, later) => (-value, later)
  | true, '+' :: rest => takeNumber? anyWidth rest
  | _, _ => takeNumber? width cs

/-- The fields with what a number says. -/
def putNumeral? (fields : Fields) (value : Int) : Numeral → Option Fields
  | .field field => fields.put? field value
  | .hour =>
    if 0 ≤ value ∧ value ≤ 23 then do
      (← fields.put? .halfDay (value / 12)).put? .hourOfHalf (value % 12)
    else none
  | .hourOfHalf =>
    if 1 ≤ value ∧ value ≤ 12 then fields.put? .hourOfHalf (value % 12) else none
  | .weekdayFromSunday =>
    if 0 ≤ value ∧ value ≤ 6 then fields.put? .weekday ((value + 6) % 7) else none
  | .weekdayFromMonday => fields.put? .weekday (value - 1)

/-- A fraction of exactly so many digits in nanoseconds. -/
def takeFractionOf? (digits : Nat) (cs : List Char) : Option (Nat × List Char) :=
  (takeDigits? digits cs).map fun (n, rest) => (n * Nat.pow 10 (9 - digits), rest)

/-- Colons and blanks may stand between the hours and the minutes of an offset. -/
def skipColons (cs : List Char) : Option (List Char) :=
  some (cs.dropWhile fun c => c = ':' || Text.isBlank c)

/-- The rest of a text after given characters. -/
def dropLiteral? (text cs : List Char) : Option (List Char) :=
  if text.isPrefixOf cs then some (cs.drop text.length) else none

/-- Reads one item that has no other items inside. -/
def readPlain? (fields : Fields) (cs : List Char) : Item → Option (Fields × List Char)
  | .literal text => (dropLiteral? text cs).map fun rest => (fields, rest)
  | .blanks => some (fields, Text.trimStart cs)
  | .numeral numeral width signed => do
    let (value, rest) ← takeNumeral? width signed (Text.trimStart cs)
    return (← putNumeral? fields value numeral, rest)
  | .monthName long => do
    let (place, rest) ← takeName? monthNames long cs
    return (← fields.put? .month (place + 1), rest)
  | .weekdayName long => do
    let (place, rest) ← takeName? weekdayNames long cs
    return (← fields.put? .weekday place, rest)
  | .halfDay =>
    match cs with
    | a :: b :: rest =>
      if b.toLower = 'm' ∧ (a.toLower = 'a' ∨ a.toLower = 'p') then
        (fields.put? .halfDay (if a.toLower = 'p' then 1 else 0)).map fun fields => (fields, rest)
      else none
    | _ => none
  | .fraction digits =>
    match cs with
    | '.' :: rest => do
      let (nano, rest) ←
        match digits with
        | none => takeFraction? rest
        | some count => takeFractionOf? count rest
      return (← fields.put? .nanosecond nano, rest)
    | _ => some (fields, cs)
  | .bareFraction digits => do
    let (nano, rest) ← takeFractionOf? digits cs
    return (← fields.put? .nanosecond nano, rest)
  | .zoneName => some (fields, cs.dropWhile fun c => !Text.isBlank c)
  | .zone zulu minutesOptional => do
    let (offset, rest) ← takeOffset? skipColons zulu minutesOptional (Text.trimStart cs)
    return (← fields.put? .offset offset, rest)
  | .timestamp => none

/-- Reads items one after the other with a given reader of one. -/
def readAll? (readItem : Fields → List Char → Item → Option (Fields × List Char)) :
    Fields → List Char → List Item → Option (Fields × List Char)
  | fields, cs, [] => some (fields, cs)
  | fields, cs, item :: items => do
    let (fields, rest) ← readItem fields cs item
    readAll? readItem fields rest items

/-- The date of a timestamp inside a template. -/
def dateItems : List Item :=
  [.numeral (.field .year) 4 true, .blanks, .literal ['-'], .numeral (.field .month) 2 false,
   .blanks, .literal ['-'], .numeral (.field .day) 2 false]

/-- The time of a timestamp inside a template. -/
def timeItems : List Item :=
  [.numeral .hour 2 false, .blanks, .literal [':'], .numeral (.field .minute) 2 false,
   .blanks, .literal [':'], .numeral (.field .second) 2 false, .fraction none, .blanks]

/-- An offset, or `UTC` in any case. -/
def takeZone? (cs : List Char) : Option (Int × List Char) :=
  if (cs.take 3).map Char.toLower = ['u', 't', 'c'] then some (0, cs.drop 3)
  else takeOffset? skipColons true false cs

/-- Reads one item. -/
def readItem? (fields : Fields) (cs : List Char) : Item → Option (Fields × List Char)
  | .timestamp => do
    let (fields, cs) ← readAll? readPlain? fields cs dateItems
    let cs ← (skip? 'T' cs <|> skip? 't' cs <|> skip? ' ' cs)
    let (fields, cs) ← readAll? readPlain? fields cs timeItems
    let (offset, cs) ← takeZone? cs
    return (← fields.put? .offset offset, cs)
  | item => readPlain? fields cs item

/-- The fields of a text that a template covers to its end. -/
def fields? (template text : String) : Option Fields := do
  let items ← parse? template
  let (fields, rest) ← readAll? readItem? [] text.toList items
  if rest.isEmpty then some fields else none

/-- The instant of a text whose template names a date and a time. -/
def readMoment? (template text : String) : Option Int := do
  (← fields? template text).moment?

/-- The first instant of the day of a text whose template names a date. -/
def readDate? (template text : String) : Option Int := do
  match (← fields? template text).date? with
  | .ok date => some (ofParts date.days 0 0)
  | .error _ => none

end Template
end EventSieve.Instant
