import EventSieve.Instant.Calendar
import EventSieve.Json.Strict
import EventSieve.Number.Read
import EventSieve.Toml.Basic

/-!
# Scalars of TOML documents

Strings in four kinds of quotes, and words: booleans, integers in four bases, floating-point
numbers, and dates and times.

## Main definitions

* `Toml.takeString?` — the string at the start of a text, and the rest
* `Toml.ofWord?` — the value of a word
-/
namespace EventSieve.Toml

open Number (Binary64 readRadix?)

/-- Control characters, which stand nowhere; tabs are none. -/
def isControl (c : Char) : Bool :=
  (c.toNat < 32 && c != '\t') || c.toNat == 127

/-- The character of a hexadecimal code of so many digits, and the rest. -/
def takeCode? (count : Nat) (cs : List Char) : Option (Char × List Char) := do
  let digits := cs.take count
  if digits.length < count then none
  else
    let code ← readRadix? 16 digits
    return (← Json.charOfCode? code, cs.drop count)

/-- The character that an escape stands for, after its backslash, and the rest. -/
def takeEscape? : List Char → Option (Char × List Char)
  | 'x' :: rest => takeCode? 2 rest
  | 'u' :: rest => takeCode? 4 rest
  | 'U' :: rest => takeCode? 8 rest
  | c :: rest =>
    ([('b', '\x08'), ('t', '\t'), ('n', '\n'), ('f', '\x0c'), ('r', '\r'), ('e', '\x1b'),
      ('"', '"'), ('\\', '\\')].lookup c).map fun d => (d, rest)
  | [] => none

/-- The text up to the mark that ends a string of one line, and the rest. -/
def takeLine? (mark : Char) (escapes : Bool) : Nat → List Char → Option (List Char × List Char)
  | 0, _ => none
  | _, [] => none
  | fuel + 1, c :: rest => do
    if c = mark then return ([], rest)
    else if escapes && c = '\\' then
      let (d, rest) ← takeEscape? rest
      let (text, rest) ← takeLine? mark escapes fuel rest
      return (d :: text, rest)
    else if isControl c then none
    else
      let (text, rest) ← takeLine? mark escapes fuel rest
      return (c :: text, rest)

/-- A text after an end of a line at its start, if there is one. -/
def afterLineEnd? : List Char → Option (List Char)
  | '\n' :: rest => some rest
  | '\r' :: '\n' :: rest => some rest
  | _ => none

/-- A text without the blanks and line ends at its start. -/
def skipLines : Nat → List Char → List Char
  | 0, cs => cs
  | fuel + 1, cs =>
    match cs with
    | ' ' :: rest | '\t' :: rest => skipLines fuel rest
    | _ =>
      match afterLineEnd? cs with
      | some rest => skipLines fuel rest
      | none => cs

/-- The text up to the three marks that end a string of several lines, and the rest. One or two
marks more before them belong to the text. -/
def takeLines? (mark : Char) (escapes : Bool) : Nat → List Char → Option (List Char × List Char)
  | 0, _ => none
  | _, [] => none
  | fuel + 1, c :: rest => do
    let marks := (c :: rest).takeWhile (· == mark)
    if 3 ≤ marks.length then
      if 5 < marks.length then none
      else return (marks.drop 3, (c :: rest).drop marks.length)
    else if escapes && c = '\\' then
      let blankLine := rest.dropWhile fun d => d == ' ' || d == '\t'
      match afterLineEnd? blankLine with
      | some later => takeLines? mark escapes fuel (skipLines later.length later)
      | none =>
        let (d, rest) ← takeEscape? rest
        let (text, rest) ← takeLines? mark escapes fuel rest
        return (d :: text, rest)
    else
      match afterLineEnd? (c :: rest) with
      | some later =>
        let (text, rest) ← takeLines? mark escapes fuel later
        return ('\n' :: text, rest)
      | none =>
        if isControl c then none
        else
          let (text, rest) ← takeLines? mark escapes fuel rest
          return (c :: text, rest)

/-- The string at the start of a text, and the rest; `several` allows several lines. -/
def takeString? (several : Bool) (cs : List Char) : Option (List Char × List Char) :=
  let start (mark : Char) (escapes : Bool) : Option (List Char × List Char) :=
    if [mark, mark, mark].isPrefixOf cs then
      if several then
        let inner := cs.drop 3
        takeLines? mark escapes (inner.length + 1) ((afterLineEnd? inner).getD inner)
      else none
    else takeLine? mark escapes (cs.length + 1) (cs.drop 1)
  match cs with
  | '"' :: _ => start '"' true
  | '\x27' :: _ => start '\x27' false
  | _ => none

/-! ## Words -/

/-- The digits of a number, without the single underscores between them. -/
def plainDigits? (isDigit : Char → Bool) (cs : List Char) : Option (List Char) :=
  let groups := cs.splitOn '_'
  if groups.all fun group => !group.isEmpty && group.all isDigit then some groups.flatten
  else none

/-- An integer that fits 128 bits, with a sign or without. -/
def boundedInteger? (value : Int) : Option Toml :=
  if -(Nat.pow 2 127 : Int) ≤ value ∧ value < (Nat.pow 2 128 : Int) then some (integer value)
  else none

/-- A floating-point number that is in range. -/
def boundedFloat? : Binary64 → Option Toml
  | .finite negative units => some (float (.finite negative units))
  | _ => none

/-- A number in a base. -/
def inBase? (radix : Nat) (digits : List Char) : Option Toml := do
  let digits ← plainDigits? (fun c => (Number.digitValue? c).isSome) digits
  boundedInteger? (← readRadix? radix digits)

/-- The digits of a decimal number before its point; a zero stands alone. -/
def wholeDigits? (cs : List Char) : Option (List Char) :=
  match plainDigits? Char.isDigit cs with
  | some ('0' :: _ :: _) => none
  | digits => digits

/-- The exponent of a floating-point number. -/
def exponent? (cs : List Char) : Option Int :=
  let read (cs : List Char) : Option Nat := do readRadix? 10 (← plainDigits? Char.isDigit cs)
  match cs with
  | '-' :: digits => (read digits).map fun n => -(n : Int)
  | '+' :: digits => (read digits).map fun n => (n : Int)
  | digits => (read digits).map fun n => (n : Int)

/-- A decimal number without a sign. -/
def decimal? (negative : Bool) (cs : List Char) : Option Toml := do
  let isExponentMark (c : Char) : Bool := c == 'e' || c == 'E'
  let mantissa := cs.takeWhile (!isExponentMark ·)
  let power := cs.drop (mantissa.length + 1)
  let whole ← wholeDigits? (mantissa.takeWhile (· != '.'))
  let hasExponent := mantissa.length < cs.length
  if mantissa.all (· != '.') && !hasExponent then
    let value ← readRadix? 10 whole
    boundedInteger? (if negative then -(value : Int) else value)
  else
    let fraction ←
      if mantissa.all (· != '.') then some []
      else plainDigits? Char.isDigit ((mantissa.dropWhile (· != '.')).drop 1)
    let exponent ← if hasExponent then exponent? power else some 0
    let digits ← readRadix? 10 (whole ++ fraction)
    boundedFloat? (.ofDecimal negative digits (exponent - fraction.length))

/-- A number without a sign, or the name of a special one. -/
def magnitude? (negative : Bool) (word : List Char) : Option Toml :=
  if word = ['i', 'n', 'f'] then some (float (.infinite negative))
  else if word = ['n', 'a', 'n'] then some (float .nan)
  else decimal? negative word

/-- A number of two digits within bounds. -/
def twoDigits? (least most : Nat) (a b : Char) : Option Nat := do
  let n ← if a.isDigit ∧ b.isDigit then readRadix? 10 [a, b] else none
  if least ≤ n ∧ n ≤ most then some n else none

/-- A date at the start of a text, and the rest. -/
def takeDate? : List Char → Option (List Char)
  | y1 :: y2 :: y3 :: y4 :: '-' :: m1 :: m2 :: '-' :: d1 :: d2 :: rest => do
    let year ← if [y1, y2, y3, y4].all Char.isDigit then readRadix? 10 [y1, y2, y3, y4] else none
    let month ← twoDigits? 1 12 m1 m2
    let day ← twoDigits? 1 31 d1 d2
    if day ≤ Instant.daysInMonth year month then some rest else none
  | _ => none

/-- A time at the start of a text, and the rest. The second may be missing. -/
def takeTime? : List Char → Option (List Char)
  | h1 :: h2 :: ':' :: m1 :: m2 :: rest => do
    discard (twoDigits? 0 23 h1 h2)
    discard (twoDigits? 0 59 m1 m2)
    match rest with
    | ':' :: s1 :: s2 :: rest =>
      discard (twoDigits? 0 60 s1 s2)
      match rest with
      | '.' :: rest =>
        let digits := rest.takeWhile Char.isDigit
        if digits.isEmpty then none else some (rest.drop digits.length)
      | rest => some rest
    | ':' :: _ => none
    | rest => some rest
  | _ => none

/-- Whether a text is an offset from universal time, or nothing. -/
def isOffset : List Char → Bool
  | [] | ['Z'] | ['z'] => true
  | [sign, h1, h2, ':', m1, m2] =>
    (sign == '+' || sign == '-') && (twoDigits? 0 23 h1 h2).isSome &&
      (twoDigits? 0 59 m1 m2).isSome
  | _ => false

/-- Whether a text is a date, a time, or both. -/
def isDatetime (cs : List Char) : Bool :=
  match takeDate? cs with
  | some [] => true
  | some (mark :: rest) =>
    (mark == 'T' || mark == 't' || mark == ' ') &&
      match takeTime? rest with
      | some offset => isOffset offset
      | none => false
  | none => takeTime? cs == some []

/-- The value of a word. -/
def ofWord? (word : List Char) : Option Toml :=
  match word with
  | ['t', 'r', 'u', 'e'] => some (boolean true)
  | ['f', 'a', 'l', 's', 'e'] => some (boolean false)
  | '0' :: 'x' :: digits => inBase? 16 digits
  | '0' :: 'o' :: digits => inBase? 8 digits
  | '0' :: 'b' :: digits => inBase? 2 digits
  | '-' :: rest => magnitude? true rest
  | '+' :: rest => magnitude? false rest
  | _ => if isDatetime word then some (datetime (String.ofList word)) else magnitude? false word

end EventSieve.Toml
