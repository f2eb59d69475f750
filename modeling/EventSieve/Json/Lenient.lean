import EventSieve.Json.Strict
import EventSieve.Text.Category

/-!
# Lenient JSON

JSON with comments, single quotes, commas before a closing bracket, keys without quotes,
hexadecimal numbers, signs, and points at either end of a number. Numbers that are infinite or
no numbers stand for null.

## Main definitions

* `Json.parseLenient?` — the value of a text
-/
namespace EventSieve.Json

open Number (Binary64)

/-- The characters that end a line. -/
def isLineEnd (c : Char) : Bool :=
  c == '\n' || c == '\r' || c == '\u2028' || c == '\u2029'

/-- The blanks of lenient JSON. -/
def isLenientBlank (c : Char) : Bool :=
  (9 ≤ c.toNat && c.toNat ≤ 13) || isLineEnd c || c == ' ' || c == '\u00a0' || c == '\ufeff' ||
    (Text.Category.codes ["Zs"]).memChar c

/-- The rest of a text after the end of a comment. -/
def afterComment? : List Char → Option (List Char)
  | [] => none
  | '*' :: '/' :: rest => some rest
  | _ :: rest => afterComment? rest

/-- A text without the blanks and comments at its start; none if a comment has no end. -/
def skipLenient? : Nat → List Char → Option (List Char)
  | 0, cs => some cs
  | fuel + 1, cs =>
    match cs with
    | '/' :: '/' :: rest => skipLenient? fuel (rest.dropWhile fun c => !isLineEnd c)
    | '/' :: '*' :: rest => do skipLenient? fuel (← afterComment? rest)
    | c :: rest =>
      if c.toNat < 128 ∧ !(9 ≤ c.toNat ∧ c.toNat ≤ 13) ∧ c ≠ ' ' then some cs
      else if isLenientBlank c then skipLenient? fuel rest
      else some cs
    | [] => some []

/-- A text without the blanks and comments at its start. -/
def skip? (cs : List Char) : Option (List Char) :=
  skipLenient? cs.length cs

/-! ## Strings and keys -/

/-- The character after a backslash, if it stands for another one alone. -/
def lenientEscape? (c : Char) : Option Char :=
  if c.isDigit then none
  else some <|
    ([('b', '\x08'), ('f', '\x0c'), ('n', '\n'), ('r', '\r'), ('t', '\t'),
      ('v', '\x0b')].lookup c).getD c

/-- The text up to the quote that ends a string, and the rest. -/
def takeQuoted? (mark : Char) : List Char → Option (List Char × List Char)
  | [] => none
  | '\\' :: '\r' :: '\n' :: rest => takeQuoted? mark rest
  | '\\' :: 'u' :: rest => do
    let (c, count) ← unicodeEscape? rest
    let (text, rest) ← takeQuoted? mark (rest.drop count)
    return (c :: text, rest)
  | '\\' :: 'x' :: a :: b :: rest => do
    let c ← charOfCode? (← Number.readRadix? 16 [a, b])
    let (text, rest) ← takeQuoted? mark rest
    return (c :: text, rest)
  | '\\' :: '0' :: rest => do
    if (rest.head?.map Char.isDigit).getD false then none
    else
      let (text, rest) ← takeQuoted? mark rest
      return ('\x00' :: text, rest)
  | '\\' :: c :: rest => do
    if isLineEnd c then takeQuoted? mark rest
    else if c = 'x' then none
    else
      let c ← lenientEscape? c
      let (text, rest) ← takeQuoted? mark rest
      return (c :: text, rest)
  | c :: rest => do
    if c = mark then return ([], rest)
    else if c = '\n' ∨ c = '\r' ∨ c = '\\' then none
    else
      let (text, rest) ← takeQuoted? mark rest
      return (c :: text, rest)
termination_by cs => cs.length
decreasing_by
  all_goals simp only [List.length_cons, List.length_drop]; omega

/-- Characters that may begin a key without quotes. -/
def isKeyStart (c : Char) : Bool :=
  c == '$' || c == '_' || c.isAlpha ||
    (128 ≤ c.toNat && (Text.Category.codes ["Lu", "Ll", "Lt", "Lm", "Lo", "Nl"]).memChar c)

/-- Characters that may stand in a key without quotes after its first. -/
def isKeyPart (c : Char) : Bool :=
  isKeyStart c || c.isDigit || c == '\u200c' || c == '\u200d' ||
    (128 ≤ c.toNat && (Text.Category.codes ["Mn", "Mc", "Nd", "Pc"]).memChar c)

/-- A key without quotes, and the rest. -/
def takeKeyChars (atStart : Bool) : List Char → List Char × List Char
  | '\\' :: 'u' :: a :: b :: c :: d :: rest =>
    match (hexCode? a b c d).bind charOfCode? with
    | some e =>
      if if atStart then isKeyStart e else isKeyPart e then
        let (key, rest) := takeKeyChars false rest
        (e :: key, rest)
      else ([], '\\' :: 'u' :: a :: b :: c :: d :: rest)
    | none => ([], '\\' :: 'u' :: a :: b :: c :: d :: rest)
  | c :: rest =>
    if if atStart then isKeyStart c else isKeyPart c then
      let (key, rest) := takeKeyChars false rest
      (c :: key, rest)
    else ([], c :: rest)
  | [] => ([], [])

/-- The key at the start of a text, and the rest. -/
def takeKey? (cs : List Char) : Option (String × List Char) := do
  let (key, rest) ←
    match cs with
    | '"' :: rest => takeQuoted? '"' rest
    | '\x27' :: rest => takeQuoted? '\x27' rest
    | _ =>
      let (key, rest) := takeKeyChars true cs
      if key.isEmpty then none else some (key, rest)
  return (String.ofList key, rest)

/-! ## Numbers -/

/-- A whole number, in floating point where it does not fit 64 bits. -/
def lenientWhole (negative : Bool) (magnitude : Nat) : Json :=
  let value : Int := if negative then -magnitude else magnitude
  if Int64.minValue.toInt ≤ value ∧ value < UInt64.size then integer value
  else ofFloat (.ofRatio negative magnitude 1)

/-- A decimal number without a sign at the start of a text, and the rest. -/
def takeDecimal? (negative : Bool) (cs : List Char) : Option (Json × List Char) := do
  let whole := cs.takeWhile Char.isDigit
  let afterWhole := cs.dropWhile Char.isDigit
  let (hasPoint, fraction, rest) :=
    match afterWhole with
    | '.' :: more => (true, more.takeWhile Char.isDigit, more.dropWhile Char.isDigit)
    | more => (false, [], more)
  let digits ← Number.readRadix? 10 (whole ++ fraction)
  match whole with
  | '0' :: _ :: _ => none
  | _ =>
    let (power, rest) ←
      match rest with
      | c :: more =>
        if c = 'e' ∨ c = 'E' then (takeExponent? more).map fun (n, rest) => (some n, rest)
        else some (none, rest)
      | [] => some (none, rest)
    if !hasPoint && power.isNone then return (lenientWhole negative digits, rest)
    else
      return (ofFloat (.ofDecimal negative digits (power.getD 0 - fraction.length)), rest)

/-- A number without a sign at the start of a text, and the rest. -/
def takeMagnitude? (negative : Bool) (cs : List Char) : Option (Json × List Char) :=
  let hexadecimal (rest : List Char) : Option (Json × List Char) := do
    let isHex (c : Char) : Bool := (Number.digitValue? c).isSome
    let magnitude ← Number.readRadix? 16 (rest.takeWhile isHex)
    return (lenientWhole negative magnitude, rest.dropWhile isHex)
  match cs with
  | '0' :: 'x' :: rest | '0' :: 'X' :: rest => hexadecimal rest
  | 'I' :: _ => (afterWord? "Infinity" cs).map fun rest => (null, rest)
  | 'N' :: _ => (afterWord? "NaN" cs).map fun rest => (null, rest)
  | _ => takeDecimal? negative cs

/-- The number at the start of a text, and the rest. No letter or digit may follow it. -/
def takeLenientNumber? (cs : List Char) : Option (Json × List Char) := do
  let (value, rest) ←
    match cs with
    | '-' :: rest => takeMagnitude? true rest
    | '+' :: rest => takeMagnitude? false rest
    | _ => takeMagnitude? false cs
  if (rest.head?.map isKeyPart).getD false then none else some (value, rest)

/-! ## Values -/

/-- The word at the start of a text stands alone. -/
def afterLoneWord? (word : String) (cs : List Char) : Option (List Char) := do
  let rest ← afterWord? word cs
  if (rest.head?.map isKeyPart).getD false then none else some rest

/-- A value without parts at the start of a text, and the rest. -/
def takeLenientScalar? (cs : List Char) : Option (Json × List Char) :=
  let quoted (mark : Char) (rest : List Char) : Option (Json × List Char) :=
    (takeQuoted? mark rest).map fun (text, rest) => (string (String.ofList text), rest)
  match cs with
  | '"' :: rest => quoted '"' rest
  | '\x27' :: rest => quoted '\x27' rest
  | 'n' :: _ => (afterLoneWord? "null" cs).map fun rest => (null, rest)
  | 't' :: _ => (afterLoneWord? "true" cs).map fun rest => (boolean true, rest)
  | 'f' :: _ => (afterLoneWord? "false" cs).map fun rest => (boolean false, rest)
  | _ => takeLenientNumber? cs

mutual

/-- The value at the start of a text, and the rest. -/
def takeLenient? : Nat → List Char → Option (Json × List Char)
  | 0, _ => none
  | fuel + 1, cs => do
    match ← skip? cs with
    | '[' :: rest => (takeLenientItems? fuel rest).map fun (items, rest) => (array items, rest)
    | '\x7b' :: rest =>
      (takeLenientMembers? fuel rest).map fun (members, rest) => (ofMembers members, rest)
    | cs => takeLenientScalar? cs

/-- Items up to the bracket that ends an array, and the rest. -/
def takeLenientItems? : Nat → List Char → Option (List Json × List Char)
  | 0, _ => none
  | fuel + 1, cs => do
    match ← skip? cs with
    | ']' :: rest => return ([], rest)
    | cs =>
      let (item, rest) ← takeLenient? fuel cs
      match ← skip? rest with
      | ',' :: rest =>
        let (items, rest) ← takeLenientItems? fuel rest
        return (item :: items, rest)
      | ']' :: rest => return ([item], rest)
      | _ => none

/-- Members up to the brace that ends an object, and the rest. -/
def takeLenientMembers? : Nat → List Char → Option (List (String × Json) × List Char)
  | 0, _ => none
  | fuel + 1, cs => do
    match ← skip? cs with
    | '\x7d' :: rest => return ([], rest)
    | cs =>
      let (key, rest) ← takeKey? cs
      match ← skip? rest with
      | ':' :: rest =>
        let (value, rest) ← takeLenient? fuel rest
        match ← skip? rest with
        | ',' :: rest =>
          let (members, rest) ← takeLenientMembers? fuel rest
          return ((key, value) :: members, rest)
        | '\x7d' :: rest => return ([(key, value)], rest)
        | _ => none
      | _ => none

end

/-- The value of a text in lenient JSON. -/
def parseLenient? (text : String) : Option Json := do
  let cs := text.toList
  let (value, rest) ← takeLenient? (2 * cs.length + 2) cs
  if (← skip? rest).isEmpty then some value else none

end EventSieve.Json
