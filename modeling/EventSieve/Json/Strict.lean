import EventSieve.Json.Numeral

/-!
# Strict JSON

JSON as its standard has it. Values may be nested 127 deep.

## Main definitions

* `Json.takeString?` — the string at the start of a text, and the rest
* `Json.parseStrict?` — the value of a text
-/
namespace EventSieve.Json

/-- The blanks of strict JSON. -/
def isStrictBlank (c : Char) : Bool :=
  c == ' ' || c == '\n' || c == '\t' || c == '\r'

/-- A text without the blanks at its start. -/
def skipStrict (cs : List Char) : List Char :=
  cs.dropWhile isStrictBlank

/-- The number of four hexadecimal digits. -/
def hexCode? (a b c d : Char) : Option Nat :=
  Number.readRadix? 16 [a, b, c, d]

/-- The character with a code, unless the code is of no character. -/
def charOfCode? (code : Nat) : Option Char :=
  if h : code.isValidChar then some (Char.ofNatAux code h) else none

/-- The character of two halves of a code above 16 bits. -/
def charOfHalves? (high low : Nat) : Option Char :=
  if 0xD800 ≤ high ∧ high < 0xDC00 ∧ 0xDC00 ≤ low ∧ low < 0xE000 then
    charOfCode? (0x10000 + (high - 0xD800) * 0x400 + (low - 0xDC00))
  else none

/-- The character after a backslash, if it is a single one. -/
def simpleEscape? (c : Char) : Option Char :=
  [('"', '"'), ('\\', '\\'), ('/', '/'), ('b', '\x08'), ('f', '\x0c'), ('n', '\n'),
    ('r', '\r'), ('t', '\t')].lookup c

/-- The character that four hexadecimal digits stand for, or eight if the first four are only half
of one, and how many characters spell it. -/
def unicodeEscape? : List Char → Option (Char × Nat)
  | a :: b :: c :: d :: rest => do
    let code ← hexCode? a b c d
    match charOfCode? code, rest with
    | some c, _ => some (c, 4)
    | none, '\\' :: 'u' :: e :: f :: g :: h :: _ =>
      return (← charOfHalves? code (← hexCode? e f g h), 10)
    | none, _ => none
  | _ => none

/-- The text up to the quote that ends a string, and the rest. -/
def takeString? : List Char → Option (List Char × List Char)
  | [] => none
  | '"' :: rest => some ([], rest)
  | '\\' :: 'u' :: rest => do
    let (c, count) ← unicodeEscape? rest
    let (text, rest) ← takeString? (rest.drop count)
    return (c :: text, rest)
  | '\\' :: c :: rest => do
    let c ← simpleEscape? c
    let (text, rest) ← takeString? rest
    return (c :: text, rest)
  | c :: rest => do
    if c.toNat < 32 ∨ c = '\\' then none
    else
      let (text, rest) ← takeString? rest
      return (c :: text, rest)
termination_by cs => cs.length
decreasing_by
  all_goals simp only [List.length_cons, List.length_drop]; omega

/-- The rest of a text after a word. -/
def afterWord? (word : String) (cs : List Char) : Option (List Char) :=
  if word.toList.isPrefixOf cs then some (cs.drop word.length) else none

/-- A value without parts at the start of a text, and the rest. -/
def takeScalar? (cs : List Char) : Option (Json × List Char) :=
  match cs with
  | '"' :: rest => (takeString? rest).map fun (text, rest) => (string (String.ofList text), rest)
  | 'n' :: _ => (afterWord? "null" cs).map fun rest => (null, rest)
  | 't' :: _ => (afterWord? "true" cs).map fun rest => (boolean true, rest)
  | 'f' :: _ => (afterWord? "false" cs).map fun rest => (boolean false, rest)
  | _ => takeNumber? cs

mutual

/-- The value at the start of a text, which may be nested `depth` deep, and the rest. -/
def takeValue? : Nat → Nat → List Char → Option (Json × List Char)
  | 0, _, _ => none
  | fuel + 1, depth, cs =>
    match skipStrict cs with
    | '[' :: rest =>
      if depth ≤ 1 then none
      else
        match skipStrict rest with
        | ']' :: rest => some (array [], rest)
        | rest => (takeItems? fuel (depth - 1) rest).map fun (items, rest) => (array items, rest)
    | '\x7b' :: rest =>
      if depth ≤ 1 then none
      else
        match skipStrict rest with
        | '\x7d' :: rest => some (object [], rest)
        | rest =>
          (takeMembers? fuel (depth - 1) rest).map fun (members, rest) => (ofMembers members, rest)
    | cs => takeScalar? cs

/-- Items up to the bracket that ends an array, and the rest. -/
def takeItems? : Nat → Nat → List Char → Option (List Json × List Char)
  | 0, _, _ => none
  | fuel + 1, depth, cs => do
    let (item, rest) ← takeValue? fuel depth cs
    match skipStrict rest with
    | ',' :: rest => do
      let (items, rest) ← takeItems? fuel depth rest
      return (item :: items, rest)
    | ']' :: rest => return ([item], rest)
    | _ => none

/-- Members up to the brace that ends an object, and the rest. -/
def takeMembers? : Nat → Nat → List Char → Option (List (String × Json) × List Char)
  | 0, _, _ => none
  | fuel + 1, depth, cs =>
    match skipStrict cs with
    | '"' :: rest => do
      let (key, rest) ← takeString? rest
      match skipStrict rest with
      | ':' :: rest => do
        let (value, rest) ← takeValue? fuel depth rest
        let member := (String.ofList key, value)
        match skipStrict rest with
        | ',' :: rest => do
          let (members, rest) ← takeMembers? fuel depth rest
          return (member :: members, rest)
        | '\x7d' :: rest => return ([member], rest)
        | _ => none
      | _ => none
    | _ => none

end

/-- How deeply values may be nested, and one more. -/
def strictDepth : Nat := 128

/-- The value of a text in strict JSON. -/
def parseStrict? (text : String) : Option Json := do
  let cs := text.toList
  let (value, rest) ← takeValue? (2 * cs.length + 2) strictDepth cs
  if (skipStrict rest).isEmpty then some value else none

end EventSieve.Json
