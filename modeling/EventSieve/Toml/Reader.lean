import EventSieve.Toml.Scalar

/-!
# Reading TOML documents

## Main definitions

* `Toml.takeValue?` — the value at the start of a text, and the rest
* `Toml.parse?` — the document of a text
-/
namespace EventSieve.Toml

/-- A text without the blanks at its start. -/
def skipBlanks (cs : List Char) : List Char :=
  cs.dropWhile fun c => c == ' ' || c == '\t'

/-- A text from the end of the line on, if a comment without control characters stands before
it. -/
def skipComment? (cs : List Char) : Option (List Char) :=
  match cs with
  | '#' :: rest =>
    let comment := rest.takeWhile fun c => c != '\n' && c != '\r'
    if comment.any isControl then none else some (rest.drop comment.length)
  | _ => some cs

/-- A text without the blanks, comments and line ends at its start. -/
def skipAll? : Nat → List Char → Option (List Char)
  | 0, cs => some cs
  | fuel + 1, cs => do
    let rest ← skipComment? (skipBlanks cs)
    match afterLineEnd? rest with
    | some rest => skipAll? fuel rest
    | none => some rest

/-- A text without the blanks, comments and line ends at its start. -/
def skip? (cs : List Char) : Option (List Char) :=
  skipAll? cs.length cs

/-- The rest of a line has to be blank, or a comment. -/
def endLine? (cs : List Char) : Option (List Char) := do
  let rest ← skipComment? (skipBlanks cs)
  if rest.isEmpty then some [] else afterLineEnd? rest

/-- Characters of keys without quotes. -/
def isKeyChar (c : Char) : Bool :=
  c.isAlphanum || c == '_' || c == '-'

/-- One part of a key at the start of a text, and the rest. -/
def takeKeyPart? (cs : List Char) : Option (String × List Char) :=
  match cs with
  | '"' :: _ | '\x27' :: _ =>
    (takeString? false cs).map fun (text, rest) => (String.ofList text, rest)
  | _ =>
    let key := cs.takeWhile isKeyChar
    if key.isEmpty then none else some (String.ofList key, cs.drop key.length)

/-- A key has at most so many parts, and so many arrays and tables in braces may stand around a
value. -/
def maxDepth : Nat := 80

/-- A dotted key of at most so many parts at the start of a text, and the rest after the blanks
behind it. -/
def takeParts? : Nat → List Char → Option (List String × List Char)
  | 0, _ => none
  | limit + 1, cs => do
    let (part, rest) ← takeKeyPart? (skipBlanks cs)
    match skipBlanks rest with
    | '.' :: rest =>
      let (parts, rest) ← takeParts? limit rest
      return (part :: parts, rest)
    | rest => return ([part], rest)

/-- A dotted key at the start of a text, and the rest after the blanks behind it. -/
def takeKey? (cs : List Char) : Option (List String × List Char) :=
  takeParts? maxDepth cs

/-- Characters of words. -/
def isWordChar (c : Char) : Bool :=
  c.isAlphanum || c == '+' || c == '-' || c == '_' || c == '.' || c == ':'

/-- The word at the start of a text, and the rest. A date and a time may have a blank between. -/
def takeWord (cs : List Char) : List Char × List Char :=
  let word := cs.takeWhile isWordChar
  let rest := cs.drop word.length
  match rest with
  | ' ' :: c :: more =>
    if takeDate? word == some [] && c.isDigit then
      let time := (c :: more).takeWhile isWordChar
      (word ++ ' ' :: time, (c :: more).drop time.length)
    else (word, rest)
  | _ => (word, rest)

mutual

/-- The value at the start of a text, and the rest; `room` is how many arrays and tables may stand
inside each other in it. -/
def takeNested? : Nat → Nat → List Char → Option (Toml × List Char)
  | 0, _, _ => none
  | fuel + 1, room, cs =>
    match cs, room with
    | '"' :: _, _ | '\x27' :: _, _ =>
      (takeString? true cs).map fun (text, rest) => (string (String.ofList text), rest)
    | '[' :: rest, room + 1 =>
      (takeItems? fuel room rest).map fun (items, rest) => (array items, rest)
    | '\x7b' :: rest, room + 1 =>
      (takeMembers? fuel room [] rest).map fun (members, rest) => (table .braces members, rest)
    | _, _ =>
      let (word, rest) := takeWord cs
      (ofWord? word).map fun value => (value, rest)

/-- Items up to the bracket that ends an array, and the rest. -/
def takeItems? : Nat → Nat → List Char → Option (List Toml × List Char)
  | 0, _, _ => none
  | fuel + 1, room, cs => do
    match ← skip? cs with
    | ']' :: rest => return ([], rest)
    | cs =>
      let (item, rest) ← takeNested? fuel room cs
      match ← skip? rest with
      | ',' :: rest =>
        let (items, rest) ← takeItems? fuel room rest
        return (item :: items, rest)
      | ']' :: rest => return ([item], rest)
      | _ => none

/-- Members up to the brace that ends a table, added to those before, and the rest. -/
def takeMembers? : Nat → Nat → Members → List Char → Option (Members × List Char)
  | 0, _, _, _ => none
  | fuel + 1, room, members, cs => do
    match ← skip? cs with
    | '\x7d' :: rest => return (members, rest)
    | cs =>
      let (key, rest) ← takeKey? cs
      match rest with
      | '=' :: rest =>
        let (value, rest) ← takeNested? fuel room (skipBlanks rest)
        let members ← define? value key members
        match ← skip? rest with
        | ',' :: rest => takeMembers? fuel room members rest
        | '\x7d' :: rest => return (members, rest)
        | _ => none
      | _ => none

end

/-- The value at the start of a text, and the rest. -/
def takeValue? (cs : List Char) : Option (Toml × List Char) :=
  takeNested? (2 * cs.length + 2) maxDepth cs

/-- The path of a header up to its closing brackets, and the rest of its line. -/
def takeHeader? (closing : List Char) (cs : List Char) : Option (List String × List Char) := do
  let (path, rest) ← takeKey? cs
  if closing.isPrefixOf rest then some (path, rest.drop closing.length) else none

/-- Reads the lines of a document; `section` is the path of the last header. -/
def readLines? : Nat → List String → Members → List Char → Option Members
  | 0, _, _, _ => none
  | fuel + 1, place, members, cs => do
    match ← skip? cs with
    | [] => return members
    | '[' :: '[' :: rest =>
      let (path, rest) ← takeHeader? [']', ']'] rest
      readLines? fuel path (← openItem? path members) (← endLine? rest)
    | '[' :: rest =>
      let (path, rest) ← takeHeader? [']'] rest
      readLines? fuel path (← openTable? path members) (← endLine? rest)
    | cs =>
      let (key, rest) ← takeKey? cs
      match rest with
      | '=' :: rest =>
        let (value, rest) ← takeValue? (skipBlanks rest)
        let members ← within? (define? value key) place members
        readLines? fuel place members (← endLine? rest)
      | _ => none

/-- The document of a text. -/
def parse? (text : String) : Option Toml :=
  let cs :=
    match text.toList with
    | '\ufeff' :: rest => rest
    | cs => cs
  (readLines? (cs.length + 1) [] [] cs).map (table .header)

end EventSieve.Toml
