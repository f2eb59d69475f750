import EventSieve.Number.Digits
import EventSieve.Pattern.Regex
import EventSieve.Text.Blank

/-!
# Reading patterns step by step

Reading keeps the rest of the pattern and the flags, which groups such as `(?i)` change up to
the end of the group around them. Where the flags ask for it, blanks and comments in the pattern
stand for nothing.

## Main definitions

* `Flags` — how the rest of a pattern is read
* `Reader` — a step of reading, which may fail
* `Reader.takeAll` — the characters from here on that pass a test
-/
namespace EventSieve.Pattern

/-- How a pattern is read. -/
structure Flags where
  ignoreCase : Bool := false
  multiLine : Bool := false
  dotAll : Bool := false
  anyLineEnd : Bool := false
  /-- Repetitions take as few as they can, and with a question mark as many. -/
  frugal : Bool := false
  unicode : Bool := true
  /-- Blanks and comments in the pattern stand for nothing. -/
  spaced : Bool := false

/-- What reading keeps: the rest of the pattern, the flags, the names of groups, and how many
groups have a number. -/
structure Progress where
  rest : List Char
  flags : Flags := {}
  names : List (List Char) := []
  numbered : Nat := 0

/-- A step of reading, which may fail. -/
abbrev Reader := StateT Progress Option

/-- An expression and how deeply its parts are nested. -/
structure Piece where
  regex : Regex
  depth : Nat

namespace Reader

/-- The next character, if there is one. -/
def peek : Reader (Option Char) := do
  return (← get).rest.head?

/-- The next character, which stays. -/
def next : Reader Char := do
  match (← get).rest with
  | [] => failure
  | c :: _ => return c

/-- Whether the pattern goes on with some characters. -/
def startsWith (text : List Char) : Reader Bool := do
  return text.isPrefixOf (← get).rest

/-- Drops some characters. -/
def drop (count : Nat) : Reader Unit :=
  modify fun s => { s with rest := s.rest.drop count }

/-- The rest of a pattern after the blanks and comments at its start. A comment goes from a
number sign to the end of the line. -/
def skipSpace : Nat → List Char → List Char
  | 0, cs => cs
  | _ + 1, [] => []
  | fuel + 1, c :: rest =>
    if Text.isBlank c then skipSpace fuel rest
    else if c = '#' then skipSpace fuel ((rest.dropWhile (· ≠ '\n')).drop 1)
    else c :: rest

/-- Skips blanks and comments where they stand for nothing. -/
def space : Reader Unit :=
  modify fun s =>
    if s.flags.spaced then { s with rest := skipSpace s.rest.length s.rest } else s

/-- Drops one character and what stands for nothing after it. -/
def advance : Reader Unit := do
  drop 1
  space

/-- Fails unless a condition holds. -/
def require (condition : Bool) : Reader Unit :=
  if condition then pure () else failure

/-- Drops a character that has to be there. -/
def expect (c : Char) : Reader Unit := do
  require ((← next) == c)
  drop 1

/-- The characters up to one that fails a test; what stands for nothing is dropped between. -/
def takeSpaced (test : Char → Bool) : Nat → Reader (List Char)
  | 0 => return []
  | fuel + 1 => do
    match ← peek with
    | some c =>
      if test c then
        advance
        return c :: (← takeSpaced test fuel)
      else return []
    | none => return []

/-- The characters from here on that pass a test. -/
def takeAll (test : Char → Bool) : Reader (List Char) := do
  takeSpaced test (← get).rest.length

end Reader
end EventSieve.Pattern
