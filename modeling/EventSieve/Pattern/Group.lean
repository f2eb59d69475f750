import EventSieve.Pattern.Class
import EventSieve.Pattern.Reader
import EventSieve.Text.Letter

/-!
# Groups and repetitions

What may stand after the parenthesis that opens a group, and after the part of a pattern that is
repeated.

## Main definitions

* `Reader.groupOpen` — the start of a group, with the flags inside it
* `Reader.counts` — the bounds of a repetition in braces
-/
namespace EventSieve.Pattern

namespace Reader

/-- Sets or clears one flag. -/
def setFlag? (flags : Flags) (on : Bool) (c : Char) : Option Flags :=
  match c with
  | 'i' => some { flags with ignoreCase := on }
  | 'm' => some { flags with multiLine := on }
  | 's' => some { flags with dotAll := on }
  | 'U' => some { flags with frugal := on }
  | 'u' => some { flags with unicode := on }
  | 'R' => some { flags with anyLineEnd := on }
  | 'x' => some { flags with spaced := on }
  | _ => none

/-- The flags that some letters set, and after a hyphen clear. No letter comes twice. -/
def applyFlags? (flags : Flags) (on : Bool) (seen : List Char) : List Char → Option Flags
  | [] => some flags
  | ['-'] => none
  | c :: rest =>
    if seen.contains c then none
    else if c = '-' then applyFlags? flags false (c :: seen) rest
    else do applyFlags? (← setFlag? flags on c) on (c :: seen) rest

/-- Whether a character may begin the name of a group. -/
def isNameStart (c : Char) : Bool :=
  c == '_' || Text.isAlphabetic c

/-- Whether a character may stand in the name of a group after its first. -/
def isNamePart (c : Char) : Bool :=
  isNameStart c || c == '.' || c == '[' || c == ']' || Text.isNumeric c

/-- The name of a group up to the angle that closes it. No name comes twice. -/
def groupName : Reader Unit := do
  let s ← get
  let name := s.rest.takeWhile (· ≠ '>')
  let isName :=
    match name with
    | [] => false
    | c :: rest => isNameStart c && rest.all isNamePart
  require (isName && !s.names.contains name)
  set { s with rest := s.rest.drop name.length, names := name :: s.names }
  expect '>'

/-- What an opening parenthesis begins. -/
inductive Opening where
  /-- A group with flags of its own, and its number if it has one. -/
  | group (inside : Flags) (number : Option Nat)
  /-- No group: the flags of what follows have changed. -/
  | flags

/-- A group with the next number. -/
def numberedGroup : Reader Opening := do
  let s ← get
  set { s with numbered := s.numbered + 1 }
  return .group s.flags (some (s.numbered + 1))

/-- What follows an opening parenthesis. -/
def groupOpen : Reader Opening := do
  drop 1
  space
  let s ← get
  if ["?=", "?!", "?<=", "?<!"].any fun mark => mark.toList.isPrefixOf s.rest then failure
  else if ← startsWith ['?', 'P', '<'] then
    drop 3
    groupName
    numberedGroup
  else if ← startsWith ['?', '<'] then
    drop 2
    groupName
    numberedGroup
  else if ← startsWith ['?'] then
    drop 1
    let letters := (← get).rest.takeWhile fun c => c != ':' && c != ')'
    drop letters.length
    let closing ← next
    drop 1
    let flags ← (applyFlags? s.flags true [] letters : Option Flags)
    if closing = ')' then
      require !letters.isEmpty
      modify fun s => { s with flags }
      return .flags
    else return .group flags none
  else numberedGroup

/-! ## Repetition -/

/-- A number of repetitions, with blanks around it. -/
def countNumber : Reader (Option Nat) := do
  modify fun s => { s with rest := s.rest.dropWhile Text.isBlank }
  let digits ← takeAll Char.isDigit
  modify fun s => { s with rest := s.rest.dropWhile Text.isBlank }
  if digits.isEmpty then return none
  else
    let count ← (Number.readRadix? 10 digits : Option Nat)
    require (count < UInt32.size)
    return some count

/-- Whether a repetition is frugal: as the flags say, or the other way if a question mark follows.
-/
def isFrugal : Reader Bool := do
  let usual := (← get).flags.frugal
  if (← peek) = some '?' then
    drop 1
    return !usual
  else return usual

/-- The least and the greatest number of repetitions in braces. -/
def counts : Reader (Nat × Option Nat) := do
  advance
  discard next
  let least ← countNumber
  let least ← (least : Option Nat)
  let range ←
    if (← next) = ',' then do
      advance
      if (← next) = '\x7d' then pure (least, none)
      else do
        let most ← countNumber
        let most ← (most : Option Nat)
        pure (least, some most)
    else pure (least, some least)
  require ((← next) == '\x7d')
  advance
  require (range.2.all (range.1 ≤ ·))
  return range

end Reader
end EventSieve.Pattern
