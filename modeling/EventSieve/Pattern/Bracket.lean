import EventSieve.Pattern.Escape

/-!
# Classes in brackets

A class in brackets lists characters, ranges, escapes and further classes. Two classes are
combined by an operator between them.

## Main definitions

* `Reader.Member` — a part of a class
* `Reader.ClassOp` — the operators between classes
* `Reader.bracketClass` — the class at the start of a pattern
-/
namespace EventSieve.Pattern

open Text (CodeSet)

namespace Reader

/-- A part of a class: its members, how deeply it is nested, and the character if it is one. -/
structure Member where
  codes : CodeSet
  depth : Nat := 0
  char : Option Char := none

/-- The code of a character in a class. Where characters count as bytes it has to be ASCII. -/
def charMember (c : Char) : Reader Member := do
  require ((← get).flags.unicode || c.toNat < 128)
  return { codes := [(c.toNat, c.toNat)], char := some c }

/-- One character or escape of a class. -/
def classAtom : Reader Member := do
  let c ← next
  if c = '\\' then
    match ← escape with
    | .char c _ => charMember c
    | .set codes => return { codes }
    | .look _ => failure
  else
    drop 1
    charMember c

/-- The character after the next one, skipping what stands for nothing. -/
def peekPast : Reader (Option Char) := do
  let s ← get
  let later := s.rest.drop 1
  if s.flags.spaced then
    let skipped := later.dropWhile Text.isBlank
    let skipped :=
      match skipped with
      | '#' :: more => more.dropWhile Text.isBlank
      | _ => skipped
    return (skipped.head? <|> later.head?)
  else return later.head?

/-- A character, an escape or a range of a class. -/
def classRange : Reader Member := do
  let first ← classAtom
  space
  let c ← next
  let past ← peekPast
  if c ≠ '-' ∨ past = some ']' ∨ past = some '-' then return first
  else
    advance
    discard next
    let last ← classAtom
    match first.char, last.char with
    | some low, some high =>
      require (low ≤ high)
      return { codes := [(low.toNat, high.toNat)] }
    | _, _ => failure

/-- The class of ASCII at the start of a text, such as `[:alpha:]`, and the rest. -/
def asciiClass? (cs : List Char) : Option (Bool × CodeSet × List Char) :=
  match cs with
  | '[' :: ':' :: rest =>
    let (negated, rest) :=
      match rest with
      | '^' :: more => (true, more)
      | _ => (false, rest)
    let name := rest.takeWhile (· ≠ ':')
    match rest.dropWhile (· ≠ ':') with
    | ':' :: ']' :: more =>
      (Class.ascii? (String.ofList name)).map fun codes => (negated, codes, more)
    | _ => none
  | _ => none

/-- The operations on classes. -/
inductive ClassOp where
  | intersection
  | difference
  | symmetricDifference

/-- The members of two classes joined by an operation, both closed under case before it. -/
def ClassOp.apply (op : ClassOp) (flags : Flags) (one other : CodeSet) : CodeSet :=
  let one := foldAndNegate flags false (CodeSet.ofRanges one)
  let other := foldAndNegate flags false (CodeSet.ofRanges other)
  match op with
  | intersection => one.inter other
  | difference => one.diff other
  | symmetricDifference => one.symmDiff other

/-- All parts of a class side by side; several are nested one deeper than a single one. -/
def joinMembers (members : List Member) : Member :=
  match members with
  | [member] => member
  | _ =>
    let deepest := (members.map Member.depth).foldl max 0
    { codes := members.flatMap Member.codes
      depth := if members.isEmpty then 0 else deepest + 1 }

/-- The parts read after an operation, joined with those before it. -/
def applyPending (flags : Flags) (pending : Option (ClassOp × Member)) (members : List Member) :
    Member :=
  let right := joinMembers members
  match pending with
  | none => right
  | some (op, left) =>
    { codes := op.apply flags left.codes right.codes, depth := max left.depth right.depth + 1 }

/-- The hyphens at the start of a class, and what follows them. -/
def leadingHyphens : Nat → Reader (List Member)
  | 0 => return []
  | fuel + 1 => do
    if (← next) = '-' then
      advance
      let later ← leadingHyphens fuel
      return (← charMember '-') :: later
    else return []

/-- The start of a class: whether it is negated, and the hyphens and the bracket that are its
first members. -/
def classOpen : Reader (Bool × List Member) := do
  advance
  let negated := (← next) == '^'
  if negated then advance
  let hyphens ← leadingHyphens (← get).rest.length
  discard next
  if hyphens.isEmpty && (← next) = ']' then
    advance
    discard next
    return (negated, [← charMember ']'])
  else return (negated, hyphens)

/-- The operation at the start of a text, if there is one. -/
def classOp? : List Char → Option ClassOp
  | '&' :: '&' :: _ => some .intersection
  | '-' :: '-' :: _ => some .difference
  | '~' :: '~' :: _ => some .symmetricDifference
  | _ => none

/-- The rest of a class up to its bracket. `pending` is what stands before an operation, and
`members` the parts read since, the last first. -/
def classRest (negated : Bool) :
    Nat → Option (ClassOp × Member) → List Member → Reader Member
  | 0, _, _ => failure
  | fuel + 1, pending, members => do
    space
    let s ← get
    let c ← next
    if c = '[' then
      match asciiClass? s.rest with
      | some (negatedClass, codes, rest) =>
        set { s with rest }
        let codes ← checked s.flags (foldAndNegate s.flags negatedClass codes)
        classRest negated fuel pending ({ codes } :: members)
      | none =>
        let (negatedInner, first) ← classOpen
        let inner ← classRest negatedInner fuel none first.reverse
        classRest negated fuel pending (inner :: members)
    else if c = ']' then
      drop 1
      let inside := applyPending s.flags pending members.reverse
      let codes := foldAndNegate s.flags negated (CodeSet.ofRanges inside.codes)
      return { codes := ← checked s.flags codes, depth := inside.depth + 1 }
    else
      match classOp? s.rest with
      | some op =>
        drop 2
        classRest negated fuel (some (op, applyPending s.flags pending members.reverse)) []
      | none =>
        let member ← classRange
        classRest negated fuel pending (member :: members)

/-- A class in brackets. -/
def bracketClass : Reader Piece := do
  let fuel := (← get).rest.length + 1
  let (negated, first) ← classOpen
  let member ← classRest negated fuel none first.reverse
  return ⟨.oneOf member.codes, member.depth⟩

end Reader
end EventSieve.Pattern
