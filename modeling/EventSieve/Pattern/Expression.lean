import EventSieve.Pattern.Bracket
import EventSieve.Pattern.Footprint
import EventSieve.Pattern.Group

/-!
# Patterns as expressions

The text of a pattern becomes a regular expression, or nothing if it is malformed, nested too
deeply or too large.

## Main definitions

* `Reader.expression` — the expression up to the end of a pattern or of a group
* `Regex.parse?` — the expression of a pattern
-/
namespace EventSieve.Pattern

open Text (CodeSet)

namespace Reader

/-- Expressions one after the other; several are nested one deeper than a single one. -/
def joinSequence (pieces : List Piece) : Piece :=
  match pieces with
  | [] => ⟨.empty, 0⟩
  | [piece] => piece
  | first :: more =>
    { regex := more.foldl (fun before piece => .seq before piece.regex) first.regex
      depth := (pieces.map Piece.depth).foldl max 0 + 1 }

/-- Expressions to choose from; several are nested one deeper than a single one. -/
def joinChoices (pieces : List Piece) : Piece :=
  match pieces with
  | [] => ⟨.empty, 0⟩
  | [piece] => piece
  | first :: more =>
    { regex := more.foldl (fun before piece => .alt before piece.regex) first.regex
      depth := (pieces.map Piece.depth).foldl max 0 + 1 }

/-- The pieces of a sequence; flags count as pieces in it, but match nothing. -/
def sequenceOf (items : List (Option Piece)) : Piece :=
  match items with
  | [none] => ⟨.empty, 0⟩
  | _ => joinSequence (items.map fun item => item.getD ⟨.empty, 0⟩)

/-- A character, in either case if case is ignored. -/
def literal (flags : Flags) (c : Char) (byte : Bool) : Reader Piece := do
  require (flags.unicode || !byte || c.toNat < 128)
  return ⟨.oneOf (foldAndNegate flags false [(c.toNat, c.toNat)]), 0⟩

/-- What an escape stands for outside of classes. -/
def atomPiece (flags : Flags) : Atom → Reader Piece
  | .char c byte => literal flags c byte
  | .set codes => return ⟨.oneOf codes, 0⟩
  | .look look => return ⟨.look look, 0⟩

/-- Any character, or any that ends no line. -/
def dot (flags : Flags) : Reader Piece := do
  require flags.unicode
  let lineEnds : CodeSet := if flags.anyLineEnd then [(10, 10), (13, 13)] else [(10, 10)]
  return ⟨.oneOf (if flags.dotAll then Class.everything else Class.others lineEnds), 0⟩

/-- The look of `^`. -/
def startLook (flags : Flags) : Look :=
  if !flags.multiLine then .textStart
  else if flags.anyLineEnd then .anyLineStart
  else .lineStart

/-- The look of `$`. -/
def endLook (flags : Flags) : Look :=
  if !flags.multiLine then .textEnd
  else if flags.anyLineEnd then .anyLineEnd
  else .lineEnd

/-- One character, escape, dot, anchor or class. -/
def primitive : Reader Piece := do
  let flags := (← get).flags
  let c ← next
  match c with
  | '\\' => atomPiece flags (← escape)
  | '[' => bracketClass
  | '.' => drop 1; dot flags
  | '^' => drop 1; return ⟨.look (startLook flags), 0⟩
  | '$' => drop 1; return ⟨.look (endLook flags), 0⟩
  | _ => drop 1; literal flags c false

/-- The bounds of the repetition at the start of the pattern, if there is one. -/
def bounds? : Reader (Option (Nat × Option Nat)) := do
  match ← peek with
  | some '?' => drop 1; return some (0, some 1)
  | some '*' => drop 1; return some (0, none)
  | some '+' => drop 1; return some (1, none)
  | some '\x7b' => return some (← counts)
  | _ => return none

/-- An expression up to the end of the pattern or to a parenthesis that closes it. `choices` are
the choices before this one and `items` the parts read of this one, the last first. -/
def expression : Nat → List Piece → List (Option Piece) → Reader Piece
  | 0, _, _ => failure
  | fuel + 1, choices, items => do
    space
    match ← peek with
    | none | some ')' => return joinChoices ((sequenceOf items.reverse :: choices).reverse)
    | some '|' =>
      drop 1
      expression fuel (sequenceOf items.reverse :: choices) []
    | some '(' =>
      let outside := (← get).flags
      match ← groupOpen with
      | .flags => expression fuel choices (none :: items)
      | .group inside number =>
        modify fun s => { s with flags := inside }
        let inner ← expression fuel [] []
        expect ')'
        modify fun s => { s with flags := outside }
        expression fuel choices (some ⟨.group number inner.regex, inner.depth + 1⟩ :: items)
    | some _ =>
      match ← bounds? with
      | none => expression fuel choices (some (← primitive) :: items)
      | some (least, most) =>
        let frugal ← isFrugal
        match items with
        | some piece :: before =>
          expression fuel choices
            (some ⟨.times piece.regex least most frugal, piece.depth + 1⟩ :: before)
        | _ => failure

end Reader

/-- How deeply the parts of a pattern may be nested. -/
def depthLimit : Nat := 250

/-- The expression of a pattern, if it is well formed and within the limits. -/
def Regex.parse? (text : String) : Option Regex := do
  let cs := text.toList
  let (piece, after) ← (Reader.expression (cs.length + 1) [] []).run { rest := cs }
  if after.rest.isEmpty ∧ piece.depth ≤ depthLimit ∧ piece.regex.isSmall then some piece.regex
  else none

end EventSieve.Pattern
