/-!
# Sets of code points

A set of code points is kept as disjoint ranges in increasing order. The tables of the
character standard are kept as text: numbers in base 32, the low digit first, in which the
digits `0`–`9`, `a`–`v` end a number and the others say that more digits follow.

## Main definitions

* `CodeSet` — ranges of code points, with `mem`, `union`, `compl`, `inter`, `diff`
* `CodeSet.ofRanges` — any ranges, brought into order
* `CodeSet.unpack` — the numbers of a table
-/
namespace EventSieve.Text

/-- A set of code points: disjoint ranges in increasing order, each with its two ends. -/
abbrev CodeSet := List (Nat × Nat)

namespace CodeSet

/-- The last code point. -/
def maxCode : Nat := 0x10FFFF

/-- Whether a code point belongs to the set. -/
def mem (set : CodeSet) (code : Nat) : Bool :=
  set.any fun range => range.1 ≤ code && code ≤ range.2

/-- Whether a character belongs to the set. -/
def memChar (set : CodeSet) (c : Char) : Bool :=
  set.mem c.toNat

/-- Joins a range with the ranges after it that overlap or touch it, and those among each other;
the ranges come in increasing order of their starts. -/
def mergeFrom (range : Nat × Nat) : List (Nat × Nat) → CodeSet
  | [] => [range]
  | next :: rest =>
    if next.1 ≤ range.2 + 1 then mergeFrom (range.1, max range.2 next.2) rest
    else range :: mergeFrom next rest

/-- Joins ranges that overlap or touch; the ranges come in increasing order of their starts. -/
def merge : List (Nat × Nat) → CodeSet
  | [] => []
  | range :: rest => mergeFrom range rest

/-- The set that some ranges cover, in whatever order they come. -/
def ofRanges (ranges : List (Nat × Nat)) : CodeSet :=
  merge ((ranges.filter fun range => range.1 ≤ range.2).mergeSort fun a b => a.1 ≤ b.1)

/-- The code points of one set or the other. -/
def union (a b : CodeSet) : CodeSet :=
  ofRanges (a ++ b)

/-- What the ranges leave out from `start` on. -/
def gapsFrom (start : Nat) : CodeSet → CodeSet
  | [] => if start ≤ maxCode then [(start, maxCode)] else []
  | (low, high) :: rest =>
    if start < low then (start, low - 1) :: gapsFrom (high + 1) rest
    else gapsFrom (high + 1) rest

/-- The code points that are not in the set. -/
def compl (set : CodeSet) : CodeSet :=
  gapsFrom 0 set

/-- The code points of both sets. -/
def inter (a b : CodeSet) : CodeSet :=
  compl (union (compl a) (compl b))

/-- The code points of the first set that are not in the second. -/
def diff (a b : CodeSet) : CodeSet :=
  inter a (compl b)

/-- The code points of exactly one of the sets. -/
def symmDiff (a b : CodeSet) : CodeSet :=
  diff (union a b) (inter a b)

/-- Whether all members are ASCII. -/
def isAscii (set : CodeSet) : Bool :=
  set.all (·.2 ≤ 0x7F)

/-! ## Tables -/

/-- The value of a digit; from 32 on it also says that the number goes on. -/
def digitValue (c : Char) : Nat :=
  let n := c.toNat
  if '0' ≤ c && c ≤ '9' then n - 48
  else if 'a' ≤ c && c ≤ 'v' then n - 87
  else if 'A' ≤ c && c ≤ 'Z' then n - 33
  else if 'w' ≤ c && c ≤ 'z' then n - 61
  else if c = '-' then 62
  else 63

/-- The numbers written in some digits, after `value` with the next digit counting `weight`. -/
def unpackFrom (value weight : Nat) : List Char → List Nat
  | [] => []
  | c :: rest =>
    let digit := digitValue c
    if digit < 32 then (value + digit * weight) :: unpackFrom 0 1 rest
    else unpackFrom (value + (digit - 32) * weight) (weight * 32) rest

/-- The numbers of a table. -/
def unpack (table : String) : List Nat :=
  unpackFrom 0 1 table.toList

/-- The ranges given by pairs of numbers: the gap before a range, and how many code points it
has after its first. -/
def ofGapsFrom (start : Nat) : List Nat → CodeSet
  | gap :: more :: rest =>
    (start + gap, start + gap + more) :: ofGapsFrom (start + gap + more + 1) rest
  | _ => []

/-- The ranges given by pairs of numbers, from the first code point on. -/
def ofGaps (numbers : List Nat) : CodeSet :=
  ofGapsFrom 0 numbers

/-- The runs whose value is wanted; the numbers come in pairs, a length and a value. -/
def ofRunsFrom (start : Nat) (wanted : Nat → Bool) : List Nat → List (Nat × Nat)
  | length :: value :: rest =>
    let later := ofRunsFrom (start + length) wanted rest
    if wanted value then (start, start + length - 1) :: later else later
  | _ => []

/-- The code points in the runs whose value is wanted. -/
def ofRuns (numbers : List Nat) (wanted : Nat → Bool) : CodeSet :=
  merge (ofRunsFrom 0 wanted numbers)

/-- Pairs of code points given by quadruples of numbers: the distance of a run's first code
point from the last of the run before, the number of its further members, their distance from
one another, and the distance to the partner, doubled, and less one where it is negative. -/
def pairsFrom (start : Nat) : List Nat → List (Nat × Nat)
  | gap :: more :: step :: shift :: rest =>
    let low := start + gap
    let partner (code : Nat) : Nat :=
      if shift % 2 = 0 then code + shift / 2 else code - (shift + 1) / 2
    (List.range (more + 1)).map (fun i => (low + i * step, partner (low + i * step))) ++
      pairsFrom (low + more * step) rest
  | _ => []

end CodeSet
end EventSieve.Text
