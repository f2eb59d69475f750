import EventSieve.Text.CodeSet

/-!
# Spellings

A code point is spelled in UTF-8 by one to four bytes. The code points of a set are spelled by
sequences of ranges of bytes: a sequence stands for all spellings with one byte of each range.

## Main definitions

* `spelling` — the bytes that spell a code point
* `spellings` — the sequences of ranges of bytes that spell the code points of a set
-/
namespace EventSieve.Pattern

open Text (CodeSet)

/-- A range of bytes, with both its ends. -/
abbrev ByteRange := Nat × Nat

/-- The blocks of code points that have spellings of one length. -/
def spelledBlocks : List (Nat × Nat) :=
  [(0, 0x7F), (0x80, 0x7FF), (0x800, 0xD7FF), (0xE000, 0xFFFF), (0x10000, 0x10FFFF)]

/-- The bytes that spell a code point. -/
def spelling (code : Nat) : List Nat :=
  let tail (shift : Nat) : Nat := 0x80 + code / shift % 64
  if code < 0x80 then [code]
  else if code < 0x800 then [0xC0 + code / 64, tail 1]
  else if code < 0x10000 then [0xE0 + code / 4096, tail 64, tail 1]
  else [0xF0 + code / 262144, tail 4096, tail 64, tail 1]

/-- A range in one block of `spelledBlocks` cut so that no part reaches over the end of a group of
`size` code points, unless it is made of whole groups. ASCII is not cut. -/
def cutRange (size : Nat) (range : Nat × Nat) : List (Nat × Nat) :=
  let (low, high) := range
  if low < 0x80 ∨ low / size = high / size then [range]
  else
    let first := (low + size - 1) / size * size
    let last := (high + 1) / size * size
    [(low, first - 1), (first, last - 1), (last, high)].filter fun part =>
      low ≤ part.1 && part.1 ≤ part.2 && part.2 ≤ high

/-- The sequences of ranges of bytes that spell the code points of a set, in order. -/
def spellings (codes : CodeSet) : List (List ByteRange) :=
  let inBlocks := codes.flatMap fun range =>
    (spelledBlocks.map fun block => (max range.1 block.1, min range.2 block.2)).filter fun part =>
      part.1 ≤ part.2
  let parts := [64, 4096, 262144].foldl (fun parts size => parts.flatMap (cutRange size)) inBlocks
  parts.map fun part => (spelling part.1).zip (spelling part.2)

end EventSieve.Pattern
