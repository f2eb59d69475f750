import EventSieve.Text.CodeSet

/-!
# Regular expressions

Regular expressions over characters, and where in a text they match. A set of positions of a
text is a natural number whose bit `i` stands for the position before the character `i`, so an
expression is a map from the positions where a match may begin to those where it may end.

## Main definitions

* `Look` — the tests on a position
* `Regex` — regular expressions
* `Regex.ends` — where matches end that begin at some positions
* `Regex.isFoundIn` — whether some part of a text matches
-/
namespace EventSieve.Pattern

open Text (CodeSet)

/-- Sets of positions of a text. -/
abbrev Places := Nat

/-- The tests on a position. A word is made of the members of a set of code points. -/
inductive Look where
  | textStart | textEnd
  | lineStart | lineEnd
  /-- As `lineStart` and `lineEnd`, where a return, a line feed, and a return with a line feed
  after it all end a line. -/
  | anyLineStart | anyLineEnd
  | wordBoundary (word : CodeSet)
  | noWordBoundary (word : CodeSet)
  | wordStart (word : CodeSet)
  | wordEnd (word : CodeSet)
  | noWordBefore (word : CodeSet)
  | noWordAfter (word : CodeSet)
deriving DecidableEq, Repr

/-- Whether a position passes a test, by the characters before and after it. -/
def Look.holds (look : Look) (before after : Option Char) : Bool :=
  let isWord (word : CodeSet) (c : Option Char) : Bool := c.any word.memChar
  match look with
  | textStart => before.isNone
  | textEnd => after.isNone
  | lineStart => before.all (· == '\n')
  | lineEnd => after.all (· == '\n')
  | anyLineStart =>
    before.isNone || before == some '\n' || (before == some '\r' && after != some '\n')
  | anyLineEnd =>
    after.isNone || after == some '\r' || (after == some '\n' && before != some '\r')
  | wordBoundary word => isWord word before != isWord word after
  | noWordBoundary word => isWord word before == isWord word after
  | wordStart word => !isWord word before && isWord word after
  | wordEnd word => isWord word before && !isWord word after
  | noWordBefore word => !isWord word before
  | noWordAfter word => !isWord word after

/-- Regular expressions. -/
inductive Regex where
  | empty
  | oneOf (codes : CodeSet)
  | look (look : Look)
  | seq (first second : Regex)
  | alt (one other : Regex)
  /-- At least `least` times, and at most `most` times if that is given. A frugal repetition takes
  as few as it can, which tells where the preferred match ends and not whether there is one. -/
  | times (inner : Regex) (least : Nat) (most : Option Nat) (frugal : Bool)
  /-- A part in parentheses, with its number if its match can be asked for. -/
  | group (number : Option Nat) (inner : Regex)
deriving Repr

namespace Regex

/-- The positions before the characters of a text that are in a set. -/
def placesOf (codes : CodeSet) : List Char → Places
  | [] => 0
  | c :: rest => 2 * placesOf codes rest + if codes.memChar c then 1 else 0

/-- The positions of a text that pass a test; `before` is the character before the text. -/
def placesAt (look : Look) (before : Option Char) : List Char → Places
  | [] => if look.holds before none then 1 else 0
  | c :: rest =>
    2 * placesAt look (some c) rest + if look.holds before (some c) then 1 else 0

/-- The positions reached by exactly `count` steps; it stops where a step changes nothing. -/
def stepExactly (step : Places → Places) : Nat → Places → Places
  | 0, places => places
  | count + 1, places =>
    let next := step places
    if next = places then places else stepExactly step count next

/-- The positions reached by at most `count` steps; it stops where a step adds nothing. -/
def stepAtMost (step : Places → Places) : Nat → Places → Places
  | 0, places => places
  | count + 1, places =>
    let next := places ||| step places
    if next = places then places else stepAtMost step count next

/-- Where the matches end that begin at some positions of a text. Any number of times is as
many times as the text has positions, since every useful time adds one. -/
def ends (text : List Char) : Regex → Places → Places
  | empty => id
  | oneOf codes =>
    let here := placesOf codes text
    fun places => 2 * (places &&& here)
  | look test =>
    let here := placesAt test none text
    fun places => places &&& here
  | seq first second =>
    let one := ends text first
    let two := ends text second
    fun places => two (one places)
  | alt one other =>
    let left := ends text one
    let right := ends text other
    fun places => left places ||| right places
  | group _ inner => ends text inner
  | times inner least most _ =>
    let step := ends text inner
    let more := match most with
      | none => text.length + 1
      | some count => count - least
    fun places => stepAtMost step more (stepExactly step least places)

/-- Whether some part of a text matches. -/
def isFoundIn (regex : Regex) (text : List Char) : Bool :=
  ends text regex (Nat.pow 2 (text.length + 1) - 1) != 0

end Regex
end EventSieve.Pattern
