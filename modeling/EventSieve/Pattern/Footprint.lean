import EventSieve.Pattern.Plan
import Std.Data.HashMap

/-!
# The size of a pattern

A pattern is refused if an automaton of its expression is too large. There are two automata: one
reads the bytes that spell a text from the first one on and keeps what groups match, the other
reads from the last one back and keeps nothing. Their sizes are counted in bytes: a state has 32,
an edge of a choice 4, and a range of bytes that a state looks for beside others 8.

A class of characters that are not all ASCII looks for the sequences of ranges that spell them.
States with the same edges are built once, as long as they are remembered: a memory has a number
of places, a state takes the place that its edges tell, and one that comes later takes it over.

## Main definitions

* `Size` — the size of what is built of an automaton
* `Draft` — what is built of a class, with the states that are remembered
* `trieSize` — the size of a choice between words
* `Plan.grow` — what a plan adds to an automaton
* `Regex.isSmall` — whether both automata of an expression are within the limit
-/
namespace EventSieve.Pattern

open Text (CodeSet)

/-! ## Sizes -/

/-- The size of what is built: how many states there are, and the bytes of what they hold. -/
structure Size where
  states : Nat := 0
  held : Nat := 0
deriving DecidableEq, Repr

namespace Size

instance : Add Size where
  add one other := ⟨one.states + other.states, one.held + other.held⟩

/-- One state. -/
def state : Size := ⟨1, 0⟩

/-- A state with edges to choose from. -/
def fork (edges : Nat) : Size := ⟨1, 4 * edges⟩

/-- A state that looks for some ranges of bytes. -/
def sparse (ranges : Nat) : Size := ⟨1, 8 * ranges⟩

/-- The bytes of all states. -/
def bytes (size : Size) : Nat :=
  32 * size.states + size.held

/-- The bytes that an automaton may have. -/
def limit : Nat := 10 * 1024 * 1024

/-- Whether the size is within the limit. -/
def isWithin (size : Size) : Bool :=
  size.bytes ≤ limit

@[simp] theorem bytes_add (one other : Size) :
    (one + other).bytes = one.bytes + other.bytes := by
  show 32 * (one.states + other.states) + (one.held + other.held) = _
  simp only [bytes]
  omega

end Size

/-! ## Classes -/

/-- States remembered by their edges. -/
structure Memory where
  places : Nat
  entries : Std.HashMap Nat (List Nat × Nat) := {}

namespace Memory

/-- The place of some edges. -/
def place (memory : Memory) (edges : List Nat) : Nat :=
  let mix (hash : UInt64) (number : Nat) : UInt64 :=
    (hash ^^^ number.toUInt64) * 1099511628211
  (edges.foldl mix 14695981039346656037).toNat % memory.places

/-- The state with some edges, if it is still remembered. -/
def find? (memory : Memory) (edges : List Nat) : Option Nat := do
  let (known, state) ← memory.entries[memory.place edges]?
  if known = edges then some state else none

/-- Remembers a state by its edges. -/
def insert (memory : Memory) (edges : List Nat) (state : Nat) : Memory :=
  { memory with entries := memory.entries.insert (memory.place edges) (edges, state) }

end Memory

/-- What is built of a class, with the states that are remembered. -/
structure Draft where
  size : Size
  memory : Memory

/-- The state with some edges: one that is remembered, or a new one. -/
def Draft.stateOf (draft : Draft) (edges : List Nat) (new : Size) : Nat × Draft :=
  match draft.memory.find? edges with
  | some state => (state, draft)
  | none =>
    let state := draft.size.states
    (state, ⟨draft.size + new, draft.memory.insert edges state⟩)

/-- The state that reads some sequences from their first range on, and the draft with it.
Sequences that begin alike share a state, and so do those that end alike. -/
def readForth (finish : Nat) : Nat → List (List ByteRange) → Draft → Nat × Draft
  | 0, _, draft => (finish, draft)
  | depth + 1, sequences, draft =>
    if sequences.all List.isEmpty then (finish, draft)
    else
      let groups := sequences.splitBy fun one other => one.head? == other.head?
      let (edges, draft) := groups.foldl (fun (edges, draft) group =>
        let (low, high) := ((group.head?.bind List.head?).getD (0, 0))
        let (next, draft) := readForth finish depth (group.map (List.drop 1)) draft
        (edges ++ [low, high, next], draft)) ([], draft)
      draft.stateOf edges (.sparse groups.length)

/-- The draft with the states that read a sequence from its last range back. -/
def readBack (finish : Nat) (sequence : List ByteRange) (draft : Draft) : Draft :=
  (sequence.foldl (fun (next, draft) (low, high) =>
    Draft.stateOf draft [next, low, high] .state) (finish, draft)).2

/-- What a class adds to an automaton. -/
def growClass (backward : Bool) (codes : CodeSet) : Size → Size :=
  if codes.isAscii then fun size => size + .state + .sparse codes.length
  else
    let sequences := spellings codes
    if backward then fun size =>
      let finish := size.states + 1
      let start : Draft := ⟨size + .fork sequences.length + .state, ⟨1000, {}⟩⟩
      (sequences.foldl (fun draft sequence => readBack finish sequence draft) start).size
    else fun size =>
      (readForth size.states 4 sequences ⟨size + .state, ⟨10000, {}⟩⟩).2.size

/-! ## Words -/

/-- Words parted where one is empty. -/
def parted : List (List Nat) → List (List (List Nat))
  | [] => [[]]
  | [] :: rest => [] :: parted rest
  | word :: rest =>
    match parted rest with
    | first :: more => (word :: first) :: more
    | [] => [[word]]

/-- The size of the tree that tells words apart, without its last state. A word that is complete
parts those before it from those after it, which share nothing. -/
def treeSize : Nat → List (List Nat) → Size
  | 0, _ => {}
  | length + 1, words =>
    if words.all List.isEmpty then {}
    else
      let rest := words.dropWhile List.isEmpty
      let chunks := if rest.length = words.length then parted rest else [] :: parted rest
      let sizes := chunks.map fun chunk =>
        let heads := (chunk.filterMap List.head?).eraseDups
        let below := heads.map fun head =>
          treeSize length (chunk.filterMap fun
            | [] => none
            | first :: rest => if first = head then some rest else none)
        let own : Size :=
          match heads.length with
          | 0 => {}
          | 1 => .state
          | count => .sparse count
        below.foldl (· + ·) own
      let edges := (chunks.filter fun chunk => !chunk.isEmpty).length + (chunks.length - 1)
      sizes.foldl (· + ·) (.fork edges)

/-- The size of a choice between words. -/
def trieSize (words : List (List Nat)) : Size :=
  treeSize ((words.map List.length).foldl max 0 + 1) words + .state

/-! ## Plans -/

/-- Some times the same, until the limit is passed. -/
def growTimes (step : Size → Size) : Nat → Size → Size
  | 0, size => size
  | count + 1, size => if size.isWithin then growTimes step count (step size) else size

/-- What a repetition adds to an automaton. -/
def growRepeated (admitsEmpty : Bool) (step : Size → Size) (least : Nat) (most : Option Nat) :
    Size → Size :=
  match least, most with
  | 0, some 1 => fun size => step (size + .fork 2) + .state
  | 0, none =>
    if admitsEmpty then fun size => step size + .fork 2 + .fork 2 + .state
    else fun size => step (size + .fork 2)
  | least, none => fun size => growTimes step least size + .fork 2
  | least, some most => fun size =>
    let always := if least = 0 then size + .state else growTimes step least size
    if least = most then always
    else growTimes (fun size => step (size + .fork 2)) (most - least) (always + .state)

/-- What a choice adds to an automaton, after what its branches add. -/
def growChoice (steps : List (Size → Size)) : Size → Size :=
  match steps with
  | [] => id
  | [step] => step
  | one :: other :: more => fun size =>
    more.foldl (fun size step => step size) (other (one size) + .fork steps.length + .state)

namespace Plan

/-- The bytes of the words that a plan is a choice between, if all branches are words. -/
def words? (plan : Plan) : Option (List (List Nat)) :=
  if plan.branches.length > 1 then
    plan.branches.mapM fun
      | word codes => some (codes.flatMap spelling)
      | _ => none
  else none

/-- What a choice adds to an automaton. Words share the states in which they begin alike. -/
def growBranches (backward : Bool) (plan : Plan) (steps : List (Size → Size)) : Size → Size :=
  match plan.words? with
  | some words =>
    let size := trieSize (if backward then words.map List.reverse else words)
    (· + size)
  | none => growChoice steps

/-- What the branches of a plan add to an automaton. -/
def growEach (backward : Bool) : Plan → List (Size → Size)
  | empty | look _ => [(· + .state)]
  | word codes => [(· + ⟨(codes.flatMap spelling).length, 0⟩)]
  | set codes => [growClass backward codes]
  | seq first rest =>
    let one := growBranches backward first (growEach backward first)
    let two := growBranches backward rest (growEach backward rest)
    [if backward then one ∘ two else two ∘ one]
  | choice one rest => growEach backward one ++ growEach backward rest
  | times inner least most _ =>
    let step := growBranches backward inner (growEach backward inner)
    [growRepeated (inner.shortest?.all (· == 0)) step least most]
  | group _ inner =>
    let step := growBranches backward inner (growEach backward inner)
    [if backward then step else fun size => step (size + .state) + .state]

/-- What a plan adds to an automaton. -/
def grow (backward : Bool) (plan : Plan) : Size → Size :=
  growBranches backward plan (growEach backward plan)

/-- The size of what comes before a plan: a state if a match is sure where it begins, and else a
loop over all bytes. -/
def leadSize (isSure : Bool) : Size :=
  if isSure then .state else .fork 2 + .state + .sparse 1

/-- The size of the automaton that reads from the first byte on. All of a match is a group too. -/
def forwardSize (plan : Plan) : Size :=
  plan.grow false (leadSize plan.isAtStart + .state) + .state + .state

/-- The size of the automaton that reads from the last byte back. -/
def backwardSize (plan : Plan) : Size :=
  plan.grow true (leadSize plan.isAtEnd) + .state

end Plan

/-- Whether the automata of an expression are within the limit. -/
def Regex.isSmall (regex : Regex) : Bool :=
  let plan := Plan.ofRegex regex
  plan.forwardSize.isWithin && plan.backwardSize.isWithin

end EventSieve.Pattern
