import EventSieve.Pattern.Regex
import EventSieve.Pattern.Spelling

/-!
# Plans of automata

The automaton of an expression is built from a plan, which is the expression made simpler:
neighbouring characters are joined to words, choices between characters or between classes
become one class, what all choices begin with is taken out of them, and what can only be empty is
not repeated.

## Main definitions

* `Plan` — plans of automata
* `Plan.parts`, `Plan.branches` — what a plan is a sequence of, or a choice between
* `Plan.sequence`, `Plan.choose`, `Plan.repeated` — the simplest plan of a sequence, of a choice
  and of a repetition
* `Plan.shortest?`, `Plan.longest?` — the bytes of the shortest and of the longest match
* `Plan.ofRegex` — the plan of an expression
-/
namespace EventSieve.Pattern

open Text (CodeSet)

/-- Plans of automata. Sequences and choices have their first part on the left, which is no
sequence or choice itself. -/
inductive Plan where
  | empty
  /-- The code points of a word, one after the other. -/
  | word (codes : List Nat)
  /-- One code point of a set. -/
  | set (codes : CodeSet)
  | look (look : Look)
  | seq (first rest : Plan)
  | choice (one rest : Plan)
  /-- At least `least` times, and at most `most` times if that is given. -/
  | times (inner : Plan) (least : Nat) (most : Option Nat) (frugal : Bool)
  /-- A part whose match can be asked for by its number. -/
  | group (number : Nat) (inner : Plan)
deriving DecidableEq, Repr

namespace Plan

/-! ## Views -/

/-- What a plan is a sequence of. -/
def parts : Plan → List Plan
  | empty => []
  | seq first rest => first :: parts rest
  | plan => [plan]

/-- The sequence of some parts, as they are. -/
def ofParts : List Plan → Plan
  | [] => empty
  | [part] => part
  | part :: rest => seq part (ofParts rest)

/-- What a plan is a choice between. -/
def branches : Plan → List Plan
  | choice one rest => one :: branches rest
  | plan => [plan]

/-- The choice between some branches, as they are. Without any, nothing matches. -/
def ofBranches : List Plan → Plan
  | [] => set []
  | [branch] => branch
  | branch :: rest => choice branch (ofBranches rest)

/-- How many constructors a plan is made of. -/
def weight : Plan → Nat
  | seq first rest => weight first + weight rest + 1
  | choice one rest => weight one + weight rest + 1
  | times inner _ _ _ => weight inner + 1
  | group _ inner => weight inner + 1
  | _ => 1

@[simp] theorem parts_empty : parts empty = [] := rfl

@[simp] theorem parts_seq (first rest : Plan) : (seq first rest).parts = first :: rest.parts := rfl

@[simp] theorem branches_choice (one rest : Plan) :
    (choice one rest).branches = one :: rest.branches := rfl

/-! ## Lengths -/

/-- The bytes of the shortest match, if there is any match. -/
def shortest? : Plan → Option Nat
  | empty | look _ => some 0
  | word codes => some (codes.flatMap spelling).length
  | set codes => codes.head?.map fun range => (spelling range.1).length
  | seq first rest => do return (← shortest? first) + (← shortest? rest)
  | choice one rest => do return min (← shortest? one) (← shortest? rest)
  | times inner least _ _ => (shortest? inner).map (· * least)
  | group _ inner => shortest? inner

/-- The bytes of the longest match, if there is one. -/
def longest? : Plan → Option Nat
  | empty | look _ => some 0
  | word codes => some (codes.flatMap spelling).length
  | set codes => codes.getLast?.map fun range => (spelling range.2).length
  | seq first rest => do return (← longest? first) + (← longest? rest)
  | choice one rest => do return max (← longest? one) (← longest? rest)
  | times inner _ most _ => do return (← longest? inner) * (← most)
  | group _ inner => longest? inner

/-- Whether every match is empty. -/
def isEmptyOnly (plan : Plan) : Bool :=
  plan.longest? == some 0

/-- Whether every match is sure to begin at the start of the text. -/
def isAtStart : Plan → Bool
  | look .textStart => true
  | seq first rest => isAtStart first || (isEmptyOnly first && isAtStart rest)
  | choice one rest => isAtStart one && isAtStart rest
  | times inner least _ _ => least != 0 && isAtStart inner
  | group _ inner => isAtStart inner
  | _ => false

/-- Whether every match is sure to end at the end of the text. -/
def isAtEnd : Plan → Bool
  | look .textEnd => true
  | seq first rest => isAtEnd rest || (isEmptyOnly rest && isAtEnd first)
  | choice one rest => isAtEnd one && isAtEnd rest
  | times inner least _ _ => least != 0 && isAtEnd inner
  | group _ inner => isAtEnd inner
  | _ => false

/-! ## Simplest plans -/

/-- A code point of a set. A set with one member is a word. -/
def ofCodes (codes : CodeSet) : Plan :=
  match codes with
  | [(low, high)] => if low = high then word [low] else set codes
  | _ => set codes

/-- Joins neighbouring words. -/
def joinWords : List Plan → List Plan
  | [] => []
  | word codes :: rest =>
    match joinWords rest with
    | word more :: later => word (codes ++ more) :: later
    | joined => word codes :: joined
  | plan :: rest => plan :: joinWords rest

/-- The simplest plan of a sequence. -/
def sequence (plans : List Plan) : Plan :=
  ofParts (joinWords (plans.flatMap parts))

/-- The code points of words that have one each. -/
def singles? (plans : List Plan) : Option CodeSet :=
  plans.mapM fun
    | word [code] => some (code, code)
    | _ => none

/-- The code points of sets. -/
def sets? (plans : List Plan) : Option CodeSet :=
  (plans.mapM fun
    | set codes => some codes
    | _ => none).map List.flatten

/-- What two sequences begin with alike. -/
def sharedParts : List Plan → List Plan → List Plan
  | a :: rest, b :: others => if a = b then a :: sharedParts rest others else []
  | _, _ => []

/-- What sequences begin with alike. -/
def commonParts : List Plan → List Plan
  | [] => []
  | first :: rest =>
    if (first :: rest).all fun plan => plan.parts.length > 1 then
      rest.foldl (fun shared plan => sharedParts shared plan.parts) first.parts
    else []

/-- The simplest plan of a choice. Each round takes out parts that all branches begin with. -/
def chooseIn : Nat → List Plan → Plan
  | rounds, plans =>
    let all := plans.flatMap branches
    match all with
    | [] => set []
    | [plan] => plan
    | _ =>
      match singles? all <|> sets? all with
      | some codes => ofCodes (CodeSet.ofRanges codes)
      | none =>
        match rounds, commonParts all with
        | rounds + 1, part :: more =>
          let shared := part :: more
          let endings := all.map fun plan => sequence (plan.parts.drop shared.length)
          sequence (shared ++ [chooseIn rounds endings])
        | _, _ => ofBranches all

/-- The simplest plan of a choice. -/
def choose (plans : List Plan) : Plan :=
  chooseIn ((plans.map weight).foldl (· + ·) 0) plans

/-- The simplest plan of a repetition. What can only be empty is there at most once. -/
def repeated (inner : Plan) (least : Nat) (most : Option Nat) (frugal : Bool) : Plan :=
  let least := if inner.isEmptyOnly then min least 1 else least
  let most := if inner.isEmptyOnly then some (min (most.getD 1) 1) else most
  if most = some 0 then empty
  else if least = 1 ∧ most = some 1 then inner
  else times inner least most frugal

/-- The plans of the choices that an expression leaves. -/
def choices : Regex → List Plan
  | .empty => [empty]
  | .oneOf codes => [ofCodes codes]
  | .look test => [look test]
  | .seq first second => [sequence [choose (choices first), choose (choices second)]]
  | .alt one other => choices one ++ choices other
  | .times inner least most frugal => [repeated (choose (choices inner)) least most frugal]
  | .group none inner => [choose (choices inner)]
  | .group (some number) inner => [group number (choose (choices inner))]

/-- The plan of an expression. -/
def ofRegex (regex : Regex) : Plan :=
  choose (choices regex)

end Plan
end EventSieve.Pattern
