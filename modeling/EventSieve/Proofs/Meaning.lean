import EventSieve.Proofs.Generation
import EventSieve.Proofs.Operands

/-!
# What filter texts mean

The tree of a text has a value of its own once its operands have one: expressions join, a negation
turns around, parentheses change nothing. The filter of the text has that value, although it keeps
neither parentheses nor nested negations.

## Main definitions

* `Phrase.value` — the value of a tree, given the values of its operands
* `Comparison.heldBy` — whether a record holds a value that satisfies a comparison

## Main statements

* `Clause.outcome_of_ofPhrase?` — the clause of a phrase has the value of the phrase
* `Filter.outcome_of_ofPhrase?` — the filter of a phrase has the value of the phrase
* `Filter.value_of_compile?` — predicates and trees of a text have the value of its tree
-/
namespace EventSieve

open EventSieve.Filter (Phrase PhraseKind)

/-! ## Values of phrases -/

namespace Filter.Phrase

mutual

/-- The value of a tree, given the values of its operands: the values of all parts of a filter, the
opposite value for a negation, and for an expression that of its operand, or those of its two
operands joined by their separator. -/
def value (operand : Phrase → Bool) : Phrase → Bool
  | node .root _ children => allValues operand children
  | node .parenthesized _ [inner] => value operand inner
  | node .negation _ [inner] => !value operand inner
  | node .negation _ [_, inner] => !value operand inner
  | node .expression _ [only] => operand only
  | node .expression _ [left, separator, right] =>
    if separator.text = "&&" then operand left && operand right
    else operand left || operand right
  | phrase => operand phrase

/-- Whether all trees have the value true. -/
def allValues (operand : Phrase → Bool) : List Phrase → Bool
  | [] => true
  | phrase :: rest => value operand phrase && allValues operand rest

end

/-- The value of an operand, given the values of comparisons. -/
def operandValue (test : Comparison → Bool) (operand : Phrase) : Bool :=
  (Comparison.ofPhrase? operand).any test

theorem allValues_eq (operand : Phrase → Bool) (phrases : List Phrase) :
    allValues operand phrases = phrases.all (value operand) := by
  induction phrases with
  | nil => rw [allValues, List.all_nil]
  | cons phrase rest ih => rw [allValues, List.all_cons, ih]

end Filter.Phrase

open Filter.Phrase (operandValue)

/-! ## Filters of phrases -/

/-- A connective joins values as its token says. -/
theorem Connective.join_of_ofToken? {token : String} {connective : Connective}
    (h : ofToken? token = some connective) (left right : Bool) :
    connective.join left right = if token = "&&" then left && right else left || right := by
  rw [ofToken?] at h
  split at h
  · next conjunction =>
    cases h
    rw [if_pos conjunction]
    rfl
  · next other =>
    split at h
    · cases h
      rw [if_neg other]
      rfl
    · cases h

namespace Comparison

variable {phrase : Phrase} {comparison : Comparison}

/-- A phrase with a comparison is an operand. -/
theorem value_of_ofPhrase? (h : ofPhrase? phrase = some comparison) (operand : Phrase → Bool) :
    phrase.value operand = operand phrase := by
  obtain ⟨kind, text, children⟩ := phrase
  cases kind <;> first | rfl | cases h

end Comparison

namespace Clause

variable {test : Comparison → Bool}

/-- The clause of some operands has the value of their expression. -/
theorem outcome_of_ofOperands? {operands : List Phrase} {clause : Clause} {text : String}
    (h : ofOperands? operands = some clause) :
    clause.outcome test = (Phrase.node .expression text operands).value (operandValue test) := by
  rcases ofOperands?_cases h with ⟨only, comparison, rfl, read, rfl⟩ |
    ⟨one, separator, two, left, connective, right, rfl, readLeft, found, readRight, rfl⟩
  · rw [outcome_single, Phrase.value, operandValue, read, Bool.xor_false, Option.any_some]
  · rw [outcome_joined, Phrase.value, operandValue, operandValue, readLeft, readRight,
      Bool.xor_false, Option.any_some, Option.any_some]
    exact Connective.join_of_ofToken? found _ _

/-- The clause of a phrase has the value of the phrase. -/
theorem outcome_of_ofPhrase? {phrase : Phrase} {clause : Clause}
    (h : ofPhrase? phrase = some clause) :
    clause.outcome test = phrase.value (operandValue test) := by
  fun_induction ofPhrase? phrase generalizing clause with
  | case1 text children => exact outcome_of_ofOperands? h
  | case2 text inner ih =>
    rw [Phrase.value]
    exact ih h
  | case3 text inner ih =>
    obtain ⟨clause, read, rfl⟩ := Option.map_eq_some_iff.mp h
    rw [Phrase.value, outcome_negate, ih read]
  | case4 text mark inner isMark ih =>
    obtain ⟨clause, read, rfl⟩ := Option.map_eq_some_iff.mp h
    rw [Phrase.value, outcome_negate, ih read]
  | case5 => cases h
  | case6 phrase =>
    obtain ⟨comparison, read, rfl⟩ := Option.map_eq_some_iff.mp h
    rw [outcome_single, Bool.xor_false, Comparison.value_of_ofPhrase? read, operandValue, read,
      Option.any_some]

variable {phrases : List Phrase} {clauses : List Clause}

theorem all_outcome_of_map (h : phrases.map ofPhrase? = clauses.map some) :
    clauses.all (outcome test) = phrases.all (Phrase.value (operandValue test)) := by
  induction phrases generalizing clauses with
  | nil =>
    rw [List.map_nil, eq_comm, List.map_eq_nil_iff] at h
    rw [h, List.all_nil, List.all_nil]
  | cons phrase phrases ih =>
    obtain ⟨clause, rest, rfl, read, later⟩ := List.map_eq_cons_iff.mp h.symm
    rw [List.all_cons, List.all_cons, outcome_of_ofPhrase? read.symm, ih later.symm]

end Clause

namespace Filter

variable {phrase : Phrase} {filter : Filter}

/-- The filter of a phrase has the value of the phrase. -/
theorem outcome_of_ofPhrase? {test : Comparison → Bool} (h : ofPhrase? phrase = some filter) :
    filter.outcome test = phrase.value (operandValue test) := by
  rcases ofPhrase?_cases h with ⟨text, children, rfl, read, -, positive⟩ | ⟨clause, read, rfl⟩
  · rw [outcome, positive, Bool.xor_false, Phrase.value, Phrase.allValues_eq]
    exact Clause.all_outcome_of_map read
  · rw [← Clause.outcome_of_ofPhrase? read]
    simp [outcome]

end Filter

/-! ## Values of comparisons -/

/-- Whether a record holds a value for the field of a comparison that satisfies its operator; for
inequality, whether it holds none that is equal. -/
def Comparison.heldBy (coercion : Coercion) (rules : MatchRules) (record : Record)
    (comparison : Comparison) : Bool :=
  let values := record.valuesFor comparison.field rules.derivedMark
  let wanted := coercion.prepare (comparison.value.getD "") (comparison.operator == .matches)
  if comparison.operator = .notEquals then
    values.all fun value => !valuesEqual value wanted rules.ignoreCase coercion
  else
    values.any fun value =>
      comparison.operator.holds value wanted rules.ignoreCase coercion

/-- A comparison that is not negated has the outcome that the values of its field say. -/
theorem Predicate.test_eq_heldBy (coercion : Coercion) (rules : MatchRules) (record : Record)
    {comparison : Comparison} (h : comparison.negated = false) :
    test coercion rules record comparison = comparison.heldBy coercion rules record := by
  rw [test, FieldTest.accepts, FieldTest.ofComparison, Comparator.bind, Comparison.heldBy, h]
  by_cases unequal : comparison.operator = .notEquals
  · rw [if_pos unequal, if_pos unequal, Comparator.testAny, Bool.not_false, Bool.xor_true,
      ← List.not_any_eq_all_not]
    rfl
  · rw [if_neg unequal, if_neg unequal, Comparator.testAny, Bool.xor_false]
    rfl

/-- The value of an operand is that of its comparison. -/
theorem Filter.Phrase.operandValue_congr {test other : Comparison → Bool} {operand : Phrase}
    (h : ∀ comparison, comparison.IsRead → test comparison = other comparison) :
    operandValue test operand = operandValue other operand := by
  rw [operandValue, operandValue]
  cases read : Comparison.ofPhrase? operand with
  | none => rfl
  | some comparison => exact h comparison (Comparison.isRead_of_ofPhrase? read)

namespace Filter

/-- A filter text means what its tree says: every operand of the tree is a comparison, and the
predicate and the trees of the filter have the value of the tree. -/
theorem value_of_compile? {text : String} {filter : Filter} (h : compile? text = some filter) :
    ∃ phrase, Phrase.parse text = .ok phrase ∧
      (∀ operand ∈ phrase.operandPhrases, (Comparison.ofPhrase? operand).isSome) ∧
      (∀ coercion rules record,
        (Predicate.ofFilter coercion rules filter).accepts record =
          phrase.value (operandValue (Comparison.heldBy coercion rules record))) ∧
      ∀ (generator : Generator) event,
        (generator.tree filter).accepts event =
          phrase.value (operandValue fun comparison =>
            (generator.tree { clauses := [{ left := comparison }] }).accepts event) := by
  rw [compile?] at h
  split at h
  · next phrase parsed =>
    refine ⟨phrase, parsed, fun operand mem => ?_, fun coercion rules record => ?_,
      fun generator event => ?_⟩
    · have mem := List.mem_map_of_mem (f := Comparison.ofPhrase?) mem
      rw [comparisons_of_ofPhrase? h] at mem
      obtain ⟨comparison, -, same⟩ := List.mem_map.mp mem
      rw [← same, Option.isSome_some]
    · rw [Predicate.accepts_ofFilter, outcome_of_ofPhrase? h]
      congr 1
      funext operand
      exact Phrase.operandValue_congr fun comparison read =>
        Predicate.test_eq_heldBy coercion rules record read.notNegated
    · rw [Generator.accepts_tree, outcome_of_ofPhrase? h]
      congr 1
      funext operand
      exact Phrase.operandValue_congr fun comparison _ => by
        rw [Generator.accepts_tree, outcome_single]
  · cases h

/-- A negated group and a text that any field may match. -/
theorem value_of_compile?_negation :
    let filter : Filter := { clauses := [
      { left := { field := "a", operator := .equals, value := some "1" }
        connective := some .or
        right := some (.anywhere "b")
        negated := true },
      { left := .anywhere "c" }] }
    compile? "!(a == 1 || b) c" = some filter ∧
    ∃ phrase, Phrase.parse "!(a == 1 || b) c" = .ok phrase ∧
      ∀ coercion rules record,
        (Predicate.ofFilter coercion rules filter).accepts record =
          phrase.value (operandValue (Comparison.heldBy coercion rules record)) := by
  intro filter
  have compiled : compile? "!(a == 1 || b) c" = some filter := by decide +kernel
  obtain ⟨phrase, parsed, -, accepts, -⟩ := value_of_compile? compiled
  exact ⟨compiled, phrase, parsed, accepts⟩

end Filter
end EventSieve
