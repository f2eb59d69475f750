import EventSieve.Proofs.Agreement
import EventSieve.Proofs.Meaning

/-!
# Comparisons of any field

A predicate applies the operator of a comparison of any field to every entry of an event. A tree
looks for the text as a pattern among all aspects, whatever the operator is, and keeps inequality as
a negation. The two agree on matches and on presence tests.

## Main definitions

* `Event.satisfies` — whether some entry of an event satisfies an operator

## Main statements

* `Predicate.test_anyField`, `Generator.test_anyField` — what predicates and trees look for
* `Filter.accepts_anyField` — what they accept by a filter of one comparison of any field
-/
namespace EventSieve

open EventSieve.Tree (MatchesLeaf)

/-- Whether some entry of an event satisfies an operator with a text, by the default rules; for
inequality, whether none is equal to the text. -/
def Event.satisfies (event : Event) (operator : Operator) (text : String) : Bool :=
  let wanted := ({} : Coercion).prepare text (operator == .matches)
  if operator = .notEquals then
    event.toRecord.entries.all fun entry => !valuesEqual entry.2 wanted false {}
  else event.toRecord.entries.any fun entry => operator.holds entry.2 wanted false {}

/-! ## Comparisons -/

section
variable (operator : Operator) (value : Option String) (negated : Bool) (event : Event)

/-- The flag of a comparison turns its outcome around. -/
theorem Predicate.test_negated (coercion : Coercion) (rules : MatchRules) (record : Record)
    (comparison : Comparison) :
    test coercion rules record { comparison with negated } =
      (test coercion rules record { comparison with negated := false } ^^ negated) := by
  rw [test, test, FieldTest.accepts, FieldTest.accepts, FieldTest.ofComparison,
    FieldTest.ofComparison]
  simp only [Comparator.testAny_bind, Bool.false_xor]
  rw [Bool.xor_assoc, Bool.xor_comm negated]

/-- A predicate applies the operator to every entry. -/
theorem Predicate.test_anyField :
    test {} {} event.toRecord { field := anyField, operator, value, negated } =
      (event.satisfies operator (value.getD "") ^^ negated) := by
  have positive : test {} {} event.toRecord { field := anyField, operator, value } =
      event.satisfies operator (value.getD "") := by
    rw [test_eq_heldBy {} {} event.toRecord rfl, Comparison.heldBy, Event.satisfies,
      Record.valuesFor_anyField]
    simp only [List.all_map, List.any_map]
    rfl
  rw [← positive]
  exact test_negated negated {} {} event.toRecord { field := anyField, operator, value }

/-- A match leaf for every aspect accepts an event if some entry of it matches. -/
theorem Generator.any_matches (pattern : String) :
    (Registry.builtin.aspects.any fun aspect => (MatchesLeaf.make aspect pattern).accepts event) =
      event.satisfies .matches pattern := by
  have all := event.any_valuesFor_anyField "" fun value =>
    matchesPattern value (({} : Coercion).prepare pattern true) {}
  rw [Record.valuesFor_anyField, List.any_map] at all
  exact all.symm

/-- Every entry satisfies a presence test, and matches the pattern of its leaves. -/
theorem Event.satisfies_anything (text : String) :
    event.satisfies .matches MatchesLeaf.anything = event.satisfies .present text := by
  rw [satisfies, satisfies, if_neg Operator.noConfusion, if_neg Operator.noConfusion]
  exact List.any_congr rfl fun entry => matchesPattern_anything {} entry.2

/-- A tree looks for the text as a pattern, unless it is a presence test. -/
theorem Generator.test_anyField :
    ({} : Generator).test event { field := anyField, operator, value, negated } =
      ((if operator = .present then event.satisfies .present (value.getD "")
        else event.satisfies .matches (value.getD "") ^^ operator == .notEquals) ^^ negated) := by
  rw [test_anywhere _ _ rfl, any_matches, anywherePattern, isInverse]
  by_cases present : operator = .present
  · subst present
    rw [if_pos rfl, if_pos rfl, event.satisfies_anything (value.getD "")]
    exact congrArg _ (Bool.xor_false negated)
  · rw [if_neg present, if_neg present, Bool.xor_assoc, Bool.xor_comm negated]

end

/-! ## Filters of one comparison -/

namespace Filter

/-- The filter of one comparison has the outcome of that comparison, turned around by its flags. -/
theorem outcome_flags (test : Comparison → Bool) (comparison : Comparison) (outer whole : Bool) :
    ({ clauses := [{ left := comparison, negated := outer }], negated := whole } : Filter).outcome
      test = (test comparison ^^ outer ^^ whole) := by
  rw [outcome, List.all_cons, List.all_nil, Bool.and_true, Clause.outcome_single]

/-- What predicates and trees accept by a comparison of any field, negated or not: a predicate asks
for an entry that satisfies the operator, a tree for one that matches the text. -/
theorem accepts_anyField (operator : Operator) (value : Option String) (own outer whole : Bool)
    (event : Event) :
    let filter : Filter := {
      clauses := [{
        left := { field := anyField, operator, value, negated := own }, negated := outer }]
      negated := whole }
    let text := value.getD ""
    let byPredicate := (Predicate.ofFilter {} {} filter).acceptsEvent event
    let byTree := (({} : Generator).tree filter).accepts event
    byPredicate = (event.satisfies operator text ^^ own ^^ outer ^^ whole) ∧
    byTree = ((if operator = .present then event.satisfies .present text
      else event.satisfies .matches text ^^ operator == .notEquals) ^^ own ^^ outer ^^ whole) ∧
    (operator = .matches ∨ operator = .present → byPredicate = byTree) := by
  intro filter text byPredicate byTree
  have predicate : byPredicate = (event.satisfies operator text ^^ own ^^ outer ^^ whole) := by
    rw [← Predicate.test_anyField, ← outcome_flags]
    exact Predicate.accepts_ofFilter {} {} filter event.toRecord
  have tree : byTree = ((if operator = .present then event.satisfies .present text
      else event.satisfies .matches text ^^ operator == .notEquals) ^^
        own ^^ outer ^^ whole) := by
    rw [← Generator.test_anyField, ← outcome_flags]
    exact Generator.accepts_tree {} filter event
  refine ⟨predicate, tree, fun same => ?_⟩
  rw [predicate, tree]
  rcases same with rfl | rfl
  · rw [if_neg Operator.noConfusion]
    exact congrArg (· ^^ own ^^ outer ^^ whole) (Bool.xor_false _).symm
  · rw [if_pos rfl]

/-- A tree asks every entry to match the text, whatever the operator. An event whose only number is
not equal to the text, does not contain it, and is greater than it tells the two apart. -/
theorem accepts_anyField_ne :
    let event : Event := {
      traceType := "ust", eventType := "exit", fields := [("pid", .integer 110)] }
    let differs (operator : Operator) (text : String) : Prop :=
      let filter : Filter := {
        clauses := [{ left := { field := anyField, operator, value := some text } }] }
      (Predicate.ofFilter {} {} filter).acceptsEvent event = event.satisfies operator text ∧
        (({} : Generator).tree filter).accepts event ≠ event.satisfies operator text
    differs .equals "10" ∧ differs .notEquals "10" ∧ differs .contains "^1" ∧
      differs .greaterThan "5" ∧ differs .lessThan "111" := by
  decide +kernel

end Filter
end EventSieve
