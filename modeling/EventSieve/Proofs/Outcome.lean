import EventSieve.Predicate

/-!
# Outcomes of filters

A filter says how the outcomes of its comparisons are put together. Whatever tests the comparisons,
the outcome of the whole is the same function of theirs.

## Main definitions

* `Clause.outcome`, `Filter.outcome` — the outcome of a clause and of a filter, given a test of
  comparisons
* `Filter.IsPositive` — filters without negations

## Main statements

* `Filter.outcome_congr` — only the comparisons of a filter count
* `Filter.outcome_mono` — without negations the outcome grows with those of the comparisons
* `Predicate.accepts_ofFilter` — a predicate gives the outcome of its filter
-/
namespace EventSieve

/-- What a connective makes of two outcomes. -/
def Connective.join : Connective → Bool → Bool → Bool
  | and, left, right => left && right
  | or, left, right => left || right

/-- The outcome of a clause, given a test of comparisons. -/
def Clause.outcome (test : Comparison → Bool) (clause : Clause) : Bool :=
  let joined :=
    match clause.connective, clause.right with
    | some connective, some right => connective.join (test clause.left) (test right)
    | _, _ => test clause.left
  joined ^^ clause.negated

/-- The outcome of a filter, given a test of comparisons. -/
def Filter.outcome (test : Comparison → Bool) (filter : Filter) : Bool :=
  filter.clauses.all (Clause.outcome test) ^^ filter.negated

namespace Clause

variable {test other : Comparison → Bool}

theorem outcome_single (left : Comparison) (negated : Bool) :
    ({ left, negated } : Clause).outcome test = (test left ^^ negated) := rfl

theorem outcome_joined (left right : Comparison) (connective : Connective) (negated : Bool) :
    ({ left, connective := some connective, right := some right, negated } : Clause).outcome test =
      (connective.join (test left) (test right) ^^ negated) := rfl

/-- Negation turns the outcome of a clause around. -/
theorem outcome_negate (clause : Clause) : clause.negate.outcome test = !clause.outcome test := by
  simp [outcome, negate]

theorem outcome_congr {clause : Clause} (h : ∀ c ∈ clause.comparisons, test c = other c) :
    clause.outcome test = clause.outcome other := by
  cases clause with
  | single left negated => rw [outcome_single, outcome_single, h left (by simp [comparisons])]
  | joined left connective right negated =>
    rw [outcome_joined, outcome_joined, h left (by simp [comparisons]),
      h right (by simp [comparisons])]

/-- The outcome of a clause that is not negated can only become true with those of its
comparisons. -/
theorem outcome_mono {clause : Clause} (positive : clause.negated = false)
    (h : ∀ c ∈ clause.comparisons, test c = true → other c = true)
    (holds : clause.outcome test = true) : clause.outcome other = true := by
  have hleft := h clause.left (by simp [comparisons])
  cases clause with
  | single left negated =>
    cases positive
    simpa [outcome_single] using hleft (by simpa [outcome_single] using holds)
  | joined left connective right negated =>
    cases positive
    have hright := h right (by simp [comparisons])
    rw [outcome_joined, Bool.xor_false] at holds ⊢
    cases connective with
    | and =>
      simp only [Connective.join, Bool.and_eq_true] at holds ⊢
      exact ⟨hleft holds.1, hright holds.2⟩
    | or =>
      simp only [Connective.join, Bool.or_eq_true] at holds ⊢
      exact holds.imp hleft hright

end Clause

namespace Filter

/-- Filters in which neither the whole nor a clause nor a comparison is negated. Inequality counts
as a negation. -/
structure IsPositive (filter : Filter) : Prop where
  whole : filter.negated = false
  clauses : ∀ clause ∈ filter.clauses, clause.negated = false
  comparisons : ∀ c ∈ filter.comparisons, c.negated = false ∧ c.operator ≠ .notEquals

variable {test other : Comparison → Bool}

/-- Tests that agree on the comparisons of a filter give it the same outcome. -/
theorem outcome_congr {filter : Filter} (h : ∀ c ∈ filter.comparisons, test c = other c) :
    filter.outcome test = filter.outcome other := by
  have each : ∀ clause ∈ filter.clauses, clause.outcome test = clause.outcome other :=
    fun clause hclause => Clause.outcome_congr fun c hc =>
      h c (List.mem_flatMap.mpr ⟨clause, hclause, hc⟩)
  have all : filter.clauses.all (Clause.outcome test) =
      filter.clauses.all (Clause.outcome other) := by
    rw [Bool.eq_iff_iff, List.all_eq_true, List.all_eq_true]
    exact forall₂_congr fun clause hclause => by rw [each clause hclause]
  rw [outcome, outcome, all]

/-- The outcome of a positive filter can only become true with those of its comparisons. -/
theorem outcome_mono {filter : Filter} (positive : filter.IsPositive)
    (h : ∀ c ∈ filter.comparisons, test c = true → other c = true)
    (holds : filter.outcome test = true) : filter.outcome other = true := by
  rw [outcome, positive.whole, Bool.xor_false, List.all_eq_true] at holds ⊢
  intro clause mem
  exact Clause.outcome_mono (positive.clauses clause mem)
    (fun c hc => h c (List.mem_flatMap.mpr ⟨clause, mem, hc⟩)) (holds clause mem)

/-- The filter of one comparison has the outcome of that comparison. -/
theorem outcome_single (comparison : Comparison) :
    ({ clauses := [{ left := comparison }] } : Filter).outcome test = test comparison := by
  simp [outcome, Clause.outcome]

end Filter

namespace Predicate

/-- The outcome of a comparison for a record, by the rules of a predicate. -/
def test (coercion : Coercion) (rules : MatchRules) (record : Record) (comparison : Comparison) :
    Bool :=
  (FieldTest.ofComparison coercion rules comparison).accepts rules.derivedMark record

theorem accepts_ofClause (coercion : Coercion) (rules : MatchRules) (record : Record)
    (clause : Clause) :
    (ClauseTest.ofClause coercion rules clause).accepts rules.derivedMark record =
      clause.outcome (test coercion rules record) := by
  cases clause with
  | single => rfl
  | joined left connective => cases connective <;> rfl

/-- A predicate gives the outcome of its filter. -/
theorem accepts_ofFilter (coercion : Coercion) (rules : MatchRules) (filter : Filter)
    (record : Record) :
    (ofFilter coercion rules filter).accepts record =
      filter.outcome (test coercion rules record) := by
  rw [accepts, ofFilter, List.all_map]
  exact congrArg (· ^^ filter.negated)
    (List.all_congr rfl fun clause => accepts_ofClause coercion rules record clause)

end Predicate
end EventSieve
