import EventSieve.Proofs.Outcome

/-!
# Records as sets of entries

A comparison looks for one value that satisfies it among those of its field. So neither the order of
the entries of a record nor their repetitions count, and another entry can only help a comparison
that is not negated. A filter puts the outcomes of its comparisons together, which keeps both.

## Main statements

* `Record.mem_valuesFor` — the values that a comparison looks at
* `Comparator.testAny_congr`, `Comparator.testAny_mono` — what a comparator makes of more values
* `Predicate.accepts_respects_entries` — a predicate sees a record as the set of its entries, and a
  positive filter keeps a record to which entries are added
-/
namespace EventSieve

/-! ## Values -/

namespace Record

variable {a b : Record} {field aliasMark : String} {value : Value}

/-- A comparison looks at the values of the entries that concern it. -/
theorem mem_valuesFor {record : Record} : value ∈ record.valuesFor field aliasMark ↔
    ∃ name, (name, value) ∈ record.entries ∧ concerns aliasMark field name = true := by
  simp only [valuesFor, List.mem_map, List.mem_filter]
  constructor
  · rintro ⟨⟨name, own⟩, ⟨mem, concerned⟩, rfl⟩
    exact ⟨name, mem, concerned⟩
  · rintro ⟨name, mem, concerned⟩
    exact ⟨(name, value), ⟨mem, concerned⟩, rfl⟩

/-- With more entries there are more values to look at. -/
theorem valuesFor_subset (h : a.entries ⊆ b.entries) :
    a.valuesFor field aliasMark ⊆ b.valuesFor field aliasMark := by
  intro value mem
  obtain ⟨name, inside, concerned⟩ := mem_valuesFor.mp mem
  exact mem_valuesFor.mpr ⟨name, h inside, concerned⟩

end Record

/-! ## Comparators -/

namespace Comparator

variable {comparator : Comparator} {xs ys : List Value}

/-- Only which values there are counts for a comparator, negated or not. -/
theorem testAny_congr (h : ∀ value, value ∈ xs ↔ value ∈ ys) :
    comparator.testAny xs = comparator.testAny ys := by
  have any : xs.any comparator.accepts = ys.any comparator.accepts := by
    rw [Bool.eq_iff_iff, List.any_eq_true, List.any_eq_true]
    exact exists_congr fun value => and_congr_left fun _ => h value
  rw [testAny, testAny, any]

/-- A comparator that is not negated can only gain by more values. -/
theorem testAny_mono (positive : comparator.negated = false) (h : xs ⊆ ys)
    (holds : comparator.testAny xs = true) : comparator.testAny ys = true := by
  rw [testAny, positive, Bool.xor_false, List.any_eq_true] at holds ⊢
  obtain ⟨value, mem, accepted⟩ := holds
  exact ⟨value, h mem, accepted⟩

/-- A comparator that is bound to another operator than inequality keeps the negation that it is
given. -/
theorem negated_bind {operator : Operator} (equality : operator ≠ .notEquals)
    (raw : Option String) (coercion : Coercion) (ignoreCase negated : Bool) :
    (bind operator raw coercion ignoreCase negated).negated = negated := by
  simp [bind, equality]

end Comparator

/-! ## Filters -/

namespace Predicate

variable {coercion : Coercion} {rules : MatchRules} {comparison : Comparison} {a b : Record}

/-- Only which entries a record has counts for a comparison. -/
theorem test_congr (same : ∀ entry, entry ∈ a.entries ↔ entry ∈ b.entries) :
    test coercion rules a comparison = test coercion rules b comparison := by
  refine Comparator.testAny_congr ?_
  intro value
  rw [Record.mem_valuesFor, Record.mem_valuesFor]
  exact exists_congr fun name => and_congr_left fun _ => same (name, value)

/-- A comparison without a negation can only gain by more entries. -/
theorem test_mono (positive : comparison.negated = false)
    (equality : comparison.operator ≠ .notEquals) (h : a.entries ⊆ b.entries)
    (holds : test coercion rules a comparison = true) :
    test coercion rules b comparison = true := by
  have bound := Comparator.negated_bind equality comparison.value coercion rules.ignoreCase
    comparison.negated
  exact Comparator.testAny_mono (bound.trans positive) (Record.valuesFor_subset h) holds

/-- A predicate has the same outcome for records with the same entries, in whatever order and
however often they come. If nothing in its filter is negated and no comparison asks for inequality,
it accepts every record that has all entries of a record that it accepts. -/
theorem accepts_respects_entries (filter : Filter) (coercion : Coercion) (rules : MatchRules) :
    (∀ a b : Record, (∀ entry, entry ∈ a.entries ↔ entry ∈ b.entries) →
      (ofFilter coercion rules filter).accepts a = (ofFilter coercion rules filter).accepts b) ∧
    (filter.IsPositive → ∀ a b : Record, a.entries ⊆ b.entries →
      (ofFilter coercion rules filter).accepts a = true →
      (ofFilter coercion rules filter).accepts b = true) := by
  constructor
  · intro a b same
    rw [accepts_ofFilter, accepts_ofFilter]
    exact Filter.outcome_congr fun comparison _ => test_congr same
  · intro positive a b more holds
    rw [accepts_ofFilter] at holds ⊢
    refine Filter.outcome_mono positive (fun comparison mem => ?_) holds
    have ⟨notNegated, equality⟩ := positive.comparisons comparison mem
    exact test_mono notNegated equality more

/-- The items of an array may come in another order and repeatedly, also where the comparison is
negated; one more item is no harm to a comparison that is not. -/
theorem accepts_respects_entries_items :
    let negated : Filter := {
      clauses := [{ left := { field := "tag", operator := .notEquals, value := some "c" } }] }
    let positive : Filter := { clauses := [
      { left := { field := "tag", operator := .equals, value := some "b" }
        connective := some .or
        right := some { field := anyField, operator := .present, value := none } }] }
    let few : Record := ⟨[("tag", .string "a"), ("> tag", .string "b")]⟩
    let again : Record := ⟨[("> tag", .string "b"), ("tag", .string "a"), ("> tag", .string "b")]⟩
    let more : Record := ⟨[("tag", .string "c"), ("tag", .string "a"), ("> tag", .string "b")]⟩
    (∀ entry, entry ∈ few.entries ↔ entry ∈ again.entries) ∧ positive.IsPositive ∧
      few.entries ⊆ more.entries ∧
      (ofFilter {} {} negated).accepts again = true ∧
      (ofFilter {} {} positive).accepts more = true ∧
      (ofFilter {} {} negated).accepts more = false := by
  intro negated positive few again more
  have same : ∀ entry, entry ∈ few.entries ↔ entry ∈ again.entries := by
    intro entry
    simp only [few, again, List.mem_cons, List.not_mem_nil, or_false]
    grind
  have noNegation : positive.IsPositive := by
    refine ⟨rfl, ?_, ?_⟩
    · simp [positive]
    · simp [positive, Filter.comparisons, Clause.comparisons]
  have subset : few.entries ⊆ more.entries := List.subset_cons_self _ _
  refine ⟨same, noNegation, subset, ?_, ?_, by decide +kernel⟩
  · rw [← (accepts_respects_entries negated {} {}).1 few again same]
    decide +kernel
  · exact (accepts_respects_entries positive {} {}).2 noNegation few more subset (by decide +kernel)

end Predicate
end EventSieve
