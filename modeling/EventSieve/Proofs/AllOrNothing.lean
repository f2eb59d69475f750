import EventSieve.Proofs.Operands

/-!
# All or nothing

Trees made by hand may have any shape. Whatever the shape is, the tree becomes a filter that lacks
nothing, or no filter at all: each part of the tree becomes one clause, and one part without a
meaning is enough for the whole tree to have none.

## Main statements

* `Filter.exists_ofPhrase?_iff` — a tree has a filter exactly if each of its parts has one alone
* `Filter.ofPhrase?_all_or_nothing` — what the filter of any tree is like, and which trees have one
-/
namespace EventSieve

open EventSieve.Filter (Phrase)
open EventSieve.Filter.Phrase (group token)

/-- The operator that takes no value is the one that asks for a field. -/
theorem Operator.takesValue_eq_false_iff {operator : Operator} :
    operator.takesValue = false ↔ operator = .present := by
  cases operator <;> decide

/-- A comparison that is read has no value exactly if it asks for a field. -/
theorem Comparison.IsRead.value_eq_none_iff {comparison : Comparison} (h : comparison.IsRead) :
    comparison.value = none ↔ comparison.operator = .present := by
  rw [← Operator.takesValue_eq_false_iff, ← h.value_isSome, Option.isSome_eq_false_iff,
    Option.isNone_iff_eq_none]

/-- A whole filter is no part of another one. -/
theorem Clause.ofPhrase?_of_root {phrase : Phrase} (root : phrase.kind = .root) :
    ofPhrase? phrase = none := by
  obtain ⟨kind, text, children⟩ := phrase
  obtain rfl : kind = .root := root
  rfl

namespace Filter

variable {phrase : Phrase} {filter : Filter}

/-- A phrase that is no whole filter has the filter of its only clause. -/
theorem ofPhrase?_of_not_root (noRoot : phrase.kind ≠ .root) :
    ofPhrase? phrase = (Clause.ofPhrase? phrase).map fun clause => { clauses := [clause] } := by
  rw [ofPhrase?, if_neg noRoot]

theorem kind_ne_root_of_clause {clause : Clause} (read : Clause.ofPhrase? phrase = some clause) :
    phrase.kind ≠ .root := by
  intro root
  rw [Clause.ofPhrase?_of_root root] at read
  cases read

/-- A part with a clause has the filter of this clause alone. -/
theorem ofPhrase?_of_clause {clause : Clause} (read : Clause.ofPhrase? phrase = some clause) :
    ofPhrase? phrase = some { clauses := [clause] } := by
  rw [ofPhrase?_of_not_root (kind_ne_root_of_clause read), read, Option.map_some]

/-- A part has a clause exactly if it is no whole filter and has a filter of its own. -/
theorem exists_clause_iff :
    (∃ clause, Clause.ofPhrase? phrase = some clause) ↔
      phrase.kind ≠ .root ∧ ∃ own, ofPhrase? phrase = some own := by
  constructor
  · rintro ⟨clause, read⟩
    exact ⟨kind_ne_root_of_clause read, _, ofPhrase?_of_clause read⟩
  · rintro ⟨noRoot, own, compiled⟩
    rw [ofPhrase?_of_not_root noRoot] at compiled
    obtain ⟨clause, read, -⟩ := Option.map_eq_some_iff.mp compiled
    exact ⟨clause, read⟩

/-- A tree has a filter exactly if it has parts and each of them has one by itself. -/
theorem exists_ofPhrase?_iff :
    (∃ filter, ofPhrase? phrase = some filter) ↔
      phrase.parts ≠ [] ∧
        ∀ part ∈ phrase.parts, part.kind ≠ .root ∧ ∃ own, ofPhrase? part = some own := by
  constructor
  · rintro ⟨filter, compiled⟩
    obtain ⟨nonempty, read, -⟩ := ofPhrase?_eq_some_iff.mp compiled
    refine ⟨nonempty, ?_⟩
    intro part mem
    have mem := List.mem_map_of_mem (f := Clause.ofPhrase?) mem
    rw [read] at mem
    obtain ⟨clause, -, own⟩ := List.mem_map.mp mem
    exact exists_clause_iff.mp ⟨clause, own.symm⟩
  · rintro ⟨nonempty, each⟩
    obtain ⟨clauses, read⟩ := exists_map_eq_map_some fun part mem =>
      exists_clause_iff.mpr (each part mem)
    exact ⟨{ clauses }, ofPhrase?_eq_some_iff.mpr ⟨nonempty, read, rfl⟩⟩

/-- A filter has a clause for each part of its tree. -/
theorem length_of_ofPhrase? (compiled : ofPhrase? phrase = some filter) :
    filter.clauses.length = if phrase.kind = .root then phrase.children.length else 1 := by
  obtain ⟨-, read, -⟩ := ofPhrase?_eq_some_iff.mp compiled
  have same := congrArg List.length read
  rw [List.length_map, List.length_map, Phrase.parts] at same
  rw [← same]
  split <;> rfl

/-- The clauses of a tree are those that its parts have by themselves, in their order. -/
theorem map_ofPhrase?_parts (compiled : ofPhrase? phrase = some filter) :
    phrase.parts.map ofPhrase? = filter.clauses.map fun clause => some { clauses := [clause] } := by
  obtain ⟨nonempty, each⟩ := exists_ofPhrase?_iff.mp ⟨filter, compiled⟩
  obtain ⟨-, read, -⟩ := ofPhrase?_eq_some_iff.mp compiled
  calc phrase.parts.map ofPhrase?
      = phrase.parts.map fun part =>
          (Clause.ofPhrase? part).map fun clause => { clauses := [clause] } :=
        List.map_congr_left fun part mem => ofPhrase?_of_not_root (each part mem).1
    _ = (filter.clauses.map some).map (Option.map fun clause => { clauses := [clause] }) := by
        rw [← read, List.map_map]
        rfl
    _ = filter.clauses.map fun clause => some { clauses := [clause] } := by
        rw [List.map_map]
        rfl

/-- The filter of any tree lacks nothing. It has a clause for each part of the tree, neither the
filter nor a comparison in it is negated, a clause has a connective exactly if it has a second side,
only the operator that asks for a field stands without a value, and no field or value has blanks at
its ends. A whole filter has a meaning exactly if it has children and each of them is no whole
filter and has a meaning by itself. Its clauses are theirs then, in their order. -/
theorem ofPhrase?_all_or_nothing (phrase : Phrase) :
    (∀ filter, ofPhrase? phrase = some filter →
      filter.clauses ≠ [] ∧ filter.negated = false ∧
      filter.clauses.length = (if phrase.kind = .root then phrase.children.length else 1) ∧
      (∀ clause ∈ filter.clauses, clause.connective.isSome = clause.right.isSome) ∧
      ∀ comparison ∈ filter.comparisons, comparison.negated = false ∧
        (comparison.value = none ↔ comparison.operator = .present) ∧
        Text.trim comparison.field = comparison.field ∧
        ∀ value ∈ comparison.value, Text.trim value = value) ∧
    (phrase.kind = .root →
      ((∃ filter, ofPhrase? phrase = some filter) ↔
        phrase.children ≠ [] ∧
          ∀ child ∈ phrase.children, child.kind ≠ .root ∧ ∃ own, ofPhrase? child = some own) ∧
      ∀ filter, ofPhrase? phrase = some filter →
        phrase.children.map ofPhrase? =
          filter.clauses.map fun clause => some { clauses := [clause] }) := by
  constructor
  · intro filter compiled
    have read := isRead_of_ofPhrase? compiled
    refine ⟨read.nonempty, read.notNegated, ?_, ?_, ?_⟩
    · exact length_of_ofPhrase? compiled
    · exact fun clause _ => clause.isSome_connective
    · intro comparison mem
      have read := read.comparisons comparison mem
      exact ⟨read.notNegated, read.value_eq_none_iff, read.field_trim, read.value_trim⟩
  · intro root
    have parts : phrase.parts = phrase.children := if_pos root
    rw [← parts]
    exact ⟨exists_ofPhrase?_iff, fun filter => map_ofPhrase?_parts⟩

/-- A whole filter inside of another one has a meaning only by itself, and one part without a
meaning leaves nothing of the parts beside it. -/
theorem ofPhrase?_handmade :
    let alone := group .root [token .constant " \"a b\" "]
    let beside := group .root [token .constant "a", group .negation [token .constant "\"\""]]
    ofPhrase? alone = some { clauses := [{ left := Comparison.anywhere "a b" }] } ∧
      ofPhrase? (group .root [alone]) = none ∧ ofPhrase? beside = none := by
  refine ⟨by decide +kernel, ?_, ?_⟩
  · by_contra some
    obtain ⟨-, each⟩ := ((ofPhrase?_all_or_nothing _).2 rfl).1.mp
      (Option.ne_none_iff_exists'.mp some)
    exact (each _ (List.mem_singleton_self _)).1 rfl
  · by_contra some
    obtain ⟨-, each⟩ := ((ofPhrase?_all_or_nothing _).2 rfl).1.mp
      (Option.ne_none_iff_exists'.mp some)
    obtain ⟨-, own, compiled⟩ := each _ (List.mem_cons_of_mem _ List.mem_cons_self)
    cases compiled

end Filter
end EventSieve
