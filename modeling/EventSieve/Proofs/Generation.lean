import EventSieve.Proofs.GeneratedShapes
import EventSieve.Proofs.Outcome

/-!
# What generated trees accept

What the shapes of comparisons, clauses and filters accept is said by their outcomes, and what is
generated has these shapes. So a generated branch gives the outcome of the filter that it is made
from.

## Main definitions

* `Generator.test` — the outcome of a comparison as a leaf, or as leaves for all aspects
* `Edit.Adds` — an edit that adds one branch that accepts certain events

## Main statements

* `Generator.accepts_comparisonShape`, `Generator.accepts_clauseShape`,
  `Generator.accepts_filterShape` — what the shapes accept
* `Generator.addFilter_adds` — a filter becomes one branch with the outcome of the filter
* `Generator.accepts_tree` — the tree of a filter gives the outcome of the filter
-/
namespace EventSieve

open EventSieve.Tree (Node NodeKind NodeId Branch MatchesLeaf)
open FilterTree (Grown rootId)

/-! ## What branches accept -/

namespace Tree.Branch

variable (event : Event) (id : NodeId) (negated : Bool) (children : List Branch)

theorem accepts_root :
    (mk id .root negated children).accepts event = children.all (accepts event) := by
  rw [accepts, allAccept_eq]

theorem accepts_and :
    (mk id .and negated children).accepts event = (children.all (accepts event) ^^ negated) := by
  rw [accepts, allAccept_eq]

theorem accepts_or :
    (mk id .or negated children).accepts event = (children.any (accepts event) ^^ negated) := by
  rw [accepts, anyAccepts_eq]

/-- A node without children decides by itself. -/
theorem accepts_leaf {node : Node} (h : node.kind.maxChildren? = some 0) :
    (mk id node negated children).accepts event = (node.leafAccepts event ^^ negated) := by
  cases node <;> cases h <;> rfl

theorem all_accept_of_map {tests : List (Event → Bool)}
    (same : children.map (·.accepts event) = tests.map (· event)) :
    children.all (accepts event) = tests.all (· event) := by
  have all := congrArg (fun outcomes => outcomes.all fun outcome => outcome) same
  rwa [List.all_map, List.all_map] at all

end Tree.Branch

/-! ## Edits that add branches -/

namespace Edit

variable {tree : FilterTree} {parent : NodeId}

/-- An edit that adds one branch below a node, which accepts the events that a test accepts. -/
def Adds (edit : Edit NodeId) (tree : FilterTree) (parent : NodeId) (test : Event → Bool) : Prop :=
  ∃ added grown, edit.apply tree = (.ok added.id, grown) ∧ Grown tree parent [added] grown ∧
    ∀ event, added.accepts event = test event

/-- An edit that adds a branch for each of some tests below a node. -/
def AddsAll (edit : Edit Unit) (tree : FilterTree) (parent : NodeId)
    (tests : List (Event → Bool)) : Prop :=
  ∃ new grown, edit.apply tree = (.ok (), grown) ∧ Grown tree parent new grown ∧
    ∀ event, new.map (·.accepts event) = tests.map (· event)

/-- A copy accepts what the branch accepts. -/
theorem Copies.adds {edit : Edit NodeId} {branch : Branch} {test : Event → Bool}
    (h : edit.Copies tree parent branch) (accepts : ∀ event, branch.accepts event = test event) :
    edit.Adds tree parent test := by
  obtain ⟨copy, grown, run, growth, same⟩ := h
  refine ⟨copy, grown, run, growth, fun event => ?_⟩
  rw [← Branch.accepts_unnamed, same, Branch.accepts_unnamed, accepts]

/-- A branch and then more branches below the same node. -/
theorem AddsAll.cons {first : Edit NodeId} {rest : Edit Unit} {test : Event → Bool}
    {tests : List (Event → Bool)} (h : first.Adds tree parent test)
    (later : ∀ added grown, Grown tree parent [added] grown → rest.AddsAll grown parent tests) :
    AddsAll (do discard first; rest) tree parent (test :: tests) := by
  obtain ⟨added, grown, run, growth, accepts⟩ := h
  obtain ⟨new, last, runRest, growthRest, acceptsRest⟩ := later added grown growth
  refine ⟨added :: new, last, ?_, growth.trans growthRest, fun event => ?_⟩
  · rw [apply_bind_ok (apply_discard_ok run), runRest]
  · rw [List.map_cons, List.map_cons, accepts, acceptsRest]

end Edit

namespace Generator

variable (generator : Generator) {tree : FilterTree} {parent : NodeId} {old : Branch}

/-! ## Comparisons -/

/-- The outcome of a comparison for an event: that of its leaf, or of a match leaf for some aspect
if any field may satisfy it. -/
def test (event : Event) (comparison : Comparison) : Bool :=
  let outcome :=
    if comparison.isAnywhere then
      generator.registry.aspects.any fun aspect =>
        (MatchesLeaf.make aspect (anywherePattern comparison) generator.coercion).accepts event
    else
      (generator.leaf (generator.registry.resolveOrField comparison.field) comparison.operator
        (comparison.value.getD "")).leafAccepts event
  outcome ^^ (comparison.negated ^^ isInverse comparison.operator)

theorem test_anywhere (event : Event) {comparison : Comparison}
    (h : comparison.isAnywhere = true) :
    generator.test event comparison =
      ((generator.registry.aspects.any fun aspect =>
        (MatchesLeaf.make aspect (anywherePattern comparison) generator.coercion).accepts event) ^^
      (comparison.negated ^^ isInverse comparison.operator)) := by
  rw [test, if_pos h]

theorem test_named (event : Event) {comparison : Comparison}
    (h : ¬comparison.isAnywhere = true) :
    generator.test event comparison =
      ((generator.leaf (generator.registry.resolveOrField comparison.field) comparison.operator
        (comparison.value.getD "")).leafAccepts event ^^
      (comparison.negated ^^ isInverse comparison.operator)) := by
  rw [test, if_neg h]

theorem maxChildren_leaf (aspect : Aspect) (operator : Operator) (value : String) :
    (generator.leaf aspect operator value).kind.maxChildren? = some 0 := by
  cases operator <;> rfl

/-- The shape of a comparison has its outcome. -/
theorem accepts_comparisonShape (event : Event) (comparison : Comparison) (negated : Bool) :
    (generator.comparisonShape comparison negated).accepts event =
      (generator.test event comparison ^^ negated) := by
  have turn (outcome : Bool) :
      (outcome ^^ (negated ^^ comparison.negated ^^ isInverse comparison.operator)) =
        (outcome ^^ (comparison.negated ^^ isInverse comparison.operator) ^^ negated) := by
    cases outcome <;> cases negated <;> simp
  by_cases anywhere : comparison.isAnywhere = true
  · have leaf (aspect : Aspect) :
        (Branch.mk rootId (generator.anywhereLeaf comparison aspect) false []).accepts event =
          (MatchesLeaf.make aspect (anywherePattern comparison) generator.coercion).accepts
            event := by
      rw [Branch.accepts_leaf event _ _ _ rfl, Bool.xor_false]
      rfl
    rw [comparisonShape, if_pos anywhere, Branch.accepts_or, turn, List.any_map,
      generator.test_anywhere event anywhere]
    simp only [Function.comp_def, leaf]
  · rw [comparisonShape, if_neg anywhere,
      Branch.accepts_leaf event _ _ _ (generator.maxChildren_leaf _ _ _), turn,
      generator.test_named event anywhere]

/-! ## Clauses and filters -/

/-- The shape of a clause has its outcome. -/
theorem accepts_clauseShape (event : Event) (clause : Clause) :
    (generator.clauseShape clause).accepts event = clause.outcome (generator.test event) := by
  cases clause with
  | single left negated => exact generator.accepts_comparisonShape event left negated
  | joined left connective right negated =>
    simp only [clauseShape, Clause.outcome_joined]
    cases connective with
    | and =>
      rw [connectiveNode, Branch.accepts_and]
      simp [accepts_comparisonShape, Connective.join]
    | or =>
      rw [connectiveNode, Branch.accepts_or]
      simp [accepts_comparisonShape, Connective.join]

/-- The shape of a filter that is placed as one node has its outcome. -/
theorem accepts_filterShape (event : Event) (filter : Filter) :
    (generator.filterShape filter).accepts event = filter.outcome (generator.test event) := by
  rw [filterShape]
  split
  · next clause single plain =>
    simp [accepts_clauseShape, Filter.outcome, single, plain]
  · rw [Branch.accepts_and, List.all_map, Filter.outcome]
    simp only [Function.comp_def, accepts_clauseShape]

/-- A filter becomes one branch with the outcome of the filter. -/
theorem addFilter_adds (filter : Filter) (wf : tree.WellFormed)
    (found : tree.branch? parent = some old) (room : old.HasRoom) :
    (generator.addFilter parent filter).Adds tree parent
      fun event => filter.outcome (generator.test event) :=
  (generator.addFilter_copies filter wf found room).adds fun event =>
    generator.accepts_filterShape event filter

/-- Every clause becomes one branch with the outcome of the clause. -/
theorem addClauses_adds (clauses : List Clause) (wf : tree.WellFormed)
    (found : tree.branch? parent = some old) (unbounded : old.node.kind.maxChildren? = none) :
    (generator.addClauses parent clauses).AddsAll tree parent
      (clauses.map fun clause event => clause.outcome (generator.test event)) := by
  obtain ⟨copies, grown, run, growth, same⟩ :=
    generator.addClauses_copies clauses wf found unbounded
  refine ⟨copies, grown, run, growth, fun event => ?_⟩
  have outcomes := congrArg (List.map (Branch.accepts event)) same
  simpa [Function.comp_def, Branch.accepts_unnamed, accepts_clauseShape] using outcomes

/-- The empty tree with some branches below its top accepts what they all accept. -/
theorem accepts_of_grown {grown : FilterTree} {new : List Branch}
    (growth : Grown .empty rootId new grown) (event : Event) :
    grown.accepts event = new.all (·.accepts event) := by
  have found := growth.branch?_parent (FilterTree.wellFormed_withTop .root) branch?_empty
  rw [FilterTree.accepts, FilterTree.acceptsFrom_of_branch? found, Branch.adopt_mk,
    Branch.accepts_root]
  rfl

/-- The tree of a filter gives the outcome of the filter. -/
theorem accepts_tree (filter : Filter) (event : Event) :
    (generator.tree filter).accepts event = filter.outcome (generator.test event) := by
  have wf : FilterTree.empty.WellFormed := FilterTree.wellFormed_withTop .root
  rw [tree, addToRoot]
  by_cases negated : filter.negated = true
  · rw [if_pos negated]
    obtain ⟨added, grown, run, growth, accepts⟩ := generator.addFilter_adds filter wf
      branch?_empty (hasRoom_of_unbounded rfl)
    rw [Edit.apply_discard_ok run, accepts_of_grown growth, List.all_cons, List.all_nil,
      Bool.and_true, accepts]
  · rw [if_neg negated]
    obtain ⟨new, grown, run, growth, accepts⟩ := generator.addClauses_adds filter.clauses wf
      branch?_empty rfl
    rw [run, accepts_of_grown growth, Branch.all_accept_of_map event new (accepts event),
      List.all_map, Filter.outcome, Bool.eq_false_iff.mpr negated, Bool.xor_false]
    rfl

end Generator
end EventSieve
