import EventSieve.Proofs.Copies
import EventSieve.Tree.Generate

/-!
# Shapes of generated trees

What a generator makes of a filter, node by node. A comparison of a field is a leaf. A comparison of
any field is one `or` with a match leaf for every aspect of the registry, in their order. A clause
of two comparisons is a node of its connective with the branches of both, and negations are flags.

## Main definitions

* `Generator.comparisonShape`, `Generator.clauseShape`, `Generator.filterShape`,
  `Generator.treeShape` — the branches that comparisons, clauses and filters become

## Main statements

* `Generator.addComparison_copies` — a comparison becomes one branch of its shape
* `Generator.addFilter_copies` — a filter becomes one branch of its shape
* `Generator.unnamed_tree` — the tree of a filter has its shape
-/
namespace EventSieve

open EventSieve.Tree (Node NodeKind NodeId Branch MatchesLeaf)
open FilterTree (Grown rootId)

namespace Generator

variable (generator : Generator)

/-! ## Shapes -/

/-- The pattern of the leaves of a comparison of any field. -/
def anywherePattern (comparison : Comparison) : String :=
  if comparison.operator = .present then MatchesLeaf.anything else comparison.value.getD ""

/-- The match leaf of an aspect in a comparison of any field. -/
def anywhereLeaf (comparison : Comparison) (aspect : Aspect) : Node :=
  .matches (.make aspect (anywherePattern comparison) generator.coercion)

/-- The branch of a comparison; `negated` negates it once more. -/
def comparisonShape (comparison : Comparison) (negated : Bool) : Branch :=
  let flag := negated ^^ comparison.negated ^^ isInverse comparison.operator
  if comparison.isAnywhere then
    .mk rootId .or flag (generator.registry.aspects.map fun aspect =>
      .mk rootId (generator.anywhereLeaf comparison aspect) false [])
  else
    let aspect := generator.registry.resolveOrField comparison.field
    .mk rootId (generator.leaf aspect comparison.operator (comparison.value.getD "")) flag []

/-- The branch of a clause. -/
def clauseShape (clause : Clause) : Branch :=
  match clause.connective, clause.right with
  | some connective, some right =>
    .mk rootId (connectiveNode connective) clause.negated
      [generator.comparisonShape clause.left false, generator.comparisonShape right false]
  | _, _ => generator.comparisonShape clause.left clause.negated

/-- The branch of a filter that is placed as one node. -/
def filterShape (filter : Filter) : Branch :=
  match filter.clauses, filter.negated with
  | [clause], false => generator.clauseShape clause
  | clauses, negated => .mk rootId .and negated (clauses.map generator.clauseShape)

/-- The tree of a filter. -/
def treeShape (filter : Filter) : Branch :=
  .mk rootId .root false <|
    if filter.negated then [generator.filterShape filter]
    else filter.clauses.map generator.clauseShape

/-! ## What a generator adds -/

variable {tree : FilterTree} {parent : NodeId} {old : Branch}

theorem hasRoom_of_unbounded (unbounded : old.node.kind.maxChildren? = none) : old.HasRoom := by
  intro limit h
  rw [unbounded] at h
  cases h

/-- A node is added with its flag. -/
theorem addNode_grown {node : Node} (wf : tree.WellFormed)
    (found : tree.branch? parent = some old) (room : old.HasRoom)
    (able : node.kind.canNegate = true) (negated : Bool) :
    ∃ id grown, (addNode parent node negated).apply tree = (.ok id, grown) ∧
      Grown tree parent [.mk id node negated []] grown := by
  have nested : node.kind ≠ .root := by
    intro h
    rw [h] at able
    cases able
  obtain ⟨id, grown, run, growth⟩ := Edit.addChild_grown wf found room nested
  obtain ⟨last, runFlag, growthFlag⟩ := Edit.setNegated_grown wf
    (FilterTree.mem_ids_of_branch? wf found) growth able negated
  refine ⟨id, last, ?_, growthFlag⟩
  have runFlag : (Edit.setNegated id negated).apply grown = (.ok (), last) := runFlag
  rw [addNode_eq, Edit.apply_bind_ok run, Edit.apply_bind_ok runFlag, Edit.apply_pure]

/-- A node is added with its flag, and then copies of some branches below it. -/
theorem addNode_copies {node : Node} {branches : List Branch} {rest : NodeId → Edit Unit}
    (wf : tree.WellFormed) (found : tree.branch? parent = some old) (room : old.HasRoom)
    (able : node.kind.canNegate = true) (negated : Bool)
    (below : ∀ id grown, grown.WellFormed →
      grown.branch? id = some (.mk id node negated []) → (rest id).CopiesAll grown id branches) :
    Edit.Copies (do let id ← addNode parent node negated; rest id; return id) tree parent
      (.mk rootId node negated branches) := by
  obtain ⟨id, grown, run, growth⟩ := addNode_grown wf found room able negated
  have known := FilterTree.mem_ids_of_branch? wf found
  have there : grown.branch? id = some (.mk id node negated []) :=
    growth.branch?_new known List.mem_cons_self (Branch.mem_preorder_self _)
  obtain ⟨copies, last, runRest, growthRest, same⟩ := below id grown growth.wellFormed there
  refine ⟨.mk id node negated copies, last, ?_, growth.below wf known growthRest, ?_⟩
  · rw [Edit.apply_bind_ok run, Edit.apply_bind_ok runRest, Edit.apply_pure]
    rfl
  · rw [Branch.unnamed_mk, Branch.unnamed_mk, same]

/-- Every aspect gets a match leaf of its own, in their order. -/
theorem addMatches_copies (comparison : Comparison) (aspects : List Aspect)
    (wf : tree.WellFormed) (found : tree.branch? parent = some old)
    (unbounded : old.node.kind.maxChildren? = none) :
    (generator.addMatches parent (anywherePattern comparison) aspects).CopiesAll tree parent
      (aspects.map fun aspect => .mk rootId (generator.anywhereLeaf comparison aspect) false []) := by
  induction aspects generalizing tree old with
  | nil => exact .nil wf
  | cons aspect rest ih =>
    have leaf : (Edit.addChild parent (generator.anywhereLeaf comparison aspect)).Copies tree parent
        (.mk rootId (generator.anywhereLeaf comparison aspect) false []) := by
      have nested : (generator.anywhereLeaf comparison aspect).kind ≠ .root := NodeKind.noConfusion
      obtain ⟨id, grown, run, growth⟩ := Edit.addChild_grown wf found
        (hasRoom_of_unbounded unbounded) nested
      exact ⟨.mk id _ false [], grown, run, growth, rfl⟩
    refine Edit.CopiesAll.cons leaf fun added next growth => ?_
    exact ih growth.wellFormed (growth.branch?_parent wf found) (by rwa [Branch.node_adopt])

theorem canNegate_leaf (aspect : Aspect) (operator : Operator) (value : String) :
    (generator.leaf aspect operator value).kind.canNegate = true := by
  cases operator <;> rfl

/-- A comparison becomes one branch of its shape. -/
theorem addComparison_copies (comparison : Comparison) (negated : Bool) (wf : tree.WellFormed)
    (found : tree.branch? parent = some old) (room : old.HasRoom) :
    (generator.addComparison parent comparison negated).Copies tree parent
      (generator.comparisonShape comparison negated) := by
  by_cases anywhere : comparison.isAnywhere = true
  · simp only [addComparison, buildComparison, comparisonShape, anywhere, if_true]
    exact addNode_copies wf found room rfl _ fun id grown wf found =>
      generator.addMatches_copies comparison generator.registry.aspects wf found rfl
  · simp only [addComparison, buildComparison, comparisonShape, anywhere, Bool.false_eq_true,
      if_false]
    obtain ⟨id, grown, run, growth⟩ := addNode_grown wf found room
      (canNegate_leaf generator (generator.registry.resolveOrField comparison.field)
        comparison.operator (comparison.value.getD ""))
      (negated ^^ comparison.negated ^^ isInverse comparison.operator)
    exact ⟨.mk id _ _ [], grown, run, growth, rfl⟩

/-- A clause becomes one branch of its shape. -/
theorem addClause_copies (clause : Clause) (wf : tree.WellFormed)
    (found : tree.branch? parent = some old) (room : old.HasRoom) :
    (generator.addClause parent clause).Copies tree parent (generator.clauseShape clause) := by
  cases clause with
  | single left negated => exact generator.addComparison_copies left negated wf found room
  | joined left connective right negated =>
    have able : (connectiveNode connective).kind.canNegate = true := by cases connective <;> rfl
    have unbounded : (connectiveNode connective).kind.maxChildren? = none := by
      cases connective <;> rfl
    have copies := addNode_copies wf found room able negated fun id grown wf found =>
      Edit.CopiesAll.cons
        (generator.addComparison_copies left false wf found (hasRoom_of_unbounded unbounded))
        fun added next growth => Edit.CopiesAll.cons
          (generator.addComparison_copies right false growth.wellFormed
            (growth.branch?_parent wf found) (hasRoom_of_unbounded unbounded))
          fun added next growth => .nil growth.wellFormed
    simpa only [addClause, buildClause, clauseShape, bind_assoc, pure_bind] using copies

/-- Every clause becomes one branch of its shape. -/
theorem addClauses_copies (clauses : List Clause) (wf : tree.WellFormed)
    (found : tree.branch? parent = some old) (unbounded : old.node.kind.maxChildren? = none) :
    (generator.addClauses parent clauses).CopiesAll tree parent
      (clauses.map generator.clauseShape) := by
  induction clauses generalizing tree old with
  | nil => exact .nil wf
  | cons clause rest ih =>
    refine Edit.CopiesAll.cons
      (generator.addClause_copies clause wf found (hasRoom_of_unbounded unbounded))
      fun added next growth => ?_
    exact ih growth.wellFormed (growth.branch?_parent wf found) (by rwa [Branch.node_adopt])

/-- A filter becomes one branch of its shape. -/
theorem addFilter_copies (filter : Filter) (wf : tree.WellFormed)
    (found : tree.branch? parent = some old) (room : old.HasRoom) :
    (generator.addFilter parent filter).Copies tree parent (generator.filterShape filter) := by
  obtain ⟨clauses, negated⟩ := filter
  have several : Edit.Copies
      (do
        let id ← addNode parent .and negated
        generator.addClauses id clauses
        return id)
      tree parent (.mk rootId .and negated (clauses.map generator.clauseShape)) :=
    addNode_copies wf found room rfl negated fun id grown wf found =>
      generator.addClauses_copies clauses wf found rfl
  match clauses, negated, several with
  | [clause], false, _ => exact generator.addClause_copies clause wf found room
  | [clause], true, several => exact several
  | [], _, several => exact several
  | _ :: _ :: _, _, several => exact several

/-- The branch at the top of an empty tree. -/
theorem branch?_empty :
    FilterTree.empty.branch? FilterTree.rootId = some (.mk FilterTree.rootId .root false []) := rfl

/-- The tree of a filter has its shape. -/
theorem unnamed_tree (filter : Filter) :
    (generator.tree filter).top.unnamed = (generator.treeShape filter).unnamed := by
  have wf : FilterTree.empty.WellFormed := FilterTree.wellFormed_withTop .root
  have top {new : List Branch} {grown : FilterTree} (growth : Grown .empty rootId new grown) :
      grown.top.unnamed = .mk rootId .root false (new.map Branch.unnamed) := by
    rw [growth.top, FilterTree.empty, FilterTree.withTop, Branch.modify_mk_self, Branch.adopt_mk,
      Branch.unnamed_mk, List.nil_append]
  rw [tree, addToRoot, treeShape, Branch.unnamed_mk]
  by_cases negated : filter.negated = true
  · obtain ⟨added, grown, run, growth, same⟩ := generator.addFilter_copies filter wf
      branch?_empty (hasRoom_of_unbounded rfl)
    rw [if_pos negated, if_pos negated, Edit.apply_discard_ok run, top growth,
      List.map_singleton, List.map_singleton, same]
  · obtain ⟨new, grown, run, growth, same⟩ := generator.addClauses_copies filter.clauses wf
      branch?_empty rfl
    rw [if_neg negated, if_neg negated, run, top growth, same]

end Generator
end EventSieve
