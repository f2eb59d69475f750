import EventSieve.Proofs.Growth
import EventSieve.Tree.Generate

/-!
# Calls on filter trees

What a caller can do with a filter tree, one call at a time, and the trees that calls lead to. An
edit is made of smaller ones, so what a relation between trees allows of these it allows of the
edit, whether or not the edit fails on the way.

## Main definitions

* `Edit.Within` — an edit that only leads to trees that a relation allows
* `Edit.Stepwise`, `Edit.Growing` — relations that allow edits made of steps
* `CallOn`, `Call` — the calls that edit a tree
* `FilterTree.Reachable` — the trees that a caller can make

## Main statements

* `Edit.Growing.graftBranch`, `Generator.within_addFilter` — copies and generated nodes are as good
  as the additions and the flags that they are made of
-/
namespace EventSieve

open EventSieve.Tree (Node NodeKind NodeId Branch)

namespace Edit

variable {α β : Type}

/-! ## Failing edits -/

theorem apply_bind_error {edit : Edit α} {fault : EditError} {tree next : FilterTree}
    (h : edit.apply tree = (.error fault, next)) (continuation : α → Edit β) :
    (edit >>= continuation).apply tree = (.error fault, next) := by
  rw [apply_bind, h]

/-- An unknown identity is an error. -/
theorem apply_branch_error {tree : FilterTree} {id : NodeId} (h : tree.branch? id = none) :
    (branch id).apply tree = (.error (.unknownNode id), tree) := by
  rw [branch, apply_bind_ok (apply_get tree), h]
  rfl

/-- What an edit returns under a function. -/
theorem apply_map (f : α → β) (edit : Edit α) (tree : FilterTree) :
    (f <$> edit).apply tree = ((edit.apply tree).1.map f, (edit.apply tree).2) := by
  have eq : f <$> edit = edit >>= fun value => pure (f value) := rfl
  rw [eq, apply_bind]
  cases run : edit.apply tree with
  | mk result next => cases result <;> rfl

theorem apply_map_error {edit : Edit α} {fault : EditError} {tree next : FilterTree}
    (run : edit.apply tree = (.error fault, next)) (f : α → β) :
    (f <$> edit).apply tree = (.error fault, next) := by
  rw [apply_map, run]
  rfl

theorem apply_discard_error {edit : Edit α} {fault : EditError} {tree next : FilterTree}
    (run : edit.apply tree = (.error fault, next)) :
    (discard edit).apply tree = (.error fault, next) :=
  apply_map_error run _

/-! ## Edits within a relation -/

/-- Every run of an edit, also one that fails, leads to a tree that a relation allows. -/
def Within (relation : FilterTree → FilterTree → Prop) (edit : Edit α) : Prop :=
  ∀ tree, relation tree (edit.apply tree).2

/-- A relation between the first and the last tree of a run that can be told step by step. -/
structure Stepwise (relation : FilterTree → FilterTree → Prop) : Prop where
  refl : ∀ tree, relation tree tree
  trans : ∀ ⦃one two three⦄, relation one two → relation two three → relation one three

/-- A relation that allows additions of nodes and changes of flags. -/
structure Growing (relation : FilterTree → FilterTree → Prop) : Prop
    extends Stepwise relation where
  add : ∀ parent node, (addChild parent node).Within relation
  flag : ∀ id negated, (setNegated id negated).Within relation

namespace Stepwise

variable {relation : FilterTree → FilterTree → Prop} (steps : Stepwise relation)

include steps

theorem unchanged {edit : Edit α} (same : ∀ tree, (edit.apply tree).2 = tree) :
    edit.Within relation := by
  intro tree
  rw [same]
  exact steps.refl tree

theorem pure (value : α) : (pure value : Edit α).Within relation :=
  steps.unchanged fun _ => rfl

theorem branch (id : NodeId) : (branch id).Within relation := by
  refine steps.unchanged fun tree => ?_
  cases found : tree.branch? id with
  | none => rw [apply_branch_error found]
  | some branch => rw [apply_branch_ok found]

theorem bind {edit : Edit α} {continuation : α → Edit β} (first : edit.Within relation)
    (later : ∀ value, (continuation value).Within relation) :
    (edit >>= continuation).Within relation := by
  intro tree
  have start := first tree
  rw [apply_bind]
  cases run : edit.apply tree with
  | mk result next =>
    rw [run] at start
    cases result with
    | ok value => exact steps.trans start (later value next)
    | error fault => exact start

end Stepwise

section
variable {relation : FilterTree → FilterTree → Prop}

theorem Within.map {edit : Edit α} (h : edit.Within relation) (f : α → β) :
    (f <$> edit).Within relation := by
  intro tree
  rw [apply_map]
  exact h tree

theorem Within.discard {edit : Edit α} (h : edit.Within relation) :
    (discard edit).Within relation :=
  h.map _

/-- A node is written if every change of a node is allowed. -/
theorem Stepwise.setNode (steps : Stepwise relation) {id : NodeId} {node : Node}
    (change : ∀ tree, relation tree (tree.modifyBranch id (·.withNode node))) :
    (setNode id node).Within relation :=
  steps.bind (steps.branch id).discard fun _ tree => change tree

theorem Growing.toggleNegated (growing : Growing relation) (id : NodeId) :
    (toggleNegated id).Within relation :=
  growing.bind (growing.branch id) fun old => growing.flag id !old.negated

/-- Copies below one node are made one after the other. -/
theorem Stepwise.graftAll (steps : Stepwise relation) {parent : NodeId} {branches : List Branch}
    (each : ∀ b ∈ branches, (graftBranch parent b).Within relation) :
    (graftAll parent branches).Within relation := by
  induction branches with
  | nil => exact steps.pure ()
  | cons b rest ih =>
    rw [Edit.graftAll]
    obtain ⟨here, others⟩ := List.forall_mem_cons.mp each
    exact steps.bind here.discard fun _ => ih others

/-- A copy of a branch is made of additions and of flags. -/
theorem Growing.graftBranch (growing : Growing relation)
    (copy : ∀ id negated, (copyFlag id negated).Within relation) (branch : Branch)
    (parent : NodeId) : (graftBranch parent branch).Within relation := by
  induction branch using Branch.induction generalizing parent with
  | mk id node negated children ih =>
    rw [Edit.graftBranch]
    refine growing.bind (growing.add parent node) fun new => ?_
    refine growing.bind (copy new negated) fun _ => ?_
    exact growing.bind (growing.graftAll fun b hb => ih b hb new) fun _ => growing.pure new

end

end Edit

namespace Generator

open Edit (Growing)

variable {relation : FilterTree → FilterTree → Prop} (growing : Growing relation)

include growing

theorem within_addMatches (generator : Generator) (parent : NodeId) (pattern : String)
    (aspects : List Aspect) : (generator.addMatches parent pattern aspects).Within relation := by
  induction aspects with
  | nil => exact growing.pure ()
  | cons aspect rest ih => exact growing.bind (growing.add _ _).discard fun _ => ih

theorem within_addNode (parent : NodeId) (node : Node) (negated : Bool) :
    (addNode parent node negated).Within relation :=
  growing.bind (growing.add parent node) fun id =>
    growing.bind (growing.flag id negated) fun _ => growing.pure id

theorem within_addComparison (generator : Generator) (parent : NodeId) (comparison : Comparison)
    (negated : Bool) : (generator.addComparison parent comparison negated).Within relation := by
  unfold addComparison buildComparison
  by_cases anywhere : comparison.isAnywhere = true
  · simp only [anywhere, if_true]
    refine growing.bind (within_addNode growing _ _ _) fun id => ?_
    exact growing.bind (within_addMatches growing generator _ _ _) fun _ => growing.pure id
  · simp only [if_neg anywhere]
    exact within_addNode growing _ _ _

theorem within_addClause (generator : Generator) (parent : NodeId) (clause : Clause) :
    (generator.addClause parent clause).Within relation := by
  have comparison := within_addComparison growing generator
  unfold addClause buildClause
  split
  · refine growing.bind (within_addNode growing _ _ _) fun id => ?_
    refine growing.bind (comparison _ _ _).discard fun _ => ?_
    exact growing.bind (comparison _ _ _).discard fun _ => growing.pure id
  · exact comparison _ _ _

theorem within_addClauses (generator : Generator) (parent : NodeId) (clauses : List Clause) :
    (generator.addClauses parent clauses).Within relation := by
  induction clauses with
  | nil => exact growing.pure ()
  | cons clause rest ih =>
    exact growing.bind (within_addClause growing generator parent clause).discard fun _ => ih

/-- A generated node is made of additions and of flags. -/
theorem within_addFilter (generator : Generator) (parent : NodeId) (filter : Filter) :
    (generator.addFilter parent filter).Within relation := by
  unfold addFilter buildFilter
  split
  · exact within_addClause growing generator _ _
  · refine growing.bind (within_addNode growing _ _ _) fun id => ?_
    exact growing.bind (within_addClauses growing generator _ _) fun _ => growing.pure id

end Generator

/-! ## Calls -/

/-- A call that edits a tree. Trees that it copies are given as `τ`. -/
inductive CallOn (τ : Type) where
  | insert (parent : NodeId) (index : Nat) (node : Node)
  | add (parent : NodeId) (node : Node)
  | remove (parent : NodeId) (index : Nat)
  | replace (parent : NodeId) (index : Nat) (node : Node)
  | graft (parent : NodeId) (other : τ)
  | generate (generator : Generator) (parent : NodeId) (filter : Filter)
  | setNegated (id : NodeId) (negated : Bool)
  | toggleNegated (id : NodeId)
  | setNode (id : NodeId) (node : Node)

namespace CallOn

variable {τ : Type}

/-- The identity that a call is addressed to. -/
def target : CallOn τ → NodeId
  | insert parent _ _ | add parent _ | remove parent _ | replace parent _ _ | graft parent _
  | generate _ parent _ => parent
  | setNegated id _ | toggleNegated id | setNode id _ => id

/-- The trees that a call copies. -/
def sources : CallOn τ → List τ
  | graft _ other => [other]
  | _ => []

/-- Whether a call changes the kind of a node only as a relation says. -/
def Allowed (mayBecome : NodeKind → NodeKind → Prop) (node? : NodeId → Option Node) :
    CallOn τ → Prop
  | setNode id node => ∀ old, node? id = some old → mayBecome old.kind node.kind
  | _ => True

end CallOn

/-- A call on a filter tree. -/
abbrev Call := CallOn FilterTree

namespace Call

/-- The edit of a call. It returns the identity of the node that it brings, if it brings one. -/
def edit : Call → Edit (Option NodeId)
  | .insert parent index node => some <$> Edit.insertChild parent index node
  | .add parent node => some <$> Edit.addChild parent node
  | .remove parent index => (fun _ => none) <$> Edit.removeChild parent index
  | .replace parent index node => some <$> Edit.replaceChild parent index node
  | .graft parent other => some <$> Edit.graft parent other
  | .generate generator parent filter => some <$> generator.addFilter parent filter
  | .setNegated id negated => (fun _ => none) <$> Edit.setNegated id negated
  | .toggleNegated id => (fun _ => none) <$> Edit.toggleNegated id
  | .setNode id node => (fun _ => none) <$> Edit.setNode id node

/-- The tree after a call, which may have failed. -/
def after (call : Call) (tree : FilterTree) : FilterTree :=
  (call.edit.apply tree).2

end Call

/-- The trees that a caller can make: a tree of one node, a branch of a tree on its own, also one
that was taken out, and what calls make of a tree. A payload may be written over a node as
`mayBecome` says of their kinds. -/
inductive FilterTree.Reachable (mayBecome : NodeKind → NodeKind → Prop) : FilterTree → Prop
  | withTop (node : Node) : Reachable mayBecome (withTop node)
  | subtree {tree part : FilterTree} {id : NodeId} (h : Reachable mayBecome tree)
      (made : tree.subtree id = .ok part) : Reachable mayBecome part
  | removed {tree next removed : FilterTree} {parent : NodeId} {index : Nat}
      (h : Reachable mayBecome tree)
      (made : (Edit.removeChild parent index).apply tree = (.ok removed, next)) :
      Reachable mayBecome removed
  | call {tree : FilterTree} {call : Call} (h : Reachable mayBecome tree)
      (sources : ∀ other ∈ call.sources, Reachable mayBecome other)
      (allowed : call.Allowed mayBecome tree.node?) : Reachable mayBecome (call.after tree)

end EventSieve
