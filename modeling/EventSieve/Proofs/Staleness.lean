import EventSieve.Proofs.Removal

/-!
# Identities of removed nodes

A run of calls on a tree gives out identities and takes nodes out of the tree. As long as no place
is given up so often that its generations begin anew, no identity is given out twice, and the
identity of a node that was taken out means nothing from then on.

## Main definitions

* `Call.removed`, `Call.returned` — the identities that a call takes out of a tree and gives out
* `FilterTree.Unknown` — an identity that means nothing in a tree

## Main statements

* `Call.exchange` — what one call takes out of a tree and gives out
* `FilterTree.turnover_afterAll` — what a run of calls does
* `FilterTree.unknown_of_removed` — identities are given out once, and do not come back
-/
namespace EventSieve

open EventSieve.Tree (Node NodeKind NodeId Branch)
open FilterTree (Turnover countAt)

namespace Edit

variable {tree : FilterTree} {parent : NodeId}

/-! ## Unknown identities -/

theorem apply_addChild_unknown (h : tree.branch? parent = none) (node : Node) :
    (addChild parent node).apply tree = (.error (.unknownNode parent), tree) := by
  rw [addChild, apply_bind_error (apply_branch_error h)]

theorem apply_removeChild_unknown (h : tree.branch? parent = none) (index : Nat) :
    (removeChild parent index).apply tree = (.error (.unknownNode parent), tree) := by
  rw [removeChild, apply_bind_error (apply_branch_error h)]

theorem apply_insertChild_unknown (h : tree.branch? parent = none) (index : Nat) (node : Node) :
    (insertChild parent index node).apply tree =
      (.error (if node.kind == .root then .nestedRoot else .unknownNode parent), tree) := by
  by_cases nested : node.kind = .root
  · rw [insertChild, if_pos nested, if_pos (beq_iff_eq.mpr nested)]
    rfl
  · rw [insertChild, if_neg nested, if_neg (by simpa using nested)]
    show (branch parent >>= _).apply tree = _
    exact apply_bind_error (apply_branch_error h) _

theorem apply_replaceChild_unknown (h : tree.branch? parent = none) (index : Nat) (node : Node) :
    (replaceChild parent index node).apply tree =
      (.error (if node.kind == .root then .nestedRoot else .unknownNode parent), tree) := by
  by_cases nested : node.kind = .root
  · rw [replaceChild, if_pos nested, if_pos (beq_iff_eq.mpr nested)]
    rfl
  · rw [apply_replaceChild tree parent index nested, apply_removeChild_unknown h index,
      if_neg (by simpa using nested)]

theorem apply_graft_unknown (h : tree.branch? parent = none) (other : FilterTree) :
    (graft parent other).apply tree = (.error (.unknownNode parent), tree) := by
  obtain ⟨⟨id, node, negated, children⟩, -, -, -⟩ := other
  rw [graft, graftBranch, apply_bind_error (apply_addChild_unknown h node)]

theorem apply_setNegated_unknown (h : tree.branch? parent = none) (negated : Bool) :
    (setNegated parent negated).apply tree = (.error (.unknownNode parent), tree) := by
  rw [setNegated, apply_bind_error (apply_branch_error h)]

theorem apply_toggleNegated_unknown (h : tree.branch? parent = none) :
    (toggleNegated parent).apply tree = (.error (.unknownNode parent), tree) := by
  rw [toggleNegated, apply_bind_error (apply_branch_error h)]

theorem apply_setNode_unknown (h : tree.branch? parent = none) (node : Node) :
    (setNode parent node).apply tree = (.error (.unknownNode parent), tree) := by
  rw [setNode]
  show (discard (branch parent) >>= _).apply tree = _
  exact apply_bind_error (apply_discard_error (apply_branch_error h)) _

end Edit

namespace Generator

variable {tree : FilterTree} {parent : NodeId}

/-- A filter whose nodes are all refused below a node is refused there, and the tree stays as it
is. -/
theorem apply_addFilter_refused (generator : Generator) {fault : EditError}
    (refused : ∀ node : Node, node.kind ≠ .root →
      (Edit.addChild parent node).apply tree = (.error fault, tree)) (filter : Filter) :
    (generator.addFilter parent filter).apply tree = (.error fault, tree) := by
  have node {node : Node} (nested : node.kind ≠ .root) (negated : Bool) :
      (addNode parent node negated).apply tree = (.error fault, tree) := by
    rw [addNode_eq, Edit.apply_bind_error (refused node nested)]
  have comparison (comparison : Comparison) (negated : Bool) :
      (generator.addComparison parent comparison negated).apply tree = (.error fault, tree) := by
    unfold addComparison buildComparison
    by_cases anywhere : comparison.isAnywhere = true
    · simp only [anywhere, if_true]
      rw [Edit.apply_bind_error (node NodeKind.noConfusion _)]
    · simp only [if_neg anywhere]
      refine node ?_ _
      cases comparison.operator <;> exact NodeKind.noConfusion
  unfold addFilter buildFilter
  split
  · unfold buildClause
    split
    next connective _ _ _ =>
      have nested : (connectiveNode connective).kind ≠ .root := by
        cases connective <;> exact NodeKind.noConfusion
      rw [Edit.apply_bind_error (node nested _)]
    next => exact comparison _ _
  · rw [Edit.apply_bind_error (node NodeKind.noConfusion _)]

theorem apply_addFilter_unknown (generator : Generator) (h : tree.branch? parent = none)
    (filter : Filter) :
    (generator.addFilter parent filter).apply tree = (.error (.unknownNode parent), tree) :=
  generator.apply_addFilter_refused (fun node _ => Edit.apply_addChild_unknown h node) filter

end Generator

namespace Call

/-- Whether a call asks for a root at a place among the children of a node. -/
def insertsRoot : Call → Bool
  | .insert _ _ node | .replace _ _ node => node.kind == .root
  | _ => false

/-- A call that is addressed to an unknown identity changes nothing and says so. -/
theorem apply_edit_unknown {tree : FilterTree} {call : Call}
    (h : tree.branch? call.target = none) :
    call.edit.apply tree =
      (.error (if call.insertsRoot then .nestedRoot else .unknownNode call.target), tree) := by
  cases call with
  | insert parent index node =>
    exact Edit.apply_map_error (Edit.apply_insertChild_unknown h index node) _
  | add parent node => exact Edit.apply_map_error (Edit.apply_addChild_unknown h node) _
  | remove parent index => exact Edit.apply_map_error (Edit.apply_removeChild_unknown h index) _
  | replace parent index node =>
    exact Edit.apply_map_error (Edit.apply_replaceChild_unknown h index node) _
  | graft parent other => exact Edit.apply_map_error (Edit.apply_graft_unknown h other) _
  | generate generator parent filter =>
    exact Edit.apply_map_error (generator.apply_addFilter_unknown h filter) _
  | setNegated id negated => exact Edit.apply_map_error (Edit.apply_setNegated_unknown h negated) _
  | toggleNegated id => exact Edit.apply_map_error (Edit.apply_toggleNegated_unknown h) _
  | setNode id node => exact Edit.apply_map_error (Edit.apply_setNode_unknown h node) _

end Call

/-- An identity that means nothing in a tree: nothing is found under it, and an edit that is
addressed to it fails and leaves the tree as it is. -/
structure FilterTree.Unknown (tree : FilterTree) (id : NodeId) : Prop where
  node : tree.node? id = none
  parent : tree.parent? id = none
  child : ∀ index, tree.child? id index = none
  children : tree.children id = []
  accepts : ∀ event, tree.acceptsFrom id event = false
  edits : ∀ call : Call, call.target = id → call.edit.apply tree =
    (.error (if call.insertsRoot then .nestedRoot else .unknownNode id), tree)

/-- Who is not in a branch has no parent there. -/
theorem Tree.Branch.parentOf?_eq_none {branch : Branch} {child : NodeId}
    (absent : child ∉ branch.ids) : branch.parentOf? child = none := by
  rw [Branch.parentOf?, List.find?_eq_none]
  intro owner howner lists
  obtain ⟨part, hpart, same⟩ := List.any_eq_true.mp lists
  have inside := Branch.mem_preorder_trans (Branch.mem_preorder_of_mem_children hpart) howner
  exact absent (List.mem_map.mpr ⟨part, inside, beq_iff_eq.mp same⟩)

namespace FilterTree

variable {tree : FilterTree} {id : NodeId}

theorem mem_ids_of_mem_preorder {top part : Branch} (htop : top ∈ tree.branches)
    (hpart : part ∈ top.preorder) : part.id ∈ tree.ids :=
  List.mem_flatMap.mpr ⟨top, htop, List.mem_map_of_mem hpart⟩

theorem branch?_eq_none_of_notMem (h : id ∉ tree.ids) : tree.branch? id = none := by
  rw [branch?, List.findSome?_eq_none_iff]
  intro top htop
  rw [Branch.find?, List.find?_eq_none]
  intro part hpart same
  exact h (beq_iff_eq.mp same ▸ mem_ids_of_mem_preorder htop hpart)

theorem parent?_eq_none_of_notMem (h : id ∉ tree.ids) : tree.parent? id = none := by
  have inside : tree.branches.findSome? (·.parentOf? id) = none := by
    rw [List.findSome?_eq_none_iff]
    exact fun top htop => Branch.parentOf?_eq_none fun mem =>
      h (List.mem_flatMap.mpr ⟨top, htop, mem⟩)
  have outside : tree.strays.find? (·.2.id == id) = none := by
    rw [List.find?_eq_none]
    intro stray hstray same
    refine h (beq_iff_eq.mp same ▸ mem_ids_of_mem_preorder ?_ stray.2.mem_preorder_self)
    exact List.mem_cons_of_mem _ (List.mem_map_of_mem hstray)
  rw [parent?, inside, outside, Option.map_none]

theorem unknown_of_notMem (h : id ∉ tree.ids) : tree.Unknown id := by
  have none := branch?_eq_none_of_notMem h
  have children : tree.children id = [] := by rw [FilterTree.children, none]; rfl
  refine ⟨by rw [node?, none]; rfl, parent?_eq_none_of_notMem h, fun index => ?_, children,
    fun event => by rw [acceptsFrom, none]; rfl, fun call target => ?_⟩
  · rw [child?, children, List.getElem?_nil]
  · subst target
    exact Call.apply_edit_unknown none

end FilterTree

/-! ## Calls -/

namespace Call

/-- The identities that a call takes out of a tree. -/
def removed (tree : FilterTree) : Call → List NodeId
  | .remove parent index => tree.removedAt parent index
  | .replace parent index node => if node.kind = .root then [] else tree.removedAt parent index
  | _ => []

/-- The identity that a call gives out. -/
def returned (tree : FilterTree) (call : Call) : Option NodeId :=
  match (call.edit.apply tree).1 with
  | .ok id => id
  | .error _ => none

/-- What becomes of a tree when some identities are taken out of it and another one is given out. -/
structure Exchange (tree : FilterTree) (removed : List NodeId) (given : Option NodeId)
    (next : FilterTree) : Prop extends Turnover tree removed next where
  there : ∀ id ∈ given, id ∈ next.ids
  new : ∀ id ∈ given, id ∈ tree.ids → id ∈ removed

variable {tree : FilterTree}

theorem exchange_of_turnover {removed : List NodeId} {next : FilterTree}
    (h : Turnover tree removed next) : Exchange tree removed none next :=
  ⟨h, nofun, nofun⟩

/-- A removal of nodes, and then an edit that brings a new one. -/
theorem exchange_of_brings {edit : Edit NodeId} {removed : List NodeId} {mid : FilterTree}
    (first : Turnover tree removed mid) (keeps : edit.Within Edit.Keeps) (brings : edit.Brings) :
    Exchange tree removed (edit.apply mid).1.toOption (edit.apply mid).2 := by
  have kept := keeps mid first.wellFormed
  have brought := brings mid
  have turnover : Turnover tree removed (edit.apply mid).2 := by simpa using first.trans kept
  cases run : edit.apply mid with
  | mk result next =>
    rw [run] at turnover brought
    cases result with
    | error fault => exact exchange_of_turnover turnover
    | ok id =>
      obtain ⟨there, new⟩ := brought id first.wellFormed rfl
      refine ⟨turnover, ?_, ?_⟩
      · rintro _ ⟨⟩
        exact there
      · rintro _ ⟨⟩ old
        by_contra stays
        exact new (first.kept id old stays)

section
variable {call : Call} {removed : List NodeId}

theorem exchange_of_edit_none {α : Type} {edit : Edit α}
    (same : call.edit = (fun _ => none) <$> edit) (h : Turnover tree removed (edit.apply tree).2) :
    Exchange tree removed (call.returned tree) (call.after tree) := by
  rw [returned, after, same, Edit.apply_map]
  cases run : edit.apply tree with
  | mk result next =>
    rw [run] at h
    cases result <;> exact exchange_of_turnover h

theorem exchange_of_edit_some {edit : Edit NodeId} (same : call.edit = some <$> edit)
    (h : Exchange tree removed (edit.apply tree).1.toOption (edit.apply tree).2) :
    Exchange tree removed (call.returned tree) (call.after tree) := by
  rw [returned, after, same, Edit.apply_map]
  cases run : edit.apply tree with
  | mk result next =>
    rw [run] at h
    cases result <;> exact h

end

/-- A new node in the place of a child is a removal and then an addition. -/
theorem exchange_replace (wf : tree.WellFormed) (parent : NodeId) (index : Nat) (node : Node) :
    Exchange tree (removed tree (.replace parent index node))
      (returned tree (.replace parent index node)) (after (.replace parent index node) tree) := by
  refine exchange_of_edit_some rfl ?_
  rw [Call.removed]
  by_cases nested : node.kind = .root
  · rw [Edit.replaceChild, if_pos nested, if_pos nested]
    exact exchange_of_turnover (.refl wf)
  · have first := (Edit.removeChild_turnover wf parent index).1
    rw [Edit.apply_replaceChild tree parent index nested, if_neg nested]
    cases removal : (Edit.removeChild parent index).apply tree with
    | mk result mid =>
      rw [removal] at first
      cases result with
      | error fault => exact exchange_of_turnover first
      | ok taken =>
        exact exchange_of_brings first (Edit.insertChild_keeps parent index node)
          (Edit.brings_insertChild parent index node)

/-- What a call does: it takes out the identities that it removes, and gives out a new one. -/
theorem exchange (wf : tree.WellFormed) (call : Call) :
    Exchange tree (call.removed tree) (call.returned tree) (call.after tree) := by
  have start := Turnover.refl wf
  cases call with
  | insert parent index node =>
    exact exchange_of_edit_some rfl (exchange_of_brings start
      (Edit.insertChild_keeps parent index node) (Edit.brings_insertChild parent index node))
  | add parent node =>
    exact exchange_of_edit_some rfl (exchange_of_brings start
      (Edit.growing_keeps.add parent node) (Edit.brings_addChild parent node))
  | remove parent index =>
    exact exchange_of_edit_none rfl (Edit.removeChild_turnover wf parent index).1
  | replace parent index node => exact exchange_replace wf parent index node
  | graft parent other =>
    exact exchange_of_edit_some rfl (exchange_of_brings start
      (Edit.graftBranch_keeps parent other.top) (Edit.brings_graft parent other))
  | generate generator parent filter =>
    exact exchange_of_edit_some rfl (exchange_of_brings start
      (generator.within_addFilter Edit.growing_keeps parent filter)
      (generator.brings_addFilter parent filter))
  | setNegated id negated =>
    exact exchange_of_edit_none rfl (Edit.setNegated_keeps id negated tree wf)
  | toggleNegated id =>
    exact exchange_of_edit_none rfl (Edit.growing_keeps.toggleNegated id tree wf)
  | setNode id node =>
    refine exchange_of_edit_none rfl (Edit.stepwise_keeps.setNode (fun tree wf => ?_) tree wf)
    exact .modifyBranch wf id (Branch.ids_withNode node)

theorem removed_subset (wf : tree.WellFormed) (call : Call) : call.removed tree ⊆ tree.ids := by
  cases call with
  | remove parent index => exact (Edit.removeChild_turnover wf parent index).2
  | replace parent index node =>
    rw [removed]
    split
    · exact List.nil_subset _
    · exact (Edit.removeChild_turnover wf parent index).2
  | _ => exact List.nil_subset _

end Call

/-! ## Runs -/

namespace FilterTree

/-- The tree after some calls. -/
def afterAll (tree : FilterTree) (calls : List Call) : FilterTree :=
  calls.foldl (fun tree call => call.after tree) tree

/-- The identities that some calls take out of a tree, one call after the other. -/
def removedAll (tree : FilterTree) : List Call → List NodeId
  | [] => []
  | call :: rest => call.removed tree ++ removedAll (call.after tree) rest

/-- The identities that some calls give out, one call after the other. -/
def returnedAll (tree : FilterTree) : List Call → List NodeId
  | [] => []
  | call :: rest => (call.returned tree).toList ++ returnedAll (call.after tree) rest

theorem afterAll_append (tree : FilterTree) (calls more : List Call) :
    tree.afterAll (calls ++ more) = (tree.afterAll calls).afterAll more :=
  List.foldl_append

theorem removedAll_append (tree : FilterTree) (calls more : List Call) :
    tree.removedAll (calls ++ more) =
      tree.removedAll calls ++ (tree.afterAll calls).removedAll more := by
  induction calls generalizing tree with
  | nil => rfl
  | cons call calls ih =>
    rw [List.cons_append, removedAll, removedAll, ih, List.append_assoc]
    rfl

/-- What is given out in a run is given out by one of its calls. -/
theorem mem_returnedAll {tree : FilterTree} {calls : List Call} {id : NodeId}
    (h : id ∈ tree.returnedAll calls) : ∃ before call rest, calls = before ++ call :: rest ∧
      id ∈ call.returned (tree.afterAll before) := by
  induction calls generalizing tree with
  | nil => cases h
  | cons call calls ih =>
    rw [returnedAll, List.mem_append, Option.mem_toList] at h
    rcases h with here | later
    · exact ⟨[], call, calls, rfl, here⟩
    · obtain ⟨before, other, rest, rfl, given⟩ := ih later
      exact ⟨call :: before, other, rest, rfl, given⟩

section
variable {tree : FilterTree} (wf : tree.WellFormed)

include wf

/-- A run of calls removes what its calls remove. -/
theorem turnover_afterAll (calls : List Call) :
    Turnover tree (tree.removedAll calls) (tree.afterAll calls) := by
  induction calls generalizing tree with
  | nil => exact .refl wf
  | cons call calls ih =>
    have first := (call.exchange wf).toTurnover
    exact first.trans (ih first.wellFormed)

/-- What is known before a run is not given out in it: an identity that is removed has another
generation from then on. -/
theorem notMem_ids_of_returned {calls : List Call} {id : NodeId}
    (few : ∀ index, countAt (tree.removedAll calls) index < 2 ^ 32)
    (produced : id ∈ tree.returnedAll calls) : id ∉ tree.ids := by
  intro known
  obtain ⟨before, call, rest, rfl, given⟩ := mem_returnedAll produced
  have start := turnover_afterAll wf before
  have step := call.exchange start.wellFormed
  have run := start.trans step.toTurnover
  by_cases gone : id ∈ tree.removedAll before ++ call.removed (tree.afterAll before)
  · refine run.stale wf known gone ?_ (step.there id given)
    have total := few id.index
    rw [removedAll_append, removedAll, ← List.append_assoc, countAt_append] at total
    omega
  · rw [List.mem_append, not_or] at gone
    exact gone.2 (step.new id given (start.kept id known gone.1))

/-- No identity is given out twice. -/
theorem returnedAll_nodup {calls : List Call}
    (few : ∀ index, countAt (tree.removedAll calls) index < 2 ^ 32) :
    (tree.returnedAll calls).Nodup := by
  induction calls generalizing tree with
  | nil => exact List.nodup_nil
  | cons call calls ih =>
    have step := call.exchange wf
    have fewer : ∀ index, countAt ((call.after tree).removedAll calls) index < 2 ^ 32 := by
      intro index
      have total := few index
      rw [removedAll, countAt_append] at total
      omega
    have one : (call.returned tree).toList.Nodup := by cases call.returned tree <;> simp
    refine one.append (ih step.wellFormed fewer) fun id here later => ?_
    exact notMem_ids_of_returned step.wellFormed fewer later
      (step.there id (Option.mem_toList.mp here))

/-- What was known once and is not known any more does not come back. -/
theorem notMem_ids_of_lost {before middle rest : List Call} {id : NodeId}
    (few : ∀ index, countAt (tree.removedAll (before ++ middle ++ rest)) index < 2 ^ 32)
    (known : id ∈ (tree.afterAll before).ids) (lost : id ∉ (tree.afterAll (before ++ middle)).ids) :
    id ∉ (tree.afterAll (before ++ middle ++ rest)).ids := by
  have start := (turnover_afterAll wf before).wellFormed
  have first := turnover_afterAll start middle
  rw [afterAll_append] at lost
  have gone : id ∈ (tree.afterAll before).removedAll middle := by
    by_contra stays
    exact lost (first.kept id known stays)
  have run := turnover_afterAll start (middle ++ rest)
  rw [List.append_assoc, afterAll_append]
  refine run.stale start known ?_ ?_
  · rw [removedAll_append]
    exact List.mem_append_left _ gone
  · have total := few id.index
    rw [List.append_assoc, removedAll_append, countAt_append] at total
    omega

/-- What a call removes is not known after any later calls. -/
theorem notMem_ids_of_removed {before rest : List Call} {call : Call} {id : NodeId}
    (few : ∀ index, countAt (tree.removedAll (before ++ call :: rest)) index < 2 ^ 32)
    (gone : id ∈ call.removed (tree.afterAll before)) :
    id ∉ (tree.afterAll (before ++ call :: rest)).ids := by
  have start := (turnover_afterAll wf before).wellFormed
  have run := turnover_afterAll start (call :: rest)
  rw [afterAll_append]
  refine run.stale start (call.removed_subset start gone) (List.mem_append_left _ gone) ?_
  have total := few id.index
  rw [removedAll_append, countAt_append] at total
  omega

end

/-- Trees that a caller can make are well formed. -/
theorem Reachable.wellFormed {mayBecome : NodeKind → NodeKind → Prop} {tree : FilterTree}
    (h : tree.Reachable mayBecome) : tree.WellFormed := by
  induction h with
  | withTop node => exact wellFormed_withTop node
  | @subtree tree part id h made ih =>
    rw [FilterTree.subtree] at made
    split at made
    · exact wellFormed_of_ofBranch made
    · cases made
  | @removed tree next removed parent index h made ih =>
    rcases Edit.removeChild_cases tree parent index with ⟨fault, run⟩ |
      ⟨old, child, -, -, ⟨fault, -, run⟩ | ⟨taken, copied, run⟩⟩
    · rw [made] at run
      cases run
    · rw [made] at run
      cases run
    · rw [made] at run
      cases run
      exact wellFormed_of_ofBranch copied
  | @call tree call h sources allowed ih => exact (call.exchange ih).wellFormed

/-- In a run of calls on a tree in which every place is given up fewer than 2 ^ 32 times, no
identity is given out twice, and neither an identity that a call removed nor any other one that was
lost means anything again. -/
theorem unknown_of_removed {tree : FilterTree} (reached : tree.Reachable fun _ _ => True)
    (calls : List Call) (few : ∀ index, countAt (tree.removedAll calls) index < 2 ^ 32) :
    (tree.returnedAll calls).Nodup ∧
    (∀ before call middle rest, calls = before ++ call :: (middle ++ rest) →
      ∀ id ∈ call.removed (tree.afterAll before),
        (tree.afterAll (before ++ call :: middle)).Unknown id) ∧
    ∀ before middle rest, calls = before ++ middle ++ rest →
      ∀ id, (tree.afterAll before).isLive id = true →
        (tree.afterAll (before ++ middle)).isLive id = false →
          (tree.afterAll calls).Unknown id := by
  have wf := reached.wellFormed
  refine ⟨returnedAll_nodup wf few, ?_, ?_⟩
  · rintro before call middle rest rfl id gone
    refine unknown_of_notMem (notMem_ids_of_removed wf (fun index => ?_) gone)
    have total := few index
    rw [← List.cons_append, ← List.append_assoc, removedAll_append, countAt_append] at total
    omega
  · rintro before middle rest rfl id known lost
    have start := (turnover_afterAll wf before).wellFormed
    have later := (turnover_afterAll wf (before ++ middle)).wellFormed
    refine unknown_of_notMem (notMem_ids_of_lost wf few ((isLive_iff start).mp known) fun mem => ?_)
    rw [(isLive_iff later).mpr mem] at lost
    cases lost

/-- A place that is used again: its old identity stays unknown. -/
theorem unknown_of_removed_reuse :
    let calls : List Call :=
      [.add rootId .and, .add ⟨1, 0⟩ .or, .remove rootId 0, .add rootId .or]
    empty.returnedAll calls = [⟨1, 0⟩, ⟨2, 0⟩, ⟨2, 1⟩] ∧
      (∀ index, countAt (empty.removedAll calls) index < 2 ^ 32) ∧
      (empty.returnedAll calls).Nodup ∧ (empty.afterAll calls).Unknown ⟨2, 0⟩ := by
  intro calls
  have removed : empty.removedAll calls = [⟨1, 0⟩, ⟨2, 0⟩] := by decide +kernel
  have few : ∀ index, countAt (empty.removedAll calls) index < 2 ^ 32 := by
    intro index
    rw [removed, countAt]
    exact Nat.lt_of_le_of_lt List.count_le_length (by decide)
  obtain ⟨distinct, unknown, -⟩ := unknown_of_removed (.withTop .root) calls few
  refine ⟨by decide +kernel, few, distinct, ?_⟩
  exact unknown [.add rootId .and, .add ⟨1, 0⟩ .or] (.remove rootId 0) [.add rootId .or] [] rfl
    ⟨2, 0⟩ (by decide +kernel)

end FilterTree

end EventSieve
