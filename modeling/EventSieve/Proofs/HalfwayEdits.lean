import EventSieve.Proofs.Effects

/-!
# Edits that fail halfway

What the edits of the children of a node leave behind when they fail, in every tree that a caller
can make. A payload that is written over a node may leave it with more children than its kind may
have, or make a root of it, and then the node cannot be copied. An insertion is refused before
anything changes. The other edits are made of several changes, and only what is refused before the
first of them leaves the tree as it was: a removal that fails later has already cut the child off, a
replacement has removed it, and a graft has copied a part of the other tree.

## Main definitions

* `FilterTree.Alike` — two trees with the same nodes, payloads, flags and lists of children
* `Edit.Refused` — an edit that leaves the tree as it was exactly where it is refused at once

## Main statements

* `Edit.refused_of_reachable` — what is refused at once of the edits of the children of a node
* `Edit.refused_of_reachable_gate` — a removal that fails and takes a child from its parent
-/
namespace EventSieve

open EventSieve.Tree (Node NodeKind NodeId Branch)

namespace FilterTree

/-- Trees that look the same to a caller: they have the same nodes, with the same payloads, flags
and lists of children. -/
structure Alike (tree next : FilterTree) : Prop where
  live : ∀ id, next.isLive id = tree.isLive id
  node : ∀ id, next.node? id = tree.node? id
  flag : ∀ id, next.isNegated id = tree.isNegated id
  children : ∀ id, next.children id = tree.children id

theorem Alike.refl (tree : FilterTree) : tree.Alike tree :=
  ⟨fun _ => rfl, fun _ => rfl, fun _ => rfl, fun _ => rfl⟩

variable {tree next : FilterTree} {id parent : NodeId} {old child : Branch} {index : Nat}

/-- Trees are not alike if a node has come. -/
theorem not_alike_of_came (wf : tree.WellFormed) (wf' : next.WellFormed) (new : id ∉ tree.ids)
    (there : id ∈ next.ids) : ¬tree.Alike next := by
  intro alike
  have live := (isLive_iff wf').mpr there
  rw [alike.live, isLive_iff wf] at live
  exact new live

/-- Trees are not alike if a node has gone. -/
theorem not_alike_of_gone (wf : tree.WellFormed) (wf' : next.WellFormed) (old : id ∈ tree.ids)
    (gone : id ∉ next.ids) : ¬tree.Alike next := by
  intro alike
  have live := (isLive_iff wf).mpr old
  rw [← alike.live, isLive_iff wf'] at live
  exact gone live

/-- The node whose children are edited is not below one of them. -/
theorem notMem_preorder_child (wf : tree.WellFormed) (found : tree.branch? parent = some old)
    (mem : child ∈ old.children) : old ∉ child.preorder := by
  intro below
  obtain ⟨hold, -⟩ := (branch?_eq_some_iff wf).mp found
  obtain ⟨top, htop, inside⟩ := List.mem_flatMap.mp hold
  have own := Branch.ids_nodup_of_mem_preorder (wf.branch_nodup htop) inside
  rw [Branch.ids_eq_cons, List.nodup_cons] at own
  exact own.1 (List.mem_flatMap.mpr ⟨child, mem, List.mem_map_of_mem below⟩)

/-- The parent of a child that is cut off does not list it any more. -/
theorem children_cut (wf : tree.WellFormed) (found : tree.branch? parent = some old)
    (there : old.children[index]? = some child) :
    (tree.cut parent index child).children parent = (tree.children parent).eraseIdx index := by
  have wf' := (cut_turnover wf found there).wellFormed
  obtain ⟨mem, same⟩ := (branch?_eq_some_iff wf).mp found
  obtain ⟨top, htop, hold⟩ := List.mem_flatMap.mp mem
  let change (b : Branch) := b.withChildren (b.children.eraseIdx index)
  have changed : top.modify parent change ∈ (tree.cut parent index child).branches := by
    have here : top.modify parent change ∈ (tree.modifyBranch parent change).branches := by
      rw [branches_modifyBranch]
      exact List.mem_map_of_mem htop
    rcases List.mem_cons.mp here with isTop | stray
    · exact isTop ▸ List.mem_cons_self
    · exact List.mem_cons_of_mem _ (List.mem_cons_of_mem _ stray)
  have stays : old.modify parent change ∈ (top.modify parent change).preorder := by
    refine Branch.modify_mem_preorder_of (wf.branch_nodup htop) hold ?_
    intro owner howner isParent part hpart below
    have isOld := (branch?_eq_some_iff wf).mpr
      ⟨List.mem_flatMap.mpr ⟨top, htop, howner⟩, isParent⟩
    rw [found] at isOld
    cases isOld
    exact absurd below (notMem_preorder_child wf found hpart)
  rw [Branch.modify_of_id_eq same] at stays
  have cut : (tree.cut parent index child).branch? parent = some (change old) :=
    (branch?_eq_some_iff wf').mpr
      ⟨List.mem_flatMap.mpr ⟨_, changed, stays⟩, (Branch.id_withChildren _ _).trans same⟩
  rw [children_of_branch? cut, children_of_branch? found, Branch.children_withChildren,
    List.eraseIdx_map]

/-- A tree without one of its children is not alike. -/
theorem not_alike_cut (wf : tree.WellFormed) (found : tree.branch? parent = some old)
    (there : old.children[index]? = some child) : ¬tree.Alike (tree.cut parent index child) := by
  intro alike
  have shorter := children_cut wf found there
  obtain ⟨inside, -⟩ := List.getElem?_eq_some_iff.mp there
  have length := congrArg List.length shorter
  rw [alike.children, List.length_eraseIdx, children_of_branch? found, List.length_map,
    if_pos inside] at length
  omega

end FilterTree

namespace Edit

open FilterTree (Alike IsFull rootId)

variable {tree : FilterTree}

/-- An edit that is refused at once under a condition, and whose failures leave another tree behind
where it is not. -/
structure Refused {α : Type} (edit : Edit α) (tree : FilterTree) (refused : Prop) : Prop where
  refuses : refused → ∃ fault, edit.apply tree = (.error fault, tree)
  halfway : ¬refused → ∀ fault next, edit.apply tree = (.error fault, next) → ¬tree.Alike next

/-- An edit that fails leaves the tree as it was exactly if it was refused at once. -/
theorem Refused.alike_iff {α : Type} {edit : Edit α} {refused : Prop} {fault : EditError}
    {next : FilterTree} (h : edit.Refused tree refused)
    (failed : edit.apply tree = (.error fault, next)) : tree.Alike next ↔ refused := by
  refine ⟨fun alike => ?_, fun condition => ?_⟩
  · by_contra allowed
    exact h.halfway allowed fault next failed alike
  · obtain ⟨_, run⟩ := h.refuses condition
    rw [failed] at run
    cases run
    exact .refl tree

variable {parent : NodeId} {index : Nat} {node : Node} {old child : Branch}

/-- A new node is refused below a node that is unknown or full, or out of the range of its
children. Nothing else keeps it out. -/
theorem refused_insertChild (tree : FilterTree) (parent : NodeId) (index : Nat) (node : Node) :
    (insertChild parent index node).Refused tree
      (node.kind = .root ∨ tree.isLive parent = false ∨ tree.IsFull parent ∨
        (tree.children parent).length < index) where
  refuses refused := by
    rcases insertChild_cases tree parent index node with failed | ⟨old, found, room, nested, inside⟩
    · exact failed
    · rw [FilterTree.isLive, FilterTree.isFull_iff found, FilterTree.children_of_branch? found,
        found, List.length_map] at refused
      rcases refused with root | dead | full | outside
      · exact absurd root nested
      · cases dead
      · exact absurd room full
      · omega
  halfway allowed fault next failed := by
    simp only [not_or, Bool.not_eq_false, Nat.not_lt] at allowed
    obtain ⟨nested, live, notFull, inside⟩ := allowed
    obtain ⟨old, found⟩ := FilterTree.exists_branch?_of_isLive live
    rw [FilterTree.isFull_iff found, not_not] at notFull
    rw [FilterTree.children_of_branch? found, List.length_map] at inside
    rw [apply_insertChild found notFull nested inside] at failed
    cases failed

/-- What taking a child out leads to, once it is there. -/
theorem apply_removeChild (found : tree.branch? parent = some old)
    (there : old.children[index]? = some child) : (removeChild parent index).apply tree =
      match FilterTree.ofBranch child with
      | .ok removed => (.ok removed, (tree.cut parent index child).release child)
      | .error fault => (.error fault, tree.cut parent index child) := by
  rw [removeChild, apply_bind_ok (apply_branch_ok found), there]
  cases copy : FilterTree.ofBranch child <;>
  · simp only [copy]
    rfl

theorem exists_child (allowed : ¬(tree.isLive parent = false ∨
    (tree.children parent).length ≤ index)) :
    ∃ old child, tree.branch? parent = some old ∧ old.children[index]? = some child := by
  simp only [not_or, Bool.not_eq_false, Nat.not_le] at allowed
  obtain ⟨live, inside⟩ := allowed
  obtain ⟨old, found⟩ := FilterTree.exists_branch?_of_isLive live
  rw [FilterTree.children_of_branch? found, List.length_map] at inside
  exact ⟨old, _, found, List.getElem?_eq_getElem inside⟩

/-- A child is taken out, or at least cut off, unless there is none at the place. -/
theorem refused_removeChild (wf : tree.WellFormed) (parent : NodeId) (index : Nat) :
    (removeChild parent index).Refused tree
      (tree.isLive parent = false ∨ (tree.children parent).length ≤ index) where
  refuses refused := by
    rcases removeChild_cases tree parent index with failed | ⟨old, child, found, there, -⟩
    · exact failed
    · rw [FilterTree.isLive, FilterTree.children_of_branch? found, found, List.length_map] at refused
      obtain ⟨inside, -⟩ := List.getElem?_eq_some_iff.mp there
      rcases refused with dead | outside
      · cases dead
      · omega
  halfway allowed fault next failed := by
    obtain ⟨old, child, found, there⟩ := exists_child allowed
    rw [apply_removeChild found there] at failed
    split at failed
    · cases failed
    · cases failed
      exact FilterTree.not_alike_cut wf found there

/-- A child that is taken out is no node of the tree any more. -/
theorem not_alike_release (wf : tree.WellFormed) (found : tree.branch? parent = some old)
    (there : old.children[index]? = some child) :
    ¬tree.Alike ((tree.cut parent index child).release child) := by
  have cut := FilterTree.cut_turnover wf found there
  have gone := cut.trans (FilterTree.release_turnover cut.wellFormed child rfl)
  rw [List.nil_append] at gone
  have isChild := FilterTree.branch?_child wf found (List.mem_of_getElem? there)
  have known := FilterTree.mem_ids_of_branch? wf isChild
  obtain ⟨there, -⟩ := (FilterTree.branch?_eq_some_iff wf).mp isChild
  obtain ⟨top, htop, inside⟩ := List.mem_flatMap.mp there
  have distinct := Branch.ids_nodup_of_mem_preorder (wf.branch_nodup htop) inside
  have once := wf.countAt_le_one (FilterTree.ids_subset_of_branch? wf isChild) distinct
    child.id.index
  exact FilterTree.not_alike_of_gone wf gone.wellFormed known
    (gone.stale wf known child.id_mem_ids (by omega))

/-- A new node takes the place of a child, or the child is at least cut off or removed, unless there
is none at the place. -/
theorem refused_replaceChild (wf : tree.WellFormed) (parent : NodeId) (index : Nat) (node : Node) :
    (replaceChild parent index node).Refused tree
      (node.kind = .root ∨ tree.isLive parent = false ∨
        (tree.children parent).length ≤ index) where
  refuses refused := by
    by_cases root : node.kind = .root
    · rw [replaceChild, if_pos root]
      exact ⟨_, rfl⟩
    · obtain ⟨fault, run⟩ :=
        (refused_removeChild wf parent index).refuses (refused.resolve_left root)
      rw [apply_replaceChild tree parent index root, run]
      exact ⟨fault, rfl⟩
  halfway allowed fault next failed := by
    obtain ⟨nested, allowed⟩ := not_or.mp allowed
    obtain ⟨old, child, found, there⟩ := exists_child allowed
    rw [apply_replaceChild tree parent index nested, apply_removeChild found there] at failed
    cases copy : FilterTree.ofBranch child with
    | error fault =>
      simp only [copy] at failed
      cases failed
      exact FilterTree.not_alike_cut wf found there
    | ok removed =>
      simp only [copy] at failed
      -- what fails now is the insertion, which leaves the tree without the child as it is
      rcases insertChild_cases ((tree.cut parent index child).release child) parent index node with
        ⟨_, run⟩ | ⟨_, found', room, nested, inside⟩
      · rw [run] at failed
        cases failed
        exact not_alike_release wf found there
      · rw [apply_insertChild found' room nested inside] at failed
        cases failed

/-- A tree is copied, or at least its top, below a node that has room for it. -/
theorem refused_graft (wf : tree.WellFormed) (parent : NodeId) (other : FilterTree) :
    (graft parent other).Refused tree
      (other.top.node.kind = .root ∨ tree.isLive parent = false ∨ tree.IsFull parent) := by
  rw [graft]
  generalize other.top = branch
  obtain ⟨id, node, negated, children⟩ := branch
  rw [graftBranch]
  constructor
  · intro refused
    rcases addChild_cases tree parent node with ⟨fault, failed⟩ | ⟨old, found, room, nested⟩
    · rw [apply_bind_error failed]
      exact ⟨fault, rfl⟩
    · rw [FilterTree.isLive, FilterTree.isFull_iff found, found] at refused
      rcases refused with root | dead | full
      · exact absurd root nested
      · cases dead
      · exact absurd room full
  · intro allowed fault next failed
    simp only [not_or, Bool.not_eq_false] at allowed
    obtain ⟨nested, live, notFull⟩ := allowed
    obtain ⟨old, found⟩ := FilterTree.exists_branch?_of_isLive live
    rw [FilterTree.isFull_iff found, not_not] at notFull
    have nested : node.kind ≠ .root := nested
    obtain ⟨new, grown, run, growth⟩ := addChild_grown wf found notFull nested
    have brought := brings_addChild parent node tree new wf
    rw [run] at brought
    obtain ⟨there, isNew⟩ := brought rfl
    have keeps : (do copyFlag new negated; graftAll new children; return new : Edit NodeId).Within
        Keeps :=
      stepwise_keeps.bind (copyFlag_keeps new negated) fun _ =>
        stepwise_keeps.bind (stepwise_keeps.graftAll fun b _ => graftBranch_keeps new b) fun _ =>
          stepwise_keeps.pure new
    have kept := keeps grown growth.wellFormed
    rw [apply_bind_ok run] at failed
    rw [failed] at kept
    exact FilterTree.not_alike_of_came wf kept.wellFormed isNew
      (kept.kept new there List.not_mem_nil)

/-- What is refused at once of the edits of the children of a node, in every tree that a caller can
make with whatever payloads. Only these failures leave the tree as it was. -/
theorem refused_of_reachable (reached : tree.Reachable fun _ _ => True) (parent : NodeId)
    (index : Nat) (node : Node) (other : FilterTree) :
    (insertChild parent index node).Refused tree
        (node.kind = .root ∨ tree.isLive parent = false ∨ tree.IsFull parent ∨
          (tree.children parent).length < index) ∧
      (removeChild parent index).Refused tree
        (tree.isLive parent = false ∨ (tree.children parent).length ≤ index) ∧
      (replaceChild parent index node).Refused tree
        (node.kind = .root ∨ tree.isLive parent = false ∨
          (tree.children parent).length ≤ index) ∧
      (graft parent other).Refused tree
        (other.top.node.kind = .root ∨ tree.isLive parent = false ∨ tree.IsFull parent) :=
  ⟨refused_insertChild tree parent index node, refused_removeChild reached.wellFormed parent index,
    refused_replaceChild reached.wellFormed parent index node,
    refused_graft reached.wellFormed parent other⟩

/-- A gate that was written over a node with two children is no tree of its own. Taking it out fails
when the root has already lost it, and it stays in the tree without being below another node. -/
theorem refused_of_reachable_gate :
    let gate : Call := .setNode ⟨1, 0⟩ (.traceTypeGate "ust")
    let calls : List Call := [.add rootId .and, .add ⟨1, 0⟩ .or, .add ⟨1, 0⟩ .and, gate]
    let tree := FilterTree.empty.afterAll calls
    tree.Reachable (fun _ _ => True) ∧ tree.children rootId = [⟨1, 0⟩] ∧
      ∃ next, (removeChild rootId 0).apply tree =
          (.error (.tooManyChildren .traceTypeGate 1), next) ∧
        next.children rootId = [] ∧ next.isLive ⟨1, 0⟩ = true ∧ ¬tree.Alike next := by
  intro gate calls tree
  have one : (FilterTree.empty.afterAll (calls.take 1)).Reachable fun _ _ => True :=
    .call (.withTop .root) nofun trivial
  have two : (FilterTree.empty.afterAll (calls.take 2)).Reachable fun _ _ => True :=
    .call one nofun trivial
  have three : (FilterTree.empty.afterAll (calls.take 3)).Reachable fun _ _ => True :=
    .call two nofun trivial
  have reached : tree.Reachable fun _ _ => True := .call three nofun fun _ _ => trivial
  have failed : ((removeChild rootId 0).apply tree).1 =
      .error (.tooManyChildren .traceTypeGate 1) := by rfl
  have children : tree.children rootId = [⟨1, 0⟩] := by decide +kernel
  refine ⟨reached, children, _, Prod.ext failed rfl, by decide +kernel, by decide +kernel, ?_⟩
  obtain ⟨-, removing, -, -⟩ := refused_of_reachable reached rootId 0 .and tree
  rw [removing.alike_iff (Prod.ext failed rfl), children]
  decide +kernel

end Edit

end EventSieve
