import EventSieve.Proofs.Branches
import EventSieve.Tree.Edit

/-!
# Growth of filter trees

A tree is well formed if its places are used once and are accounted for. Adding a node to such a
tree grows it: one node adopts new branches, everything else stays, and the tree is well formed
again.

## Main definitions

* `FilterTree.ids` — the identities of all nodes of a tree
* `FilterTree.WellFormed` — places are used once, and are either used or free
* `FilterTree.Grown` — a tree after one of its nodes has adopted branches

## Main statements

* `Edit.addChild_grown` — a node is added where there is room for it
* `FilterTree.Grown.trans`, `FilterTree.Grown.below` — growth at one node, and at a node that has
  just been added
-/
namespace EventSieve

open EventSieve.Tree (Node NodeKind NodeId Branch)

/-! ## Running edits -/

namespace Edit

variable {α β : Type} {tree next : FilterTree}

@[simp] theorem apply_pure (value : α) (tree : FilterTree) :
    (pure value : Edit α).apply tree = (.ok value, tree) := rfl

/-- An edit that succeeds hands its value and its tree on; one that fails ends the run. -/
theorem apply_bind (edit : Edit α) (continuation : α → Edit β) (tree : FilterTree) :
    (edit >>= continuation).apply tree =
      match edit.apply tree with
      | (.ok value, next) => (continuation value).apply next
      | (.error fault, next) => (.error fault, next) := by
  simp only [apply, ExceptT.run, StateT.run, bind, ExceptT.bind, ExceptT.mk, StateT.bind,
    ExceptT.bindCont]
  cases edit tree with
  | mk result next => cases result <;> rfl

theorem apply_bind_ok {edit : Edit α} {value : α} (h : edit.apply tree = (.ok value, next))
    (continuation : α → Edit β) :
    (edit >>= continuation).apply tree = (continuation value).apply next := by
  rw [apply_bind, h]

theorem apply_get (tree : FilterTree) :
    (get : Edit FilterTree).apply tree = (.ok tree, tree) := rfl

theorem apply_modify (change : FilterTree → FilterTree) (tree : FilterTree) :
    (modify change : Edit Unit).apply tree = (.ok (), change tree) := rfl

theorem apply_discard_ok {edit : Edit α} {value : α} (h : edit.apply tree = (.ok value, next)) :
    (discard edit).apply tree = (.ok (), next) := by
  have eq : discard edit = edit >>= fun _ => pure () := rfl
  rw [eq, apply_bind_ok h, apply_pure]

/-- The branch of an identity is looked up without a change. -/
theorem apply_branch_ok {id : NodeId} {found : Branch} (h : tree.branch? id = some found) :
    (branch id).apply tree = (.ok found, tree) := by
  rw [branch, apply_bind_ok (apply_get tree), h]
  rfl

end Edit

namespace FilterTree

/-! ## Well-formed trees -/

/-- The identities of all nodes of a tree. -/
def ids (tree : FilterTree) : List NodeId :=
  tree.branches.flatMap Branch.ids

/-- Every place is used once at most, a place in use has the generation of its node, and the
places not in use are free. -/
structure WellFormed (tree : FilterTree) : Prop where
  distinct : (tree.ids.map NodeId.index).Nodup
  current : ∀ id ∈ tree.ids, tree.generations[id.index]? = some id.generation
  free_nodup : tree.free.Nodup
  mem_free : ∀ index, index ∈ tree.free ↔
    index < tree.generations.length ∧ index ∉ tree.ids.map NodeId.index

theorem branches_modifyBranch (tree : FilterTree) (id : NodeId) (change : Branch → Branch) :
    (tree.modifyBranch id change).branches = tree.branches.map (·.modify id change) := by
  simp only [branches, modifyBranch, List.map_map, List.map_cons]
  rfl

namespace WellFormed

variable {tree : FilterTree}

theorem ids_nodup (h : tree.WellFormed) : tree.ids.Nodup :=
  h.distinct.of_map _

theorem branch_nodup (h : tree.WellFormed) {branch : Branch} (hb : branch ∈ tree.branches) :
    branch.ids.Nodup :=
  (List.nodup_flatMap.mp h.ids_nodup).1 branch hb

/-- A change that keeps all identities keeps a tree well formed. -/
theorem modifyBranch (h : tree.WellFormed) (id : NodeId) {change : Branch → Branch}
    (keeps : ∀ b, (change b).ids = b.ids) : (tree.modifyBranch id change).WellFormed := by
  have same : (tree.modifyBranch id change).ids = tree.ids := by
    rw [ids, branches_modifyBranch, List.flatMap_map, ids]
    exact List.flatMap_congr fun b _ => Branch.ids_modify keeps b
  exact ⟨by rw [same]; exact h.distinct, by rw [same]; exact h.current, h.free_nodup,
    by rw [same]; exact h.mem_free⟩

end WellFormed

theorem wellFormed_withTop (node : Node) : (withTop node).WellFormed where
  distinct := by simp [ids, branches, withTop, Branch.ids_mk]
  current := by simp [ids, branches, withTop, Branch.ids_mk, rootId]
  free_nodup := List.nodup_nil
  mem_free := by simp [ids, branches, withTop, Branch.ids_mk, rootId]

section Lookup

variable {tree : FilterTree} {id : NodeId} {branch : Branch}

theorem children_of_branch? (found : tree.branch? id = some branch) :
    tree.children id = branch.children.map (·.id) := by
  rw [children, found]
  rfl

theorem node?_of_branch? (found : tree.branch? id = some branch) :
    tree.node? id = some branch.node := by
  rw [node?, found]
  rfl

theorem isNegated_of_branch? (found : tree.branch? id = some branch) :
    tree.isNegated id = branch.negated := by
  rw [isNegated, found]
  rfl

theorem acceptsFrom_of_branch? (found : tree.branch? id = some branch) (event : Event) :
    tree.acceptsFrom id event = branch.accepts event := by
  rw [acceptsFrom, found]
  rfl

end Lookup

/-- The branch of an identity is the one below the top, or a stray, that has it. -/
theorem branch?_eq_some_iff {tree : FilterTree} (h : tree.WellFormed) {id : NodeId}
    {branch : Branch} :
    tree.branch? id = some branch ↔
      branch ∈ tree.branches.flatMap Branch.preorder ∧ branch.id = id := by
  have lookup : tree.branch? id =
      (tree.branches.flatMap Branch.preorder).find? (·.id == id) := by
    rw [List.find?_flatMap]
    rfl
  have distinct : ((tree.branches.flatMap Branch.preorder).map (·.id)).Nodup := by
    rw [List.map_flatMap]
    exact h.ids_nodup
  rw [lookup]
  exact find?_key_eq_some_iff distinct

theorem mem_ids_of_branch? {tree : FilterTree} (h : tree.WellFormed) {id : NodeId}
    {branch : Branch} (found : tree.branch? id = some branch) : id ∈ tree.ids := by
  obtain ⟨hmem, rfl⟩ := (branch?_eq_some_iff h).mp found
  obtain ⟨top, htop, hbranch⟩ := List.mem_flatMap.mp hmem
  exact List.mem_flatMap.mpr ⟨top, htop, List.mem_map.mpr ⟨branch, hbranch, rfl⟩⟩

/-- Changes that agree on the branch of an identity are the same change there. -/
theorem modifyBranch_congr {tree next : FilterTree} (h : tree.WellFormed)
    (branches : next.branches = tree.branches) {id : NodeId} {found : Branch}
    (known : tree.branch? id = some found) {change other : Branch → Branch}
    (agree : change found = other found) :
    next.modifyBranch id change = next.modifyBranch id other := by
  have same {b : Branch} (hb : b ∈ next.branches) : b.modify id change = b.modify id other := by
    refine Branch.modify_congr fun c hc hid => ?_
    rw [branches] at hb
    have unique := (branch?_eq_some_iff h).mpr ⟨List.mem_flatMap.mpr ⟨b, hb, hc⟩, hid⟩
    rw [known] at unique
    cases unique
    exact agree
  rw [modifyBranch, modifyBranch, same List.mem_cons_self]
  congr 1
  exact List.map_congr_left fun stray hstray => congrArg (Prod.mk _) <|
    same (List.mem_cons_of_mem _ (List.mem_map_of_mem hstray))

/-! ## Allocation -/

theorem allocate_cons {tree : FilterTree} {index : Nat} {rest : List Nat}
    (h : tree.free = index :: rest) :
    tree.allocate = (⟨index, tree.generations.getD index 0⟩, { tree with free := rest }) := by
  rw [allocate, h]

theorem allocate_nil {tree : FilterTree} (h : tree.free = []) :
    tree.allocate =
      (⟨tree.generations.length, 0⟩, { tree with generations := tree.generations ++ [0] }) := by
  rw [allocate, h]

/-- A new identity changes no branch. -/
theorem allocate_parts (tree : FilterTree) :
    tree.allocate.2.top = tree.top ∧ tree.allocate.2.strays = tree.strays := by
  unfold allocate
  cases tree.free <;> exact ⟨rfl, rfl⟩

theorem allocate_branches (tree : FilterTree) : tree.allocate.2.branches = tree.branches := by
  rw [branches, tree.allocate_parts.1, tree.allocate_parts.2, branches]

/-- The place of a new identity is not in use. -/
theorem allocate_fresh {tree : FilterTree} (h : tree.WellFormed) :
    tree.allocate.1.index ∉ tree.ids.map NodeId.index := by
  cases hfree : tree.free with
  | nil =>
    rw [allocate_nil hfree]
    intro hmem
    obtain ⟨id, hid, same⟩ := List.mem_map.mp hmem
    have known := h.current id hid
    rw [List.getElem?_eq_none (Nat.le_of_eq same.symm)] at known
    cases known
  | cons index rest =>
    rw [allocate_cons hfree]
    exact ((h.mem_free index).mp (by rw [hfree]; exact List.mem_cons_self)).2

section Allocation

variable {tree grown : FilterTree} (h : tree.WellFormed)
  (perm : grown.ids.Perm (tree.ids ++ [tree.allocate.1]))

include perm

theorem index_perm_of_allocate : (grown.ids.map NodeId.index).Perm
    (tree.ids.map NodeId.index ++ [tree.allocate.1.index]) := by
  simpa using perm.map NodeId.index

include h

/-- The places of the old identities and of the new one are distinct. -/
theorem index_nodup_of_allocate : (grown.ids.map NodeId.index).Nodup := by
  refine (index_perm_of_allocate perm).nodup_iff.mpr
    (h.distinct.append (List.nodup_singleton _) ?_)
  intro index hold hnew
  rw [List.mem_singleton.mp hnew] at hold
  exact allocate_fresh h hold

/-- A tree that has the new identity beside the old ones is well formed again. -/
theorem WellFormed.of_allocate (generations : grown.generations = tree.allocate.2.generations)
    (free : grown.free = tree.allocate.2.free) : grown.WellFormed := by
  have distinct := index_nodup_of_allocate h perm
  have mem_used (index : Nat) : index ∈ grown.ids.map NodeId.index ↔
      index ∈ tree.ids.map NodeId.index ∨ index = tree.allocate.1.index := by
    rw [(index_perm_of_allocate perm).mem_iff, List.mem_append, List.mem_singleton]
  have mem_ids (id : NodeId) : id ∈ grown.ids ↔ id ∈ tree.ids ∨ id = tree.allocate.1 := by
    rw [perm.mem_iff, List.mem_append, List.mem_singleton]
  cases hfree : tree.free with
  | nil =>
    rw [allocate_nil hfree] at generations free mem_used mem_ids
    simp only at generations free mem_used mem_ids
    refine ⟨distinct, fun id hid => ?_, by rw [free, hfree]; exact List.nodup_nil, fun index => ?_⟩
    · rw [generations]
      rcases (mem_ids id).mp hid with hold | rfl
      · obtain ⟨inside, -⟩ := List.getElem?_eq_some_iff.mp (h.current id hold)
        rw [List.getElem?_append_left inside, h.current id hold]
      · simp
    · have none := h.mem_free index
      rw [hfree] at none
      rw [free, hfree, mem_used, generations, List.length_append, List.length_singleton]
      refine ⟨fun hmem => absurd hmem List.not_mem_nil, ?_⟩
      rintro ⟨below, unused⟩
      rw [not_or] at unused
      exact none.mpr ⟨by omega, unused.1⟩
  | cons index rest =>
    rw [allocate_cons hfree] at generations free mem_used mem_ids
    simp only at generations free mem_used mem_ids
    have nodup := h.free_nodup
    rw [hfree, List.nodup_cons] at nodup
    obtain ⟨inside, -⟩ := (h.mem_free index).mp (by rw [hfree]; exact List.mem_cons_self)
    refine ⟨distinct, fun id hid => ?_, by rw [free]; exact nodup.2, fun other => ?_⟩
    · rw [generations]
      rcases (mem_ids id).mp hid with hold | rfl
      · exact h.current id hold
      · rw [List.getD_eq_getElem?_getD, List.getElem?_eq_getElem inside, Option.getD_some]
    · have before := h.mem_free other
      rw [hfree, List.mem_cons] at before
      rw [free, mem_used, generations]
      constructor
      · intro hother
        have known := before.mp (.inr hother)
        refine ⟨known.1, not_or.mpr ⟨known.2, ?_⟩⟩
        rintro rfl
        exact nodup.1 hother
      · rintro ⟨below, unused⟩
        rw [not_or] at unused
        exact (before.mpr ⟨below, unused.1⟩).resolve_left unused.2

end Allocation

/-! ## Growth -/

/-- The second tree is the first one in which a node has adopted branches, well formed again. -/
structure Grown (tree : FilterTree) (parent : NodeId) (new : List Branch)
    (grown : FilterTree) : Prop where
  top : grown.top = tree.top.modify parent (.adopt new)
  strays : grown.strays =
    tree.strays.map fun (owner, branch) => (owner, branch.modify parent (.adopt new))
  wellFormed : grown.WellFormed

namespace Grown

variable {tree grown last : FilterTree} {parent : NodeId} {new more : List Branch}
  {branch part adopted : Branch}

theorem refl (h : tree.WellFormed) (parent : NodeId) : Grown tree parent [] tree := by
  have same (b : Branch) : b.modify parent (.adopt []) = b := by
    induction b using Branch.induction with
    | mk id node negated children ih =>
      by_cases here : id = parent
      · subst here
        rw [Branch.modify_mk_self, Branch.adopt_nil]
      · rw [Branch.modify_mk_of_ne here, List.map_congr_left ih, List.map_id']
  refine ⟨(same _).symm, ?_, h⟩
  simp only [same, List.map_id']

theorem branches (h : Grown tree parent new grown) :
    grown.branches = tree.branches.map (·.modify parent (.adopt new)) := by
  rw [FilterTree.branches, h.top, h.strays, List.map_map, FilterTree.branches, List.map_cons,
    List.map_map]
  rfl

theorem ids_perm (h : Grown tree parent new grown) (wf : tree.WellFormed)
    (known : parent ∈ tree.ids) :
    grown.ids.Perm (tree.ids ++ new.flatMap Branch.ids) := by
  rw [ids, h.branches]
  exact Branch.flatMap_ids_modify_perm (fun _ _ distinct mem => Branch.ids_modify_perm distinct mem)
    wf.ids_nodup known

/-- The identities of what is adopted are new. -/
theorem fresh (h : Grown tree parent new grown) (wf : tree.WellFormed)
    (known : parent ∈ tree.ids) {id : NodeId} (hid : id ∈ new.flatMap Branch.ids) :
    id ∉ tree.ids := by
  intro old
  have distinct := (h.ids_perm wf known).nodup_iff.mp h.wellFormed.ids_nodup
  exact (List.nodup_append.mp distinct).2.2 id old id hid rfl

/-- What stands in a branch of the tree after the adoption is found under its identity. -/
theorem branch?_of_mem (h : Grown tree parent new grown) {top : Branch}
    (htop : top ∈ tree.branches) (hpart : part ∈ (top.modify parent (.adopt new)).preorder) :
    grown.branch? part.id = some part := by
  have still : top.modify parent (.adopt new) ∈ grown.branches := by
    rw [h.branches]
    exact List.mem_map_of_mem htop
  exact (branch?_eq_some_iff h.wellFormed).mpr ⟨List.mem_flatMap.mpr ⟨_, still, hpart⟩, rfl⟩

/-- A node of the tree is still there, with the adoption made to it. -/
theorem branch?_old (h : Grown tree parent new grown) (wf : tree.WellFormed) {id : NodeId}
    (found : tree.branch? id = some branch) :
    grown.branch? id = some (branch.modify parent (.adopt new)) := by
  obtain ⟨hmem, rfl⟩ := (branch?_eq_some_iff wf).mp found
  obtain ⟨top, htop, hbranch⟩ := List.mem_flatMap.mp hmem
  have there := h.branch?_of_mem htop
    (Branch.modify_mem_preorder (wf.branch_nodup htop) hbranch)
  rwa [Branch.id_modify (Branch.id_adopt new)] at there

theorem branch?_parent (h : Grown tree parent new grown) (wf : tree.WellFormed)
    (found : tree.branch? parent = some branch) :
    grown.branch? parent = some (branch.adopt new) := by
  rw [h.branch?_old wf found, Branch.modify_of_id_eq ((branch?_eq_some_iff wf).mp found).2]

/-- What is adopted is found under its identities. -/
theorem branch?_new (h : Grown tree parent new grown) (known : parent ∈ tree.ids)
    (hadopted : adopted ∈ new) (hpart : part ∈ adopted.preorder) :
    grown.branch? part.id = some part := by
  obtain ⟨top, htop, mem⟩ := List.mem_flatMap.mp known
  exact h.branch?_of_mem htop (Branch.adopted_mem_preorder mem hadopted hpart)

/-- Growth at one node, and then again. -/
theorem trans (h : Grown tree parent new grown) (next : Grown grown parent more last) :
    Grown tree parent (new ++ more) last := by
  have twice (b : Branch) : (b.modify parent (.adopt new)).modify parent (.adopt more) =
      b.modify parent (.adopt (new ++ more)) := by
    rw [Branch.modify_modify (Branch.id_adopt new)]
    exact congrArg (b.modify parent) (funext fun c => Branch.adopt_adopt new more c)
  refine ⟨?_, ?_, next.wellFormed⟩
  · rw [next.top, h.top, twice]
  · rw [next.strays, h.strays, List.map_map]
    exact List.map_congr_left fun _ _ => congrArg (Prod.mk _) (twice _)

/-- A change at a branch that has just been added. -/
theorem change (h : Grown tree parent [adopted] grown) (wf : tree.WellFormed)
    (known : parent ∈ tree.ids) {change : Branch → Branch}
    (top : last.top = grown.top.modify adopted.id change)
    (strays : last.strays =
      grown.strays.map fun (owner, branch) => (owner, branch.modify adopted.id change))
    (wellFormed : last.WellFormed) : Grown tree parent [change adopted] last := by
  have isNew : adopted.id ∉ tree.ids := h.fresh wf known (by simpa using adopted.id_mem_ids)
  have apart {b : Branch} (hb : b ∈ tree.branches) : adopted.id ∉ b.ids := fun hmem =>
    isNew (List.mem_flatMap.mpr ⟨b, hb, hmem⟩)
  refine ⟨?_, ?_, wellFormed⟩
  · rw [top, h.top, Branch.modify_modify_adopted (apart List.mem_cons_self)]
  · rw [strays, h.strays, List.map_map]
    refine List.map_congr_left fun stray hstray => congrArg (Prod.mk _) ?_
    refine Branch.modify_modify_adopted (apart (List.mem_cons_of_mem _ ?_)) change
    exact List.mem_map_of_mem hstray

/-- Growth at a node that has just been added. -/
theorem below (h : Grown tree parent [adopted] grown) (wf : tree.WellFormed)
    (known : parent ∈ tree.ids) (next : Grown grown adopted.id more last) :
    Grown tree parent [adopted.adopt more] last :=
  h.change wf known next.top next.strays next.wellFormed

end Grown

end FilterTree

/-! ## Adding nodes -/

/-- A node that may have one more child. -/
def Tree.Branch.HasRoom (branch : Branch) : Prop :=
  ∀ limit, branch.node.kind.maxChildren? = some limit → branch.children.length < limit

namespace Edit

open FilterTree (Grown)

variable {tree : FilterTree} {parent : NodeId} {old : Branch} {node : Node}

/-- A node is added at a place among the children of another one. -/
theorem apply_insertChild {index : Nat} (found : tree.branch? parent = some old)
    (room : old.HasRoom) (nested : node.kind ≠ .root) (inside : index ≤ old.children.length) :
    (insertChild parent index node).apply tree =
      (.ok tree.allocate.1, tree.allocate.2.modifyBranch parent fun b =>
        b.withChildren (b.children.insertIdx index (.mk tree.allocate.1 node false []))) := by
  rw [insertChild, if_neg nested]
  show (branch parent >>= _).apply tree = _
  rw [apply_bind_ok (apply_branch_ok found)]
  cases hmax : old.node.kind.maxChildren? with
  | none =>
    simp only [if_neg (Nat.not_lt.mpr inside)]
    rfl
  | some limit =>
    simp only [if_neg (Nat.not_le.mpr (room limit hmax)), if_neg (Nat.not_lt.mpr inside)]
    rfl

/-- A node is added after the children of another one. -/
theorem apply_addChild (wf : tree.WellFormed) (found : tree.branch? parent = some old)
    (room : old.HasRoom) (nested : node.kind ≠ .root) :
    (addChild parent node).apply tree =
      (.ok tree.allocate.1,
        tree.allocate.2.modifyBranch parent (.adopt [.mk tree.allocate.1 node false []])) := by
  rw [addChild, apply_bind_ok (apply_branch_ok found),
    apply_insertChild found room nested (Nat.le_refl _)]
  rw [FilterTree.modifyBranch_congr wf tree.allocate_branches found]
  rw [List.insertIdx_length_self]
  rfl

/-- Adding a node grows the tree. -/
theorem addChild_grown (wf : tree.WellFormed) (found : tree.branch? parent = some old)
    (room : old.HasRoom) (nested : node.kind ≠ .root) :
    ∃ id grown, (addChild parent node).apply tree = (.ok id, grown) ∧
      Grown tree parent [.mk id node false []] grown := by
  refine ⟨_, _, apply_addChild wf found room nested, ?_⟩
  obtain ⟨top, strays⟩ := tree.allocate_parts
  refine ⟨?_, ?_, wf.of_allocate ?_ rfl rfl⟩
  · rw [FilterTree.modifyBranch, top]
  · rw [FilterTree.modifyBranch, strays]
  · rw [FilterTree.ids, FilterTree.branches_modifyBranch, FilterTree.allocate_branches]
    refine (Branch.flatMap_ids_modify_perm (fun _ _ => Branch.ids_modify_perm) wf.ids_nodup
      (FilterTree.mem_ids_of_branch? wf found)).trans ?_
    rw [List.flatMap_singleton, Branch.ids_mk]
    exact .rfl

/-- The flag of a node that has just been added is set, if nodes of its kind can have it. -/
theorem setNegated_grown {grown : FilterTree} {added : Branch} (wf : tree.WellFormed)
    (known : parent ∈ tree.ids) (h : Grown tree parent [added] grown)
    (able : added.node.kind.canNegate = true) (negated : Bool) :
    ∃ last, (setNegated added.id negated).apply grown = (.ok (), last) ∧
      Grown tree parent [added.withNegated negated] last := by
  have found : grown.branch? added.id = some added :=
    h.branch?_new known List.mem_cons_self (Branch.mem_preorder_self added)
  refine ⟨grown.modifyBranch added.id (·.withNegated negated), ?_, ?_⟩
  · rw [setNegated, apply_bind_ok (apply_branch_ok found), if_pos able, apply_modify]
  · exact h.change wf known rfl rfl
      (h.wellFormed.modifyBranch _ (Branch.ids_withNegated negated))

end Edit
end EventSieve
