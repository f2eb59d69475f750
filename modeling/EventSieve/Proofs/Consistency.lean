import EventSieve.Proofs.Soundness
import Mathlib.Data.List.Pairwise
import Mathlib.Logic.Relation

/-!
# Consistent trees

What a caller sees of a tree fits together: parents and children agree, every node hangs below the
root in one way, the places are accounted for, and every node has the children and the flag that its
kind may have. The trees that a caller can make are consistent.

## Main definitions

* `FilterTree.IsChild` — one identity is of a child of another one
* `FilterTree.Consistent` — what a caller sees of a tree fits together

## Main statements

* `FilterTree.Sound.consistent` — sound trees are consistent
* `FilterTree.consistent_of_reachable` — the trees that a caller can make are consistent
-/
namespace EventSieve

open EventSieve.Tree (Node NodeKind NodeId Branch)

namespace Tree.Branch

/-! ## Children in a branch -/

variable {branch part child : Branch}

/-- A part of a branch is the branch itself, or a child of a part. -/
theorem mem_preorder_cases (h : part ∈ branch.preorder) :
    part = branch ∨ ∃ owner ∈ branch.preorder, part ∈ owner.children := by
  induction branch using Branch.induction with
  | mk id node negated children ih =>
    rw [preorder_mk, List.mem_cons] at h
    rcases h with rfl | h
    · exact .inl rfl
    · obtain ⟨top, htop, hpart⟩ := List.mem_flatMap.mp h
      rcases ih top htop hpart with rfl | ⟨owner, howner, mem⟩
      · exact .inr ⟨_, mem_preorder_self _, htop⟩
      · refine .inr ⟨owner, ?_, mem⟩
        exact mem_preorder_trans howner (mem_preorder_of_mem_children htop)

theorem ids_eq_cons (branch : Branch) : branch.ids = branch.id :: branch.children.flatMap ids := by
  obtain ⟨id, node, negated, children⟩ := branch
  exact ids_mk id node negated children

/-- The identities of all children are those of all nodes but the top. -/
theorem flatMap_children_perm (branch : Branch) :
    (branch.preorder.flatMap fun b => b.children.map (·.id)).Perm
      (branch.children.flatMap ids) := by
  induction branch using Branch.induction with
  | mk id node negated children ih =>
    have below : ((children.flatMap preorder).flatMap fun b => b.children.map (·.id)).Perm
        (children.flatMap fun child => child.children.flatMap ids) := by
      rw [List.flatMap_assoc]
      exact List.Perm.flatMap_left children ih
    have joined : (children.map (·.id) ++ children.flatMap fun child =>
        child.children.flatMap ids).Perm (children.flatMap ids) := by
      rw [List.flatMap_congr fun child _ => ids_eq_cons child]
      exact List.map_append_flatMap_perm children (·.id) _
    rw [preorder_mk, List.flatMap_cons]
    exact (below.append_left _).trans joined

theorem size_lt_of_mem_children (h : child ∈ branch.children) : child.size < branch.size := by
  obtain ⟨id, node, negated, children⟩ := branch
  have inside : child.size ≤ sizeAll children := by
    simp only [Branch.children] at h
    induction children with
    | nil => cases h
    | cons b rest ih =>
      rw [sizeAll]
      rcases List.mem_cons.mp h with rfl | h
      · omega
      · have := ih h
        omega
  rw [size]
  omega

end Tree.Branch

namespace FilterTree

/-- One identity is of a child of another one. -/
def IsChild (tree : FilterTree) (id child : NodeId) : Prop :=
  child ∈ tree.children id

/-- What a caller sees of a tree fits together. -/
structure Consistent (tree : FilterTree) : Prop where
  root_live : tree.isLive rootId = true
  root_parent : tree.parent? rootId = none
  child_live : ∀ id child, tree.IsChild id child → tree.isLive child = true
  child_parent : ∀ id child, tree.IsChild id child → tree.parent? child = some id
  /-- No identity is listed twice as a child, in one list or in two. -/
  child_once : ∀ id child, tree.IsChild id child →
    ((tree.descendants rootId).flatMap tree.children).count child = 1
  descendants_nodup : (tree.descendants rootId).Nodup
  mem_descendants : ∀ id, id ∈ tree.descendants rootId ↔ tree.isLive id = true
  reached : ∀ id, tree.isLive id = true → Relation.ReflTransGen tree.IsChild rootId id
  acyclic : ∀ id, ¬Relation.TransGen tree.IsChild id id
  /-- The nodes are the places that are not free, each with its present generation. -/
  isLive_iff : ∀ id, tree.isLive id = true ↔
    tree.generations[id.index]? = some id.generation ∧ id.index ∉ tree.free
  free_nodup : tree.free.Nodup
  mem_free : ∀ index, index ∈ tree.free ↔
    index < tree.generations.length ∧ ∀ id, tree.isLive id = true → id.index ≠ index
  room : ∀ id node, tree.node? id = some node →
    ∀ limit, node.kind.maxChildren? = some limit → (tree.children id).length ≤ limit
  nested : ∀ id node, tree.node? id = some node → node.kind = .root → id = rootId
  unflagged : ∀ id node, tree.node? id = some node →
    node.kind = .root ∨ node.kind = .namedFilter → tree.isNegated id = false

namespace Sound

variable {tree : FilterTree} (h : tree.Sound) {id child : NodeId} {branch : Branch}

include h

theorem ids_eq : tree.ids = tree.top.ids := by
  rw [ids, h.branches_eq, List.flatMap_singleton]

theorem branch?_rootId : tree.branch? rootId = some tree.top :=
  h.branch?_iff.mpr ⟨tree.top.mem_preorder_self, h.top_id⟩

theorem descendants_rootId : tree.descendants rootId = tree.ids := by
  rw [descendants_of_branch? h.branch?_rootId, h.ids_eq]

theorem isChild_iff : tree.IsChild id child ↔
    ∃ owner ∈ tree.top.preorder, owner.id = id ∧ ∃ b ∈ owner.children, b.id = child := by
  rw [IsChild, children]
  cases found : tree.branch? id with
  | none =>
    refine ⟨fun mem => by simp at mem, ?_⟩
    rintro ⟨owner, mem, same, -⟩
    rw [h.branch?_iff.mpr ⟨mem, same⟩] at found
    cases found
  | some branch =>
    obtain ⟨mem, same⟩ := h.branch?_iff.mp found
    simp only [Option.map_some, Option.getD_some, List.mem_map]
    refine ⟨fun below => ⟨branch, mem, same, below⟩, ?_⟩
    rintro ⟨owner, howner, same', below⟩
    rw [h.branch?_iff.mpr ⟨howner, same'⟩] at found
    cases found
    exact below

theorem children_of_mem {owner : Branch} (mem : owner ∈ tree.top.preorder) :
    tree.children owner.id = owner.children.map (·.id) := by
  rw [children, h.branch?_iff.mpr ⟨mem, rfl⟩]
  rfl

theorem childIds_eq : (tree.descendants rootId).flatMap tree.children =
    tree.top.preorder.flatMap fun b => b.children.map (·.id) := by
  rw [h.descendants_rootId, h.ids_eq, Branch.ids, List.flatMap_map]
  exact List.flatMap_congr fun owner mem => h.children_of_mem mem

/-- The children of all nodes are all nodes but the root. -/
theorem childIds_perm : ((tree.descendants rootId).flatMap tree.children).Perm
    (tree.top.children.flatMap Branch.ids) := by
  rw [h.childIds_eq]
  exact tree.top.flatMap_children_perm

theorem childIds_nodup : ((tree.descendants rootId).flatMap tree.children).Nodup ∧
    rootId ∉ (tree.descendants rootId).flatMap tree.children := by
  have distinct := h.wellFormed.ids_nodup
  rw [h.ids_eq, Branch.ids_eq_cons, h.top_id, List.nodup_cons] at distinct
  exact ⟨h.childIds_perm.nodup_iff.mpr distinct.2, fun mem =>
    distinct.1 (h.childIds_perm.mem_iff.mp mem)⟩

theorem mem_childIds (below : tree.IsChild id child) :
    child ∈ (tree.descendants rootId).flatMap tree.children := by
  obtain ⟨owner, mem, rfl, -⟩ := h.isChild_iff.mp below
  refine List.mem_flatMap.mpr ⟨owner.id, ?_, below⟩
  rw [h.descendants_rootId, h.ids_eq]
  exact List.mem_map_of_mem mem

/-- Two nodes that list the same child are the same node. -/
theorem owner_unique {one two : Branch} (hone : one ∈ tree.top.preorder)
    (htwo : two ∈ tree.top.preorder) (inOne : child ∈ one.children.map (·.id))
    (inTwo : child ∈ two.children.map (·.id)) : one = two := by
  have distinct := h.childIds_nodup.1
  rw [h.childIds_eq, List.nodup_flatMap] at distinct
  by_contra different
  have symm : Std.Symm (Function.onFun List.Disjoint fun b : Branch => b.children.map (·.id)) :=
    ⟨fun _ _ apart _ hone htwo => apart htwo hone⟩
  exact distinct.2.forall hone htwo different inOne inTwo

theorem parentOf?_eq (child : NodeId) :
    tree.branches.findSome? (·.parentOf? child) = tree.top.parentOf? child := by
  rw [h.branches_eq, List.findSome?_singleton]

/-- The parent of a child is the only node that lists it. -/
theorem parent?_of_isChild (below : tree.IsChild id child) : tree.parent? child = some id := by
  obtain ⟨owner, mem, rfl, b, hb, rfl⟩ := h.isChild_iff.mp below
  have lists : owner.children.any (·.id == b.id) = true :=
    List.any_eq_true.mpr ⟨b, hb, beq_self_eq_true b.id⟩
  rw [parent?, h.parentOf?_eq, Branch.parentOf?]
  cases found : tree.top.preorder.find? fun candidate =>
      candidate.children.any (·.id == b.id) with
  | none => exact absurd lists (List.find?_eq_none.mp found owner mem)
  | some other =>
    have listed : other.children.any (·.id == b.id) = true :=
      List.find?_some (p := fun candidate : Branch => candidate.children.any (·.id == b.id)) found
    obtain ⟨c, hc, same⟩ := List.any_eq_true.mp listed
    have inOther : b.id ∈ other.children.map (·.id) :=
      List.mem_map.mpr ⟨c, hc, beq_iff_eq.mp same⟩
    rw [h.owner_unique (List.mem_of_find?_eq_some found) mem inOther (List.mem_map_of_mem hb)]

theorem parent?_rootId : tree.parent? rootId = none := by
  have none : tree.top.parentOf? rootId = none := by
    rw [Branch.parentOf?, List.find?_eq_none]
    intro owner mem lists
    obtain ⟨b, hb, same⟩ := List.any_eq_true.mp lists
    have below : tree.IsChild owner.id rootId :=
      h.isChild_iff.mpr ⟨owner, mem, rfl, b, hb, beq_iff_eq.mp same⟩
    exact h.childIds_nodup.2 (h.mem_childIds below)
  rw [parent?, h.parentOf?_eq, none, h.whole]
  rfl

theorem isLive_of_isChild (below : tree.IsChild id child) : tree.isLive child = true := by
  rw [FilterTree.isLive_iff h.wellFormed, h.ids_eq, Branch.ids_eq_cons]
  exact List.mem_cons_of_mem _ (h.childIds_perm.mem_iff.mp (h.mem_childIds below))

theorem reached {part : Branch} (mem : part ∈ branch.preorder)
    (inside : branch ∈ tree.top.preorder) :
    Relation.ReflTransGen tree.IsChild branch.id part.id := by
  induction branch using Branch.induction with
  | mk id node negated children ih =>
    rw [Branch.preorder_mk, List.mem_cons] at mem
    rcases mem with rfl | mem
    · exact .refl
    · obtain ⟨b, hb, hpart⟩ := List.mem_flatMap.mp mem
      have step : tree.IsChild id b.id := h.isChild_iff.mpr ⟨_, inside, rfl, b, hb, rfl⟩
      have top : b ∈ (Branch.mk id node negated children).preorder :=
        Branch.mem_preorder_of_mem_children hb
      exact .head step (ih b hb hpart (Branch.mem_preorder_trans top inside))

/-- A child has fewer nodes at and below it than its parent. -/
theorem size_lt_of_isChild (below : tree.IsChild id child) :
    ((tree.branch? child).map Branch.size).getD 0 < ((tree.branch? id).map Branch.size).getD 0 := by
  obtain ⟨owner, mem, rfl, b, hb, rfl⟩ := h.isChild_iff.mp below
  have inside := Branch.mem_preorder_trans (Branch.mem_preorder_of_mem_children hb) mem
  rw [h.branch?_iff.mpr ⟨mem, rfl⟩, h.branch?_iff.mpr ⟨inside, rfl⟩]
  exact Branch.size_lt_of_mem_children hb

theorem acyclic (id : NodeId) : ¬Relation.TransGen tree.IsChild id id := by
  intro cycle
  have smaller {one two : NodeId} (path : Relation.TransGen tree.IsChild one two) :
      ((tree.branch? two).map Branch.size).getD 0 <
        ((tree.branch? one).map Branch.size).getD 0 := by
    induction path with
    | single step => exact h.size_lt_of_isChild step
    | tail path step ih => exact Nat.lt_trans (h.size_lt_of_isChild step) ih
  exact Nat.lt_irrefl _ (smaller cycle)

theorem node?_eq_some {node : Node} (found : tree.node? id = some node) :
    ∃ branch ∈ tree.top.preorder, branch.id = id ∧ branch.node = node ∧
      tree.children id = branch.children.map (·.id) ∧ tree.isNegated id = branch.negated := by
  obtain ⟨branch, there, rfl⟩ := Option.map_eq_some_iff.mp found
  obtain ⟨mem, rfl⟩ := h.branch?_iff.mp there
  refine ⟨branch, mem, rfl, rfl, h.children_of_mem mem, ?_⟩
  rw [isNegated, there]
  rfl

theorem free_iff (index : Nat) : index ∈ tree.free ↔
    index < tree.generations.length ∧ ∀ id, tree.isLive id = true → id.index ≠ index := by
  rw [h.wellFormed.mem_free]
  refine and_congr_right fun _ => ?_
  simp only [FilterTree.isLive_iff h.wellFormed, List.mem_map, not_exists, not_and, ne_eq]

theorem current_iff : tree.isLive id = true ↔
    tree.generations[id.index]? = some id.generation ∧ id.index ∉ tree.free := by
  rw [FilterTree.isLive_iff h.wellFormed]
  constructor
  · intro known
    refine ⟨h.wellFormed.current id known, fun unused => ?_⟩
    exact ((h.wellFormed.mem_free _).mp unused).2 (List.mem_map_of_mem known)
  · exact fun ⟨current, used⟩ => h.wellFormed.mem_ids_of_current current used

/-- Sound trees are consistent. -/
theorem consistent : tree.Consistent where
  root_live := by
    rw [FilterTree.isLive_iff h.wellFormed, h.ids_eq, ← h.top_id]
    exact tree.top.id_mem_ids
  root_parent := h.parent?_rootId
  child_live _ _ := h.isLive_of_isChild
  child_parent _ _ := h.parent?_of_isChild
  child_once _ _ below := List.count_eq_one_of_mem h.childIds_nodup.1 (h.mem_childIds below)
  descendants_nodup := by
    rw [h.descendants_rootId]
    exact h.wellFormed.ids_nodup
  mem_descendants id := by rw [h.descendants_rootId, FilterTree.isLive_iff h.wellFormed]
  reached id live := by
    rw [FilterTree.isLive_iff h.wellFormed, h.ids_eq] at live
    obtain ⟨part, mem, rfl⟩ := List.mem_map.mp live
    have path := h.reached mem tree.top.mem_preorder_self
    rwa [h.top_id] at path
  acyclic := h.acyclic
  isLive_iff _ := h.current_iff
  free_nodup := h.wellFormed.free_nodup
  mem_free := h.free_iff
  room id node found limit hmax := by
    obtain ⟨branch, mem, rfl, rfl, children, -⟩ := h.node?_eq_some found
    rw [children, List.length_map]
    exact (h.parts branch mem).room limit hmax
  nested id node found root := by
    obtain ⟨branch, mem, rfl, rfl, -, -⟩ := h.node?_eq_some found
    rcases Branch.mem_preorder_cases mem with rfl | ⟨owner, howner, below⟩
    · exact h.top_id
    · exact absurd root ((h.parts owner howner).nested branch below)
  unflagged id node found kind := by
    obtain ⟨branch, mem, rfl, rfl, -, negated⟩ := h.node?_eq_some found
    rw [negated, ← Bool.not_eq_true]
    intro flag
    have able := (h.parts branch mem).flag flag
    rcases kind with same | same <;> rw [same] at able <;> cases able

end Sound

/-- The trees that a caller can make are consistent, if payloads keep the kinds of nodes. -/
theorem consistent_of_reachable {tree : FilterTree} (h : tree.Reachable Eq) : tree.Consistent :=
  h.sound.consistent

end FilterTree

end EventSieve
