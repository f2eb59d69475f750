import EventSieve.Proofs.Consistency

/-!
# What an edit leaves alone

An edit of the children of one node takes some branches away and brings others. Every node that is
neither below what it takes away nor brought by it is still there, with the same payload, the same
flag, the same parent, and, apart from the node whose children are edited, the same children.

## Main definitions

* `FilterTree.Edited` — a tree, the nodes that an edit of the children of one node takes away and
  brings, and the tree afterwards

## Main statements

* `FilterTree.Sound.branch?_kept` — what stays is found with the change made to it
* `FilterTree.Sound.edited` — a change of the children of one node leaves everything else alone
* `FilterTree.Sound.edited_insertIdx`, `FilterTree.Sound.edited_eraseIdx`,
  `FilterTree.Sound.edited_adopt` — the changes that edits make
-/
namespace EventSieve

open EventSieve.Tree (Node NodeKind NodeId Branch)

namespace FilterTree

/-- A tree after an edit of the children of one node. Some nodes are gone and others are new, and
every other node is as it was, apart from the children of the one. -/
structure Edited (tree : FilterTree) (parent : NodeId) (gone new children : List NodeId)
    (next : FilterTree) : Prop where
  parent_live : next.isLive parent = true
  children_parent : next.children parent = children
  fresh : ∀ id ∈ new, tree.isLive id = false
  live : ∀ id, next.isLive id = true ↔ tree.isLive id = true ∧ id ∉ gone ∨ id ∈ new
  node : ∀ id, tree.isLive id = true → id ∉ gone → next.node? id = tree.node? id
  flag : ∀ id, tree.isLive id = true → id ∉ gone → next.isNegated id = tree.isNegated id
  parents : ∀ id, tree.isLive id = true → id ∉ gone → next.parent? id = tree.parent? id
  others : ∀ id, tree.isLive id = true → id ∉ gone → id ≠ parent →
    next.children id = tree.children id

/-- Branches that go, and then nodes that come. -/
theorem Edited.trans {tree mid next : FilterTree} {parent : NodeId}
    {gone new before children : List NodeId} (h : Edited tree parent gone [] before mid)
    (later : Edited mid parent [] new children next)
    (fresh : ∀ id ∈ new, tree.isLive id = false) : Edited tree parent gone new children next where
  parent_live := later.parent_live
  children_parent := later.children_parent
  fresh := fresh
  live id := by
    rw [later.live, h.live]
    simp
  node id live kept := by
    rw [later.node id ((h.live id).mpr (.inl ⟨live, kept⟩)) List.not_mem_nil, h.node id live kept]
  flag id live kept := by
    rw [later.flag id ((h.live id).mpr (.inl ⟨live, kept⟩)) List.not_mem_nil, h.flag id live kept]
  parents id live kept := by
    rw [later.parents id ((h.live id).mpr (.inl ⟨live, kept⟩)) List.not_mem_nil,
      h.parents id live kept]
  others id live kept other := by
    rw [later.others id ((h.live id).mpr (.inl ⟨live, kept⟩)) List.not_mem_nil other,
      h.others id live kept other]

namespace Sound

variable {tree next : FilterTree} {id : NodeId}

/-! ## Parents -/

theorem top_nodup (h : tree.Sound) : tree.top.ids.Nodup := by
  rw [← h.ids_eq]
  exact h.wellFormed.ids_nodup

theorem isLive_iff_mem_top (h : tree.Sound) : tree.isLive id = true ↔ id ∈ tree.top.ids := by
  rw [FilterTree.isLive_iff h.wellFormed, h.ids_eq]

theorem nodup_descendants (h : tree.Sound) (id : NodeId) : (tree.descendants id).Nodup := by
  cases found : tree.branch? id with
  | none =>
    rw [descendants, found, Option.toList_none, walk]
    exact List.nodup_nil
  | some branch =>
    rw [descendants_of_branch? found]
    exact Branch.ids_nodup_of_mem_preorder h.top_nodup (h.branch?_iff.mp found).1

/-- Every node but the root is a child. -/
theorem exists_isChild (h : tree.Sound) (live : tree.isLive id = true) (other : id ≠ rootId) :
    ∃ owner, tree.IsChild owner id := by
  obtain ⟨part, mem, rfl⟩ := List.mem_map.mp (h.isLive_iff_mem_top.mp live)
  rcases Branch.mem_preorder_cases mem with rfl | ⟨owner, howner, below⟩
  · exact absurd h.top_id other
  · exact ⟨owner.id, h.isChild_iff.mpr ⟨owner, howner, rfl, part, below, rfl⟩⟩

/-- A node that is a child of the same nodes has the same parent. -/
theorem parent?_congr (h : tree.Sound) (h' : next.Sound) (live : tree.isLive id = true)
    (keeps : ∀ owner, tree.IsChild owner id → next.IsChild owner id) :
    next.parent? id = tree.parent? id := by
  by_cases root : id = rootId
  · rw [root, h.parent?_rootId, h'.parent?_rootId]
  · obtain ⟨owner, below⟩ := h.exists_isChild live root
    rw [h.parent?_of_isChild below, h'.parent?_of_isChild (keeps owner below)]

/-! ## A change of the children of one node -/

section
variable {parent : NodeId} {old : Branch} {change : Branch → Branch} {removed added : List Branch}
  (h : tree.Sound) (h' : next.Sound) (found : tree.branch? parent = some old)
  (top : next.top = tree.top.modify parent change)
  (keepsId : ∀ b, (change b).id = b.id)
  (inside : ∀ b ∈ removed, b ∈ old.children)
  (stays : ∀ b ∈ old.children, b ∉ removed → b ∈ (change old).children)

include h h' found top keepsId stays

/-- What is not below a branch that is taken away is found with the change made to it. -/
theorem branch?_kept {part : Branch} (there : tree.branch? id = some part)
    (kept : id ∉ removed.flatMap Branch.ids) :
    next.branch? id = some (part.modify parent change) := by
  obtain ⟨mem, rfl⟩ := h.branch?_iff.mp there
  refine h'.branch?_iff.mpr ⟨?_, Branch.id_modify keepsId part⟩
  rw [top]
  refine Branch.modify_mem_preorder_of h.top_nodup mem ?_
  intro owner howner same child hchild below
  have isOld := h.branch?_iff.mpr ⟨howner, same⟩
  rw [found] at isOld
  cases isOld
  refine stays child hchild fun gone => kept ?_
  exact List.mem_flatMap.mpr ⟨child, gone, List.mem_map_of_mem below⟩

theorem branch?_parent_kept (kept : parent ∉ removed.flatMap Branch.ids) :
    next.branch? parent = some (change old) := by
  rw [h.branch?_kept h' found top keepsId stays found kept,
    Branch.modify_of_id_eq (h.branch?_iff.mp found).2]

omit h' top keepsId stays in
include inside in
/-- The node whose children are edited is not below them. -/
theorem parent_notMem_removed : parent ∉ removed.flatMap Branch.ids := by
  intro mem
  obtain ⟨child, hchild, below⟩ := List.mem_flatMap.mp mem
  obtain ⟨hold, rfl⟩ := h.branch?_iff.mp found
  have own := Branch.ids_nodup_of_mem_preorder h.top_nodup hold
  rw [Branch.ids_eq_cons, List.nodup_cons] at own
  exact own.1 (List.mem_flatMap.mpr ⟨child, inside child hchild, below⟩)

include inside in
/-- A node that stays is a child of the same nodes. -/
theorem isChild_kept {owner : NodeId} (below : tree.IsChild owner id)
    (kept : id ∉ removed.flatMap Branch.ids) : next.IsChild owner id := by
  obtain ⟨branch, mem, rfl, child, hchild, rfl⟩ := h.isChild_iff.mp below
  have there := h.branch?_iff.mpr ⟨mem, rfl⟩
  -- what is below a branch that is taken away is taken away with its children
  have ownerKept : branch.id ∉ removed.flatMap Branch.ids := by
    intro gone
    obtain ⟨top, htop, hbranch⟩ := List.mem_flatMap.mp gone
    obtain ⟨part, hpart, same⟩ := List.mem_map.mp hbranch
    obtain ⟨hold, -⟩ := h.branch?_iff.mp found
    have deep := Branch.mem_preorder_trans hpart
      (Branch.mem_preorder_trans (Branch.mem_preorder_of_mem_children (inside top htop)) hold)
    have isPart := h.branch?_iff.mpr ⟨deep, same⟩
    rw [there] at isPart
    cases isPart
    refine kept (List.mem_flatMap.mpr ⟨top, htop, ?_⟩)
    exact List.mem_map_of_mem (Branch.mem_preorder_trans
      (Branch.mem_preorder_of_mem_children hchild) hpart)
  have listed := children_of_branch? (h.branch?_kept h' found top keepsId stays there ownerKept)
  rw [IsChild, listed]
  by_cases here : branch.id = parent
  · have isOld : old = branch := by
      rw [here, found] at there
      exact Option.some.inj there
    rw [Branch.modify_of_id_eq here]
    refine List.mem_map_of_mem ?_
    rw [isOld] at stays
    refine stays child hchild fun gone => kept ?_
    exact List.mem_flatMap.mpr ⟨child, gone, child.id_mem_ids⟩
  · rw [Branch.childIds_modify keepsId here]
    exact List.mem_map_of_mem hchild

include inside in
/-- A change of the children of one node, which takes branches away or brings them, leaves
everything else alone. -/
theorem edited (keepsNode : ∀ b, (change b).node = b.node)
    (keepsFlag : ∀ b, (change b).negated = b.negated)
    (perm : ((change old).ids ++ removed.flatMap Branch.ids).Perm
      (old.ids ++ added.flatMap Branch.ids)) (either : removed = [] ∨ added = []) :
    tree.Edited parent (removed.flatMap Branch.ids) (added.flatMap Branch.ids)
      ((change old).children.map (·.id)) next := by
  have perm : (next.top.ids ++ removed.flatMap Branch.ids).Perm
      (tree.top.ids ++ added.flatMap Branch.ids) := by
    have moved := flatMap_modify_perm h.wellFormed found change _ _ perm
    rwa [h.branches_eq, List.map_singleton, List.flatMap_singleton, ← top, h.ids_eq] at moved
  have distinct : (tree.top.ids ++ added.flatMap Branch.ids).Nodup := by
    rcases either with rfl | rfl
    · rw [List.flatMap_nil, List.append_nil] at perm
      exact perm.nodup_iff.mp h'.top_nodup
    · rw [List.flatMap_nil, List.append_nil]
      exact h.top_nodup
  have apart := (List.nodup_append.mp distinct).2.2
  have gone := (List.nodup_append.mp (perm.nodup_iff.mpr distinct)).2.2
  have mem (other : NodeId) : other ∈ next.top.ids ∨ other ∈ removed.flatMap Branch.ids ↔
      other ∈ tree.top.ids ∨ other ∈ added.flatMap Branch.ids := by
    rw [← List.mem_append, perm.mem_iff, List.mem_append]
  have owner := h.branch?_parent_kept h' found top keepsId stays
    (h.parent_notMem_removed found inside)
  refine ⟨by rw [isLive, owner]; rfl, children_of_branch? owner, fun id new => ?_, fun id => ?_,
    fun id live kept => ?_, fun id live kept => ?_, fun id live kept => ?_,
    fun id live kept other => ?_⟩
  · rw [← Bool.not_eq_true, h.isLive_iff_mem_top]
    exact fun live => apart id live id new rfl
  · rw [h.isLive_iff_mem_top, h'.isLive_iff_mem_top]
    constructor
    · intro live
      rcases (mem id).mp (.inl live) with here | new
      · exact .inl ⟨here, fun lost => gone id live id lost rfl⟩
      · exact .inr new
    · rintro (⟨here, kept⟩ | new)
      · exact ((mem id).mpr (.inl here)).resolve_right kept
      · refine ((mem id).mpr (.inr new)).resolve_right fun lost => ?_
        rcases either with rfl | rfl
        · cases lost
        · cases new
  · obtain ⟨part, there⟩ := Option.isSome_iff_exists.mp live
    rw [node?_of_branch? there, node?_of_branch? (h.branch?_kept h' found top keepsId stays there
      kept), Branch.node_modify keepsNode]
  · obtain ⟨part, there⟩ := Option.isSome_iff_exists.mp live
    rw [isNegated_of_branch? there, isNegated_of_branch? (h.branch?_kept h' found top keepsId stays
      there kept), Branch.negated_modify keepsFlag]
  · exact h.parent?_congr h' live fun owner below =>
      h.isChild_kept h' found top keepsId inside stays below kept
  · obtain ⟨part, there⟩ := Option.isSome_iff_exists.mp live
    obtain ⟨-, rfl⟩ := h.branch?_iff.mp there
    rw [children_of_branch? there, children_of_branch? (h.branch?_kept h' found top keepsId stays
      there kept), Branch.childIds_modify keepsId other]

end

/-! ## The three changes of children -/

section
variable {parent : NodeId} {old : Branch} (h : tree.Sound) (h' : next.Sound)
  (found : tree.branch? parent = some old)

include h h' found

/-- A branch that comes among the children of a node. -/
theorem edited_insertIdx {new : Branch} {index : Nat} (inside : index ≤ old.children.length)
    (top : next.top = tree.top.modify parent fun b =>
      b.withChildren (b.children.insertIdx index new)) :
    tree.Edited parent [] new.ids ((tree.children parent).insertIdx index new.id) next ∧
      next.branch? new.id = some new := by
  let change (b : Branch) := b.withChildren (b.children.insertIdx index new)
  have keepsId (b : Branch) : (change b).id = b.id := Branch.id_withChildren b _
  have stays : ∀ b ∈ old.children, b ∉ ([] : List Branch) → b ∈ (change old).children := by
    intro b mem _
    rw [Branch.children_withChildren, List.mem_insertIdx inside]
    exact .inr mem
  have perm : ((change old).ids ++ ([] : List Branch).flatMap Branch.ids).Perm
      (old.ids ++ [new].flatMap Branch.ids) := by
    rw [List.flatMap_nil, List.flatMap_singleton]
    exact Branch.ids_insertIdx_perm old new inside
  have edited := h.edited h' found top keepsId (fun _ mem => absurd mem List.not_mem_nil) stays
    (fun b => Branch.node_withChildren b _) (fun b => Branch.negated_withChildren b _) perm
    (.inl rfl)
  rw [List.flatMap_nil, List.flatMap_singleton, Branch.children_withChildren,
    List.map_insertIdx, ← children_of_branch? found] at edited
  have owner := h.branch?_parent_kept h' found top keepsId stays List.not_mem_nil
  refine ⟨edited, branch?_child h'.wellFormed owner ?_⟩
  rw [Branch.children_withChildren, List.mem_insertIdx inside]
  exact .inl rfl

/-- A branch that goes from the children of a node. -/
theorem edited_eraseIdx {child : Branch} {index : Nat} (there : old.children[index]? = some child)
    (top : next.top = tree.top.modify parent fun b =>
      b.withChildren (b.children.eraseIdx index)) :
    tree.Edited parent child.ids [] ((tree.children parent).eraseIdx index) next := by
  let change (b : Branch) := b.withChildren (b.children.eraseIdx index)
  have stays : ∀ b ∈ old.children, b ∉ [child] → b ∈ (change old).children := by
    intro b mem other
    obtain ⟨place, inside, rfl⟩ := List.getElem_of_mem mem
    rw [Branch.children_withChildren, List.mem_eraseIdx_iff_getElem?]
    refine ⟨place, fun same => other ?_, List.getElem?_eq_getElem inside⟩
    rw [← same, List.getElem?_eq_getElem inside] at there
    exact List.mem_singleton.mpr (Option.some.inj there)
  have perm : ((change old).ids ++ [child].flatMap Branch.ids).Perm
      (old.ids ++ ([] : List Branch).flatMap Branch.ids) := by
    rw [List.flatMap_nil, List.flatMap_singleton]
    exact Branch.ids_eraseIdx_perm there
  have edited := h.edited h' found top (fun b => Branch.id_withChildren b _)
    (fun b mem => by rw [List.mem_singleton.mp mem]; exact List.mem_of_getElem? there) stays
    (fun b => Branch.node_withChildren b _) (fun b => Branch.negated_withChildren b _) perm
    (.inr rfl)
  rwa [List.flatMap_nil, List.flatMap_singleton, Branch.children_withChildren,
    ← List.eraseIdx_map, ← children_of_branch? found] at edited

/-- A branch that comes after the children of a node. -/
theorem edited_adopt {new : Branch} (top : next.top = tree.top.modify parent (.adopt [new])) :
    tree.Edited parent [] new.ids (tree.children parent ++ [new.id]) next := by
  have stays : ∀ b ∈ old.children, b ∉ ([] : List Branch) → b ∈ (old.adopt [new]).children := by
    intro b mem _
    rw [Branch.adopt, Branch.children_withChildren]
    exact List.mem_append_left _ mem
  have perm : ((old.adopt [new]).ids ++ ([] : List Branch).flatMap Branch.ids).Perm
      (old.ids ++ [new].flatMap Branch.ids) :=
    Branch.ids_adopt_perm old
  have edited := h.edited h' found top (Branch.id_adopt [new])
    (fun _ mem => absurd mem List.not_mem_nil) stays (Branch.node_adopt [new])
    (Branch.negated_adopt [new]) perm (.inl rfl)
  rwa [List.flatMap_nil, List.flatMap_singleton, Branch.adopt, Branch.children_withChildren,
    List.map_append, List.map_singleton, ← children_of_branch? found] at edited

end

end Sound

end FilterTree

end EventSieve
