import EventSieve.Proofs.Representation

/-!
# Changes of places

A change at one identity of a tree is a change of one place of an arena. What an edit writes into
the places of an arena that represents a tree makes it represent the tree after the edit: a node or
a flag that is set, a new node, a child that is cut off, and places that are given up.

## Main definitions

* `Arena.Allocated` — what allocation makes of an arena

## Main statements

* `FilterTree.Hangs.of_modifyBranch` — where branches hang after a change at one identity
* `Arena.Represents.modifyBranch` — a node or a flag that is set
* `Arena.Represents.insertIdx` — a new node in the place that was allocated for it
* `Arena.Represents.cut`, `Arena.Represents.release` — the two halves of a removal
-/
namespace EventSieve

open EventSieve.Tree (Node NodeKind NodeId Branch)

namespace Tree.Branch

variable {target : NodeId} {change : Branch → Branch} {branch : Branch}

/-- A change at one identity leaves what the other nodes keep in their places. -/
theorem slot_modify_of_ne (keeps : ∀ b, (change b).id = b.id) (other : branch.id ≠ target)
    (owner? : Option NodeId) : (branch.modify target change).slot owner? = branch.slot owner? := by
  obtain ⟨id, node, negated, children⟩ := branch
  have other : id ≠ target := other
  rw [modify_mk_of_ne other, slot, slot]
  simp only [Branch.children, map_id_modify keeps]
  rfl

end Tree.Branch

namespace FilterTree

variable {tree : FilterTree} {target : NodeId} {owner? : Option NodeId}
  {change : Branch → Branch} {old part child : Branch}

/-- The identity of a node is not one of those below it. -/
theorem notMem_ids_child (wf : tree.WellFormed) (found : tree.branch? target = some old)
    (mem : child ∈ old.children) : target ∉ child.ids := by
  obtain ⟨there, rfl⟩ := (branch?_eq_some_iff wf).mp found
  obtain ⟨top, htop, inside⟩ := List.mem_flatMap.mp there
  have distinct := Branch.ids_nodup_of_mem_preorder (wf.branch_nodup htop) inside
  obtain ⟨id, node, negated, children⟩ := old
  rw [Branch.ids_mk, List.nodup_cons] at distinct
  exact fun below => distinct.1 (List.mem_flatMap.mpr ⟨child, mem, below⟩)

/-- After a change at one identity that brings leaves at most, a branch hangs where it did, is the
changed one, or is one of these leaves. -/
theorem Hangs.of_modifyBranch (wf : tree.WellFormed) (found : tree.branch? target = some old)
    (keeps : ∀ b, (change b).id = b.id)
    (leaves : ∀ b ∈ (change old).children, b ∈ old.children ∨ b.children = [])
    (h : (tree.modifyBranch target change).Hangs owner? part) :
    (∃ before, tree.Hangs owner? before ∧ before.id ≠ target ∧
        part = before.modify target change) ∨
      (tree.Hangs owner? old ∧ part = change old) ∨
      (owner? = some target ∧ part ∈ (change old).children ∧ part ∉ old.children ∧
        part.children = []) := by
  have same {owner? : Option NodeId} {b : Branch} (hangs : tree.Hangs owner? b)
      (here : b.id = target) : b = old := by
    rw [← here, hangs.branch?_eq wf] at found
    exact Option.some.inj found
  have old_id : old.id = target := ((branch?_eq_some_iff wf).mp found).2
  -- a branch that hung somewhere still does, with the change made to it
  have still {owner? : Option NodeId} {b : Branch} (hangs : tree.Hangs owner? b) :
      (∃ before, tree.Hangs owner? before ∧ before.id ≠ target ∧
          b.modify target change = before.modify target change) ∨
        (tree.Hangs owner? old ∧ b.modify target change = change old) := by
    by_cases here : b.id = target
    · cases same hangs here
      exact .inr ⟨hangs, Branch.modify_of_id_eq here change⟩
    · exact .inl ⟨b, hangs, here, rfl⟩
  induction h with
  | top => exact (still .top).imp_right .inl
  | @stray owner branch mem =>
    obtain ⟨⟨_, b⟩, there, pair⟩ := List.mem_map.mp mem
    cases pair
    exact (still (.stray there)).imp_right .inl
  | @child owner? branch child _ mem ih =>
    rcases ih with ⟨⟨id, node, negated, children⟩, hangs, other, rfl⟩ | ⟨hangs, rfl⟩ |
      ⟨-, -, -, none⟩
    · have other : id ≠ target := other
      rw [Branch.modify_mk_of_ne other] at mem ⊢
      obtain ⟨b, hb, rfl⟩ := List.mem_map.mp mem
      exact (still (hangs.child hb)).imp_right .inl
    · rw [keeps, old_id]
      by_cases before : child ∈ old.children
      · have hangs := hangs.child before
        rw [old_id] at hangs
        have absent := notMem_ids_child wf found before
        refine .inl ⟨child, hangs, ?_, (Branch.modify_of_notMem absent change).symm⟩
        rintro rfl
        exact absent child.id_mem_ids
      · exact .inr (.inr ⟨rfl, mem, before, (leaves child mem).resolve_left before⟩)
    · rw [none] at mem
      cases mem

/-- Branches hang where they did, or nowhere, if no top and no stray has come. -/
theorem Hangs.of_subset {next : FilterTree} (top : next.top = tree.top)
    (strays : next.strays ⊆ tree.strays) (h : next.Hangs owner? part) : tree.Hangs owner? part := by
  induction h with
  | top => exact top ▸ .top
  | stray mem => exact .stray (strays mem)
  | child _ mem ih => exact ih.child mem

/-- After a cut a branch hangs where the parent without the child leaves it, or it is below the
child and hangs where it did. -/
theorem Hangs.of_cut {index : Nat} (wf : tree.WellFormed)
    (found : tree.branch? target = some old) (there : old.children[index]? = some child)
    (h : (tree.cut target index child).Hangs owner? part) :
    (tree.modifyBranch target fun b => b.withChildren (b.children.eraseIdx index)).Hangs
        owner? part ∨
      (tree.Hangs owner? part ∧ part ∈ child.preorder) := by
  induction h with
  | top => exact .inl .top
  | stray mem =>
    rcases List.mem_cons.mp mem with same | mem
    · cases same
      obtain ⟨other?, hangs, rfl⟩ := hangs_of_branch? wf found
      exact .inr ⟨hangs.child (List.mem_of_getElem? there), child.mem_preorder_self⟩
    · exact .inl (.stray mem)
  | child _ mem ih =>
    rcases ih with hangs | ⟨hangs, below⟩
    · exact .inl (hangs.child mem)
    · exact .inr ⟨hangs.child mem,
        Branch.mem_preorder_trans (Branch.mem_preorder_of_mem_children mem) below⟩

end FilterTree

/-- Allocation takes one place at most from those given up. -/
theorem FilterTree.allocate_free_subset (tree : FilterTree) :
    tree.allocate.2.free ⊆ tree.free := by
  cases free : tree.free with
  | nil =>
    rw [FilterTree.allocate_nil free, free]
    exact List.Subset.refl _
  | cons index rest =>
    rw [FilterTree.allocate_cons free]
    exact List.subset_cons_self index rest

namespace Arena

variable {arena next : Arena} {tree : FilterTree} {target parent : NodeId} {old child : Branch}
  {change : Branch → Branch} {f : Slot → Slot} {index : Nat}

/-! ## Places -/

theorem getElem?_modifySlot_self (arena : Arena) (index : Nat) (f : Slot → Slot) :
    (arena.modifySlot index f).slots[index]? = arena.slots[index]?.map f := by
  rw [modifySlot, List.getElem?_modify_eq]
  rfl

theorem getElem?_modifySlot_of_ne {other : Nat} (ne : index ≠ other) (arena : Arena)
    (f : Slot → Slot) : (arena.modifySlot index f).slots[other]? = arena.slots[other]? :=
  List.getElem?_modify_ne f arena.slots ne

/-- A change of a place in use that keeps its generation. -/
theorem Accounts.modifySlot {generations : List UInt32} {free : List Nat}
    (h : arena.Accounts generations free) (same : ∀ slot, (f slot).generation = slot.generation)
    (used : index ∉ free) : (arena.modifySlot index f).Accounts generations free where
  generation other := by
    rw [← h.generation]
    by_cases here : index = other
    · subst here
      rw [getElem?_modifySlot_self, Option.map_map]
      exact congrArg (Option.map · _) (funext same)
    · rw [getElem?_modifySlot_of_ne here]
  free_eq := h.free_eq
  detached other mem := by
    rw [getElem?_modifySlot_of_ne (ne_of_mem_of_not_mem mem used).symm]
    exact h.detached other mem

/-- A place that is given up is one more of those given up. -/
theorem Accounts.giveUp {generations : List UInt32} {free : List Nat}
    (h : arena.Accounts generations free) {id : NodeId} (inside : id.index < generations.length) :
    (arena.giveUp id).Accounts (generations.modify id.index (· + 1)) (id.index :: free) where
  generation other := by
    rw [Arena.giveUp, List.getElem?_modify, ← h.generation]
    by_cases here : id.index = other
    · subst here
      rw [getElem?_modifySlot_self]
      cases arena.slots[id.index]? <;> simp
    · rw [getElem?_modifySlot_of_ne here]
      simp [here]
  free_eq := congrArg (id.index :: ·) h.free_eq
  detached other mem := by
    rw [Arena.giveUp]
    by_cases here : id.index = other
    · subst here
      rw [getElem?_modifySlot_self]
      have known := h.generation id.index
      rw [List.getElem?_eq_getElem inside] at known
      obtain ⟨slot, there, -⟩ := Option.map_eq_some_iff.mp known
      exact ⟨_, by rw [there, Option.map_some], rfl, rfl⟩
    · rw [getElem?_modifySlot_of_ne here]
      exact h.detached other ((List.mem_cons.mp mem).resolve_left (Ne.symm here))

/-- Places given up one after the other. -/
theorem Accounts.foldl_giveUp (gone : List NodeId)
    (h : arena.Accounts tree.generations tree.free)
    (inside : ∀ id ∈ gone, id.index < tree.generations.length) :
    (gone.foldl Arena.giveUp arena).Accounts (gone.foldl FilterTree.giveUp tree).generations
      (gone.foldl FilterTree.giveUp tree).free := by
  induction gone generalizing arena tree with
  | nil => exact h
  | cons id gone ih =>
    obtain ⟨first, later⟩ := List.forall_mem_cons.mp inside
    have given : (arena.giveUp id).Accounts (tree.giveUp id).generations (tree.giveUp id).free :=
      h.giveUp first
    refine ih given fun other mem => ?_
    rw [FilterTree.giveUp, List.length_modify]
    exact later other mem

theorem getElem?_foldl_giveUp {gone : List NodeId} (other : index ∉ gone.map NodeId.index)
    (arena : Arena) : (gone.foldl Arena.giveUp arena).slots[index]? = arena.slots[index]? := by
  induction gone generalizing arena with
  | nil => rfl
  | cons id gone ih =>
    rw [List.map_cons, List.mem_cons, not_or] at other
    rw [List.foldl_cons, ih other.2]
    exact getElem?_modifySlot_of_ne (Ne.symm other.1) arena _

theorem root_foldl_giveUp (gone : List NodeId) (arena : Arena) :
    (gone.foldl Arena.giveUp arena).root = arena.root := by
  induction gone generalizing arena with
  | nil => rfl
  | cons id gone ih => exact ih (arena.giveUp id)

/-- What allocation makes of an arena: the new node is in its place, and the others are in
theirs. -/
structure Allocated (arena : Arena) (tree : FilterTree) (parent : NodeId) (node : Node)
    (next : Arena) : Prop where
  root : next.root = arena.root
  accounts : next.Accounts tree.allocate.2.generations tree.allocate.2.free
  here : next.slots[tree.allocate.1.index]? =
    some ((Branch.mk tree.allocate.1 node false []).slot (some parent))
  others : ∀ index, index ≠ tree.allocate.1.index → next.slots[index]? = arena.slots[index]?

theorem Accounts.map_generation {generations : List UInt32} {free : List Nat}
    (h : arena.Accounts generations free) : arena.slots.map Slot.generation = generations :=
  List.ext_getElem? fun index => by rw [List.getElem?_map, h.generation]

theorem Accounts.length_eq {generations : List UInt32} {free : List Nat}
    (h : arena.Accounts generations free) : arena.slots.length = generations.length := by
  rw [← h.map_generation, List.length_map]

namespace Represents

variable (h : arena.Represents tree)

include h

/-! ## Trees that change -/

/-- After a change at one identity every node is in its place, if the other nodes are where they
were, and the changed one and the leaves that it brings are in theirs. -/
theorem holds_of_modifyBranch (found : tree.branch? target = some old)
    (keeps : ∀ b, (change b).id = b.id)
    (leaves : ∀ b ∈ (change old).children, b ∈ old.children ∨ b.children = [])
    (others : ∀ id ∈ tree.ids, id ≠ target → next.slots[id.index]? = arena.slots[id.index]?)
    (here : ∀ owner?, arena.slots[target.index]? = some (old.slot owner?) →
      next.slots[target.index]? = some ((change old).slot owner?))
    (new : ∀ b ∈ (change old).children, b ∉ old.children →
      next.slots[b.id.index]? = some (b.slot (some target)))
    ⦃owner? : Option NodeId⦄ ⦃part : Branch⦄
    (hangs : (tree.modifyBranch target change).Hangs owner? part) :
    next.slots[part.id.index]? = some (part.slot owner?) := by
  have old_id : old.id = target := ((FilterTree.branch?_eq_some_iff h.wellFormed).mp found).2
  rcases hangs.of_modifyBranch h.wellFormed found keeps leaves with
    ⟨before, was, other, rfl⟩ | ⟨was, rfl⟩ | ⟨rfl, mem, isNew, -⟩
  · rw [Branch.id_modify keeps, Branch.slot_modify_of_ne keeps other,
      others before.id was.id_mem_ids other]
    exact h.holds was
  · have there := h.holds was
    rw [old_id] at there
    rw [keeps, old_id]
    exact here owner? there
  · exact new part mem isNew

theorem notMem_free {id : NodeId} (known : id ∈ tree.ids) : id.index ∉ tree.free := fun unused =>
  ((h.wellFormed.mem_free _).mp unused).2 (List.mem_map_of_mem known)

/-- A node or a flag that is set. -/
theorem modifyBranch (found : tree.branch? target = some old) (ids : ∀ b, (change b).ids = b.ids)
    (keeps : ∀ b, (change b).id = b.id) (below : (change old).children = old.children)
    (place : ∀ owner?, f (old.slot owner?) = (change old).slot owner?)
    (same : ∀ slot, (f slot).generation = slot.generation) :
    (arena.modifySlot target.index f).Represents (tree.modifyBranch target change) where
  wellFormed := h.wellFormed.modifyBranch target ids
  top_id := (Branch.id_modify keeps tree.top).trans h.top_id
  root := h.root
  accounts := h.accounts.modifySlot same
    (h.notMem_free (FilterTree.mem_ids_of_branch? h.wellFormed found))
  holds := by
    have known := FilterTree.mem_ids_of_branch? h.wellFormed found
    refine h.holds_of_modifyBranch found keeps (fun b mem => .inl (below ▸ mem))
      (fun id mem other => ?_) (fun owner? there => ?_)
      (fun b mem isNew => absurd (below ▸ mem) isNew)
    · exact getElem?_modifySlot_of_ne (h.wellFormed.index_ne known mem (Ne.symm other)) arena f
    · rw [getElem?_modifySlot_self, there, Option.map_some, place]

omit h in
/-- The arena of one node with a flag represents the tree of that node. -/
theorem withTop_flag (node : Node) (negated : Bool) :
    Arena.Represents { slots := [{ node, negated, parent? := none }] }
      ((FilterTree.withTop node).modifyBranch FilterTree.rootId (·.withNegated negated)) := by
  have found : (FilterTree.withTop node).branch? FilterTree.rootId =
      some (FilterTree.withTop node).top := rfl
  have flagged := (represents_withTop node).modifyBranch (f := fun slot => { slot with negated })
    found (Branch.ids_withNegated negated) (fun b => b.id_withNegated negated) rfl
    (fun _ => rfl) fun _ => rfl
  exact flagged

/-- Where no place is given up, a new one comes after the others. -/
theorem allocated_new (free : tree.free = []) (parent : NodeId) (node : Node) :
    arena.Allocated tree parent node
      { arena with slots := arena.slots ++ [{ node, parent? := some parent }], free := [] } := by
  have length := h.accounts.length_eq
  have allocate := FilterTree.allocate_nil free
  constructor
  case root => rfl
  case accounts =>
    rw [allocate]
    refine ⟨fun place => ?_, free.symm, by rw [free]; nofun⟩
    rw [← List.getElem?_map, List.map_append, h.accounts.map_generation]
    rfl
  case here =>
    rw [allocate, ← length]
    exact List.getElem?_concat_length
  case others =>
    intro place other
    rw [allocate, ← length] at other
    have other : place ≠ arena.slots.length := other
    by_cases inside : place < arena.slots.length
    · exact List.getElem?_append_left inside
    · rw [List.getElem?_eq_none (by simp; omega), List.getElem?_eq_none (by omega)]

/-- A place that was given up is used again, with the generation that it has. -/
theorem allocated_again {rest : List Nat} {slot : Slot} (free : tree.free = index :: rest)
    (there : arena.slots[index]? = some slot) (parent : NodeId) (node : Node) :
    tree.allocate.1 = ⟨index, slot.generation⟩ ∧
    arena.Allocated tree parent node { arena with
      slots := arena.slots.set index
        { node, parent? := some parent, generation := slot.generation }
      free := rest } := by
  have known := h.accounts.generation index
  rw [there, Option.map_some] at known
  have generation : tree.generations.getD index 0 = slot.generation := by
    rw [List.getD_eq_getElem?_getD, ← known, Option.getD_some]
  have allocate := FilterTree.allocate_cons free
  rw [generation] at allocate
  obtain ⟨inside, -⟩ := List.getElem?_eq_some_iff.mp there
  refine ⟨by rw [allocate], ?_⟩
  constructor
  case root => rfl
  case accounts =>
    have distinct := h.wellFormed.free_nodup
    rw [free, List.nodup_cons] at distinct
    rw [allocate]
    refine ⟨fun place => ?_, rfl, fun place mem => ?_⟩
    · by_cases here : index = place
      · subst here
        rw [List.getElem?_set_self inside, ← known]
        rfl
      · rw [List.getElem?_set_ne here, h.accounts.generation]
    · rw [List.getElem?_set_ne (ne_of_mem_of_not_mem mem distinct.1).symm]
      exact h.accounts.detached place (free ▸ List.mem_cons_of_mem _ mem)
  case here =>
    rw [allocate]
    exact List.getElem?_set_self inside
  case others =>
    intro place other
    rw [allocate] at other
    exact List.getElem?_set_ne (Ne.symm other)

/-- Allocation leaves the nodes of the tree in their places. -/
theorem getElem?_allocated {node : Node} (allocated : arena.Allocated tree parent node next)
    {id : NodeId} (known : id ∈ tree.ids) : next.slots[id.index]? = arena.slots[id.index]? :=
  allocated.others id.index fun same =>
    FilterTree.allocate_fresh h.wellFormed (same ▸ List.mem_map_of_mem known)

/-- A new node, in the place that was allocated for it, below another one. -/
theorem insertIdx {node : Node} (found : tree.branch? parent = some old)
    (inside : index ≤ old.children.length) (allocated : arena.Allocated tree parent node next) :
    (next.modifySlot parent.index fun slot =>
        { slot with children := slot.children.insertIdx index tree.allocate.1 }).Represents
      (tree.allocate.2.modifyBranch parent fun b =>
        b.withChildren (b.children.insertIdx index (.mk tree.allocate.1 node false []))) where
  wellFormed := (FilterTree.insert_turnover h.wellFormed found node inside).1.wellFormed
  top_id := by
    rw [FilterTree.modifyBranch, tree.allocate_parts.1]
    exact (Branch.id_modify (fun b => b.id_withChildren _) tree.top).trans h.top_id
  root := allocated.root.trans h.root
  accounts := by
    refine allocated.accounts.modifySlot (fun _ => rfl) fun unused => ?_
    exact h.notMem_free (FilterTree.mem_ids_of_branch? h.wellFormed found)
      (tree.allocate_free_subset unused)
  holds := by
    intro owner? part hangs
    have known := FilterTree.mem_ids_of_branch? h.wellFormed found
    have fresh : parent.index ≠ tree.allocate.1.index := fun same =>
      FilterTree.allocate_fresh h.wellFormed (same ▸ List.mem_map_of_mem known)
    have hangs : (tree.modifyBranch parent fun b => b.withChildren
        (b.children.insertIdx index (.mk tree.allocate.1 node false []))).Hangs owner? part := by
      obtain ⟨top, strays⟩ := tree.allocate_parts
      refine hangs.of_subset ?_ ?_
      · rw [FilterTree.modifyBranch, FilterTree.modifyBranch, top]
      · rw [FilterTree.modifyBranch, FilterTree.modifyBranch, strays]
        exact List.Subset.refl _
    refine h.holds_of_modifyBranch found (fun b => b.id_withChildren _) (fun b mem => ?_)
      (fun id mem other => ?_) (fun owner? there => ?_) (fun b mem isNew => ?_) hangs
    · rw [Branch.children_withChildren] at mem
      rcases List.eq_or_mem_of_mem_insertIdx mem with rfl | before
      · exact .inr rfl
      · exact .inl before
    · rw [getElem?_modifySlot_of_ne (h.wellFormed.index_ne known mem (Ne.symm other)),
        h.getElem?_allocated allocated mem]
    · rw [getElem?_modifySlot_self, h.getElem?_allocated allocated known, there, Option.map_some]
      simp only [Branch.slot, Branch.node_withChildren, Branch.negated_withChildren,
        Branch.children_withChildren, Branch.id_withChildren, List.map_insertIdx]
      rfl
    · rw [Branch.children_withChildren] at mem
      obtain rfl := (List.eq_or_mem_of_mem_insertIdx mem).resolve_right isNew
      rw [Branch.id, getElem?_modifySlot_of_ne fresh, allocated.here]

/-- A child that is cut off from its parent. -/
theorem cut (found : tree.branch? parent = some old) (there : old.children[index]? = some child) :
    (arena.modifySlot parent.index fun slot =>
        { slot with children := slot.children.eraseIdx index }).Represents
      (tree.cut parent index child) where
  wellFormed := (FilterTree.cut_turnover h.wellFormed found there).wellFormed
  top_id := (Branch.id_modify (fun b => b.id_withChildren _) tree.top).trans h.top_id
  root := h.root
  accounts := h.accounts.modifySlot (fun _ => rfl)
    (h.notMem_free (FilterTree.mem_ids_of_branch? h.wellFormed found))
  holds := by
    intro owner? part hangs
    have known := FilterTree.mem_ids_of_branch? h.wellFormed found
    rcases hangs.of_cut h.wellFormed found there with hangs | ⟨hangs, below⟩
    · refine h.holds_of_modifyBranch found (fun b => b.id_withChildren _) (fun b mem => .inl ?_)
        (fun id mem other => ?_) (fun owner? there => ?_) (fun b mem isNew => absurd ?_ isNew) hangs
      · exact List.mem_of_mem_eraseIdx (Branch.children_withChildren _ _ ▸ mem)
      · exact getElem?_modifySlot_of_ne (h.wellFormed.index_ne known mem (Ne.symm other)) arena _
      · rw [getElem?_modifySlot_self, there, Option.map_some]
        simp only [Branch.slot, Branch.node_withChildren, Branch.negated_withChildren,
          Branch.children_withChildren, Branch.id_withChildren, List.eraseIdx_map]
      · exact List.mem_of_mem_eraseIdx (Branch.children_withChildren _ _ ▸ mem)
    · have absent := FilterTree.notMem_ids_child h.wellFormed found (List.mem_of_getElem? there)
      have other : parent ≠ part.id := fun same => absent (same ▸ List.mem_map_of_mem below)
      rw [getElem?_modifySlot_of_ne (h.wellFormed.index_ne known hangs.id_mem_ids other)]
      exact h.holds hangs

/-- A stray that is released. -/
theorem release {owner : NodeId} {rest : List (NodeId × Branch)}
    (strays : tree.strays = (owner, child) :: rest) :
    (child.ids.foldl Arena.giveUp arena).Represents (tree.release child) where
  wellFormed := (FilterTree.release_turnover h.wellFormed child strays).wellFormed
  top_id := by rw [(tree.release_parts child).1, h.top_id]
  root := by rw [root_foldl_giveUp, h.root]
  accounts := by
    rw [FilterTree.release, FilterTree.walk_singleton]
    refine Accounts.foldl_giveUp child.ids ?_ fun id mem => ?_
    · exact h.accounts
    · have hangs : tree.Hangs (some owner) child := .stray (strays ▸ List.mem_cons_self)
      obtain ⟨part, inside, rfl⟩ := List.mem_map.mp mem
      obtain ⟨other?, hangs⟩ := hangs.of_mem_preorder inside
      obtain ⟨inside, -⟩ :=
        List.getElem?_eq_some_iff.mp (h.wellFormed.current part.id hangs.id_mem_ids)
      exact inside
  holds := by
    intro owner? part hangs
    have wf := (FilterTree.release_turnover h.wellFormed child strays).wellFormed
    have used : part.id.index ∉ child.ids.map NodeId.index := by
      intro gone
      refine ((wf.mem_free part.id.index).mp ?_).2 (List.mem_map_of_mem hangs.id_mem_ids)
      rw [FilterTree.release, FilterTree.walk_singleton, FilterTree.foldl_giveUp_free]
      exact List.mem_append_left _ (List.mem_reverse.mpr gone)
    rw [getElem?_foldl_giveUp used]
    obtain ⟨top, others⟩ := tree.release_parts child
    exact h.holds (hangs.of_subset top (others ▸ List.filter_subset_self _))

end Represents

end Arena
end EventSieve
