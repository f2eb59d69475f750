import EventSieve.Proofs.Copies

/-!
# Sound trees

A sound tree is well formed and has no strays, and every node of it fits its kind. The calls of a
caller lead from sound trees to sound trees, as long as payloads that are written over a node keep
its kind: then every branch can be copied, so that a removal never leaves a stray.

## Main definitions

* `FilterTree.Sound` — a well-formed tree of nodes that fit their kinds, and of nothing else

## Main statements

* `FilterTree.Sound.grown`, `FilterTree.Sound.removeChild` — additions and removals
* `FilterTree.Reachable.sound` — every tree that a caller can make is sound
-/
namespace EventSieve

open EventSieve.Tree (Node NodeKind NodeId Branch)
open FilterTree (Grown)

namespace Tree.Branch

variable {target : NodeId} {change : Branch → Branch} {branch : Branch}

theorem kind_modify (kind : branch.id = target → (change branch).node.kind = branch.node.kind) :
    (branch.modify target change).node.kind = branch.node.kind := by
  obtain ⟨id, node, negated, children⟩ := branch
  by_cases here : id = target
  · subst here
    rw [modify_mk_self]
    exact kind rfl
  · rw [modify_mk_of_ne here]
    rfl

/-- A change that keeps the kind and is sound where it is made keeps a branch sound. -/
theorem Sound.modify (h : branch.Sound)
    (kind : ∀ b ∈ branch.preorder, b.id = target → (change b).node.kind = b.node.kind)
    (here : ∀ b ∈ branch.preorder, b.id = target → (change b).Sound) :
    (branch.modify target change).Sound := by
  intro part hpart
  rcases mem_preorder_modify hpart with ⟨old, hold, other, rfl⟩ | ⟨old, hold, same, inside⟩
  · have fits := h old hold
    obtain ⟨id, node, negated, children⟩ := old
    have other : id ≠ target := other
    rw [modify_mk_of_ne other]
    refine ⟨fun limit hmax => ?_, fun child hchild => ?_, fits.flag⟩
    · simpa [Branch.children] using fits.room limit hmax
    · obtain ⟨original, hmem, rfl⟩ := List.mem_map.mp hchild
      have inside : original ∈ branch.preorder :=
        mem_preorder_trans (mem_preorder_below hmem original.mem_preorder_self) hold
      rw [kind_modify (kind original inside)]
      exact fits.nested original hmem
  · exact here old hold same part inside

theorem Sound.insertIdx {new : Branch} {index : Nat} (h : branch.Sound) (room : branch.HasRoom)
    (sound : new.Sound) (nested : new.node.kind ≠ .root) :
    (branch.withChildren (branch.children.insertIdx index new)).Sound := by
  obtain ⟨id, node, negated, children⟩ := branch
  obtain ⟨fits, below⟩ := sound_mk.mp h
  refine sound_mk.mpr ⟨⟨fun limit hmax => ?_, fun child hchild => ?_, fits.flag⟩,
    fun child hchild => ?_⟩
  · have enough := room limit hmax
    have length := @List.length_insertIdx_le_succ _ children new index
    simp only [Branch.children] at enough length ⊢
    omega
  · rcases List.eq_or_mem_of_mem_insertIdx hchild with rfl | old
    · exact nested
    · exact fits.nested child old
  · rcases List.eq_or_mem_of_mem_insertIdx hchild with rfl | old
    · exact sound
    · exact below child old

theorem Sound.eraseIdx (h : branch.Sound) (index : Nat) :
    (branch.withChildren (branch.children.eraseIdx index)).Sound := by
  obtain ⟨id, node, negated, children⟩ := branch
  obtain ⟨fits, below⟩ := sound_mk.mp h
  refine sound_mk.mpr ⟨⟨fun limit hmax => ?_, fun child hchild => ?_, fits.flag⟩,
    fun child hchild => ?_⟩
  · have enough := fits.room limit hmax
    have length := List.length_eraseIdx_le children index
    simp only [Branch.children] at enough length ⊢
    omega
  · exact fits.nested child (List.mem_of_mem_eraseIdx hchild)
  · exact below child (List.mem_of_mem_eraseIdx hchild)

theorem Sound.adopt {new : List Branch} (h : branch.Sound) (room : branch.HasRoomFor new.length)
    (sound : ∀ b ∈ new, b.Sound) (nested : ∀ b ∈ new, b.node.kind ≠ .root) :
    (branch.adopt new).Sound := by
  obtain ⟨id, node, negated, children⟩ := branch
  obtain ⟨fits, below⟩ := sound_mk.mp h
  rw [adopt_mk]
  refine sound_mk.mpr ⟨⟨fun limit hmax => ?_, fun child hchild => ?_, fits.flag⟩,
    fun child hchild => ?_⟩
  · have enough := room limit hmax
    simp only [Branch.children, List.length_append] at enough ⊢
    exact enough
  · rcases List.mem_append.mp hchild with old | added
    · exact fits.nested child old
    · exact nested child added
  · rcases List.mem_append.mp hchild with old | added
    · exact below child old
    · exact sound child added

theorem Sound.withNegated {negated : Bool} (h : branch.Sound)
    (able : negated = true → branch.node.kind.canNegate = true) :
    (branch.withNegated negated).Sound := by
  obtain ⟨id, node, _, children⟩ := branch
  obtain ⟨fits, below⟩ := sound_mk.mp h
  exact sound_mk.mpr ⟨⟨fits.room, fits.nested, able⟩, below⟩

theorem Sound.withNode {node : Node} (h : branch.Sound) (same : branch.node.kind = node.kind) :
    (branch.withNode node).Sound := by
  obtain ⟨id, old, negated, children⟩ := branch
  obtain ⟨fits, below⟩ := sound_mk.mp h
  have same : old.kind = node.kind := same
  refine sound_mk.mpr ⟨⟨fun limit hmax => fits.room limit ?_, fits.nested, fun flag => ?_⟩, below⟩
  · show old.kind.maxChildren? = some limit
    rw [same]
    exact hmax
  · show node.kind.canNegate = true
    rw [← same]
    exact fits.flag flag

end Tree.Branch

namespace FilterTree

/-- A tree without strays that is well formed, and all of whose nodes fit their kinds. -/
structure Sound (tree : FilterTree) : Prop where
  wellFormed : tree.WellFormed
  whole : tree.strays = []
  top_id : tree.top.id = rootId
  parts : tree.top.Sound

variable {tree next : FilterTree} {target parent : NodeId} {old child : Branch}
  {change : Branch → Branch}

theorem sound_withTop (node : Node) : (withTop node).Sound where
  wellFormed := wellFormed_withTop node
  whole := rfl
  top_id := rfl
  parts := Branch.sound_mk.mpr ⟨⟨fun _ _ => Nat.zero_le _, nofun, nofun⟩, nofun⟩

/-- A sound branch is a sound tree of its own. -/
theorem sound_ofBranch {branch : Branch} (h : branch.Sound) :
    ∃ tree, ofBranch branch = .ok tree ∧ tree.Sound ∧ tree.top.unnamed = branch.unnamed := by
  obtain ⟨tree, made, wf, whole, top_id, same⟩ := ofBranch_of_sound h
  exact ⟨tree, made, ⟨wf, whole, top_id, h.of_unnamed_eq same⟩, same⟩

namespace Sound

theorem branches_eq (h : tree.Sound) : tree.branches = [tree.top] := by
  rw [branches, h.whole, List.map_nil]

theorem branch?_iff (h : tree.Sound) :
    tree.branch? target = some old ↔ old ∈ tree.top.preorder ∧ old.id = target := by
  rw [branch?_eq_some_iff h.wellFormed, h.branches_eq, List.flatMap_singleton]

theorem of_branch? (h : tree.Sound) (found : tree.branch? target = some old) : old.Sound :=
  h.parts.of_mem (h.branch?_iff.mp found).1

/-- A change of one node that keeps its kind, and is sound there, keeps the parts of a tree
sound. -/
theorem modify_top (h : tree.Sound) (found : tree.branch? target = some old)
    (kind : (change old).node.kind = old.node.kind) (here : (change old).Sound) :
    (tree.top.modify target change).Sound := by
  have unique {b : Branch} (hb : b ∈ tree.top.preorder) (same : b.id = target) : b = old :=
    Option.some.inj ((h.branch?_iff.mpr ⟨hb, same⟩).symm.trans found)
  refine h.parts.modify (fun b hb same => ?_) fun b hb same => ?_
  · rw [unique hb same]
    exact kind
  · rw [unique hb same]
    exact here

/-- A change of one node that keeps identities and its kind, and is sound there, keeps a tree
sound. -/
theorem modifyBranch (h : tree.Sound) (found : tree.branch? target = some old)
    (ids : ∀ b, (change b).ids = b.ids) (id : ∀ b, (change b).id = b.id)
    (kind : (change old).node.kind = old.node.kind) (here : (change old).Sound) :
    (tree.modifyBranch target change).Sound where
  wellFormed := h.wellFormed.modifyBranch target ids
  whole := by rw [FilterTree.modifyBranch, h.whole, List.map_nil]
  top_id := (Branch.id_modify id tree.top).trans h.top_id
  parts := h.modify_top found kind here

/-- Branches that are sound and no roots are adopted where there is room for them. -/
theorem grown {new : List Branch} (h : tree.Sound) (found : tree.branch? parent = some old)
    (growth : Grown tree parent new next) (room : old.HasRoomFor new.length)
    (sound : ∀ b ∈ new, b.Sound) (nested : ∀ b ∈ new, b.node.kind ≠ .root) : next.Sound where
  wellFormed := growth.wellFormed
  whole := by rw [growth.strays, h.whole, List.map_nil]
  top_id := by
    rw [growth.top, Branch.id_modify (Branch.id_adopt new)]
    exact h.top_id
  parts := by
    rw [growth.top]
    refine h.modify_top found (by rw [Branch.node_adopt]) ?_
    exact (h.of_branch? found).adopt room sound nested

/-- A removal of a sound tree takes out a sound tree. -/
theorem removeChild (h : tree.Sound) (parent : NodeId) (index : Nat) :
    ((Edit.removeChild parent index).apply tree).2.Sound ∧
      ∀ removed, ((Edit.removeChild parent index).apply tree).1 = .ok removed → removed.Sound := by
  have turnover := (Edit.removeChild_turnover h.wellFormed parent index).1
  rcases Edit.removeChild_cases tree parent index with ⟨fault, run⟩ |
    ⟨old, child, found, there, cases⟩
  · rw [run]
    exact ⟨h, nofun⟩
  · have sound := (h.of_branch? found).of_mem
      (Branch.mem_preorder_of_mem_children (List.mem_of_getElem? there))
    obtain ⟨copy, made, soundCopy, -⟩ := sound_ofBranch sound
    rcases cases with ⟨fault, failed, run⟩ | ⟨removed, copied, run⟩
    · rw [made] at failed
      cases failed
    · rw [run] at turnover ⊢
      rw [made] at copied
      cases copied
      obtain ⟨top, strays⟩ := release_parts (tree.cut parent index child) child
      refine ⟨⟨turnover.wellFormed, ?_, ?_, ?_⟩, ?_⟩
      · rw [strays]
        simp [cut, FilterTree.modifyBranch, h.whole]
      · rw [top]
        exact (Branch.id_modify (fun b => Branch.id_withChildren b _) tree.top).trans h.top_id
      · rw [top]
        exact h.modify_top found (by rw [Branch.node_withChildren])
          ((h.of_branch? found).eraseIdx index)
      · rintro _ ⟨⟩
        exact soundCopy

/-- An addition keeps a tree sound, whether or not it succeeds. -/
theorem insertChild (h : tree.Sound) (parent : NodeId) (index : Nat) (node : Node) :
    ((Edit.insertChild parent index node).apply tree).2.Sound := by
  have turnover := (Edit.insertChild_turnover h.wellFormed parent index node).1
  rcases Edit.insertChild_cases tree parent index node with ⟨fault, run⟩ |
    ⟨old, found, room, nested, inside⟩
  · rw [run]
    exact h
  · rw [Edit.apply_insertChild found room nested inside] at turnover ⊢
    obtain ⟨top, strays⟩ := tree.allocate_parts
    have new : (Branch.mk tree.allocate.1 node false []).Sound :=
      Branch.sound_mk.mpr ⟨⟨fun _ _ => Nat.zero_le _, nofun, nofun⟩, nofun⟩
    refine ⟨turnover.wellFormed, ?_, ?_, ?_⟩
    · simp [FilterTree.modifyBranch, strays, h.whole]
    · rw [FilterTree.modifyBranch, top]
      exact (Branch.id_modify (fun b => Branch.id_withChildren b _) tree.top).trans h.top_id
    · rw [FilterTree.modifyBranch, top]
      exact h.modify_top found (by rw [Branch.node_withChildren])
        ((h.of_branch? found).insertIdx room new nested)

theorem setNegated (h : tree.Sound) (id : NodeId) (negated : Bool) :
    ((Edit.setNegated id negated).apply tree).2.Sound := by
  cases found : tree.branch? id with
  | none =>
    rw [Edit.setNegated, Edit.apply_bind_error (Edit.apply_branch_error found)]
    exact h
  | some old =>
    rw [Edit.setNegated, Edit.apply_bind_ok (Edit.apply_branch_ok found)]
    split
    · next able =>
      exact h.modifyBranch found (Branch.ids_withNegated negated)
        (fun b => Branch.id_withNegated b negated) (by rw [Branch.node_withNegated])
        ((h.of_branch? found).withNegated fun _ => able)
    · exact h

/-- A payload that keeps the kind of its node keeps a tree sound. -/
theorem setNode (h : tree.Sound) (id : NodeId) (node : Node)
    (same : ∀ old, tree.node? id = some old → old.kind = node.kind) :
    ((Edit.setNode id node).apply tree).2.Sound := by
  have split : Edit.setNode id node = discard (Edit.branch id) >>= fun _ =>
      modify fun tree => tree.modifyBranch id (·.withNode node) := rfl
  rw [split]
  cases found : tree.branch? id with
  | none =>
    rw [Edit.apply_bind_error (Edit.apply_discard_error (Edit.apply_branch_error found))]
    exact h
  | some old =>
    rw [Edit.apply_bind_ok (Edit.apply_discard_ok (Edit.apply_branch_ok found))]
    have kept : old.node.kind = node.kind := same old.node (node?_of_branch? found)
    exact h.modifyBranch found (Branch.ids_withNode node) (fun b => Branch.id_withNode b node)
      (by rw [Branch.node_withNode]; exact kept.symm) ((h.of_branch? found).withNode kept)

end Sound

/-- The relation that sound trees lead to sound trees. -/
def KeepsSound (tree next : FilterTree) : Prop :=
  tree.Sound → next.Sound

theorem stepwise_sound : Edit.Stepwise KeepsSound where
  refl _ h := h
  trans _ _ _ one two h := two (one h)

theorem growing_sound : Edit.Growing KeepsSound where
  toStepwise := stepwise_sound
  add parent node := stepwise_sound.bind (stepwise_sound.branch parent) fun old _ h =>
    h.insertChild parent old.children.length node
  flag id negated _ h := h.setNegated id negated

/-- A copy of a sound tree keeps a tree sound: it is made in full, or not begun. -/
theorem Sound.graft {other : FilterTree} (h : tree.Sound) (sound : other.Sound) (parent : NodeId) :
    ((Edit.graft parent other).apply tree).2.Sound := by
  have parts := sound.parts
  rw [Edit.graft]
  generalize other.top = branch at parts
  rcases Edit.addChild_cases tree parent branch.node with ⟨fault, failed⟩ |
    ⟨old, found, room, nested⟩
  · obtain ⟨id, node, negated, children⟩ := branch
    have failed : (Edit.addChild parent node).apply tree = (.error fault, tree) := failed
    rw [Edit.graftBranch, Edit.apply_bind_error failed]
    exact h
  · obtain ⟨copy, next, run, growth, same⟩ :=
      Edit.graftBranch_grown parts nested h.wellFormed found room
    have kind : copy.node = branch.node := by
      rw [← Branch.node_unnamed, same, Branch.node_unnamed]
    rw [run]
    refine h.grown found growth (fun limit hmax => room limit hmax) ?_ ?_
    · exact List.forall_mem_singleton.mpr (parts.of_unnamed_eq same)
    · refine List.forall_mem_singleton.mpr ?_
      rw [kind]
      exact nested

theorem Sound.replaceChild (h : tree.Sound) (parent : NodeId) (index : Nat) (node : Node) :
    ((Edit.replaceChild parent index node).apply tree).2.Sound := by
  by_cases nested : node.kind = .root
  · rw [Edit.replaceChild, if_pos nested]
    exact h
  · rw [Edit.apply_replaceChild tree parent index nested]
    have first := (h.removeChild parent index).1
    cases run : (Edit.removeChild parent index).apply tree with
    | mk result mid =>
      rw [run] at first
      cases result with
      | ok removed => exact Sound.insertChild first parent index node
      | error fault => exact first

/-- What an edit returns does not matter to the tree that it leads to. -/
theorem sound_map {α β : Type} {edit : Edit α} (h : (edit.apply tree).2.Sound) (f : α → β) :
    ((f <$> edit).apply tree).2.Sound := by
  rw [Edit.apply_map]
  exact h

/-- A call that copies sound trees and keeps the kinds of nodes keeps a tree sound. -/
theorem Sound.after (h : tree.Sound) {call : Call} (sources : ∀ other ∈ call.sources, other.Sound)
    (allowed : call.Allowed Eq tree.node?) : (call.after tree).Sound := by
  cases call with
  | insert parent index node => exact sound_map (h.insertChild parent index node) _
  | add parent node => exact sound_map (growing_sound.add parent node tree h) _
  | remove parent index => exact sound_map (h.removeChild parent index).1 _
  | replace parent index node => exact sound_map (h.replaceChild parent index node) _
  | graft parent other => exact sound_map (h.graft (sources other List.mem_cons_self) parent) _
  | generate generator parent filter =>
    exact sound_map (generator.within_addFilter growing_sound parent filter tree h) _
  | setNegated id negated => exact sound_map (h.setNegated id negated) _
  | toggleNegated id => exact sound_map (growing_sound.toggleNegated id tree h) _
  | setNode id node => exact sound_map (h.setNode id node allowed) _

/-- Every tree that a caller can make is sound, if payloads keep the kinds of nodes. -/
theorem Reachable.sound (h : tree.Reachable Eq) : tree.Sound := by
  induction h with
  | withTop node => exact sound_withTop node
  | @subtree tree part id h made ih =>
    rw [FilterTree.subtree] at made
    split at made
    · next branch found =>
      obtain ⟨copy, same, sound, -⟩ := sound_ofBranch (ih.of_branch? found)
      rw [made] at same
      cases same
      exact sound
    · cases made
  | @removed tree next removed parent index h made ih =>
    exact (ih.removeChild parent index).2 removed (by rw [made])
  | call h sources allowed ih ihSources => exact ih.after ihSources allowed

end FilterTree

end EventSieve
