import EventSieve.Proofs.Removal

/-!
# Copies of branches

A branch in which every node fits its kind can be copied below a node that has room for it, and it
can be made a tree of its own. The copy is the branch with other identities.

## Main definitions

* `Branch.Sound` — every node of a branch fits its kind
* `Branch.unnamed` — a branch without its identities
* `Edit.Copies`, `Edit.CopiesAll` — an edit that adds copies of a branch, or of some branches

## Main statements

* `Branch.accepts_unnamed` — what a branch accepts does not depend on identities
* `Edit.graftBranch_grown` — a sound branch is copied where there is room for it
* `FilterTree.ofBranch_of_sound` — a sound branch is a tree of its own
-/
namespace EventSieve

open EventSieve.Tree (Node NodeKind NodeId Branch)
open FilterTree (Grown)

namespace Tree.Branch

/-! ## Sound branches -/

/-- A node that has no more children than its kind may have, no root below it, and no flag that its
kind cannot have. -/
structure Fits (branch : Branch) : Prop where
  room : ∀ limit, branch.node.kind.maxChildren? = some limit → branch.children.length ≤ limit
  nested : ∀ child ∈ branch.children, child.node.kind ≠ .root
  flag : branch.negated = true → branch.node.kind.canNegate = true

/-- Every node of a branch fits its kind. -/
def Sound (branch : Branch) : Prop :=
  ∀ part ∈ branch.preorder, part.Fits

variable {id : NodeId} {node : Node} {negated : Bool} {children : List Branch} {branch : Branch}

theorem sound_mk : (mk id node negated children).Sound ↔
    (mk id node negated children).Fits ∧ ∀ child ∈ children, child.Sound := by
  rw [Sound, preorder_mk, List.forall_mem_cons]
  refine and_congr_right fun _ => ⟨fun h child hchild part hpart => ?_, fun h part hpart => ?_⟩
  · exact h part (List.mem_flatMap.mpr ⟨child, hchild, hpart⟩)
  · obtain ⟨child, hchild, hpart⟩ := List.mem_flatMap.mp hpart
    exact h child hchild part hpart

theorem Sound.of_mem {part : Branch} (h : branch.Sound) (hpart : part ∈ branch.preorder) :
    part.Sound :=
  fun other hother => h other (mem_preorder_trans hother hpart)

/-! ## Branches without identities -/

mutual

/-- A branch without its identities. -/
def unnamed : Branch → Branch
  | mk _ node negated children => mk FilterTree.rootId node negated (unnamedAll children)

/-- Branches without their identities. -/
def unnamedAll : List Branch → List Branch
  | [] => []
  | branch :: rest => unnamed branch :: unnamedAll rest

end

theorem unnamedAll_eq (branches : List Branch) : unnamedAll branches = branches.map unnamed := by
  induction branches with
  | nil => rfl
  | cons b rest ih => rw [unnamedAll, ih, List.map_cons]

theorem unnamed_mk (id : NodeId) (node : Node) (negated : Bool) (children : List Branch) :
    (mk id node negated children).unnamed =
      .mk FilterTree.rootId node negated (children.map unnamed) := by
  rw [unnamed, unnamedAll_eq]

@[simp] theorem node_unnamed (branch : Branch) : branch.unnamed.node = branch.node := by
  obtain ⟨id, node, negated, children⟩ := branch
  rw [unnamed_mk]
  rfl

/-- Whether a node fits its kind does not depend on identities. -/
theorem sound_unnamed : branch.unnamed.Sound ↔ branch.Sound := by
  induction branch using Branch.induction with
  | mk id node negated children ih =>
    rw [unnamed_mk, sound_mk, sound_mk, List.forall_mem_map]
    refine and_congr ⟨fun h => ⟨?_, ?_, h.flag⟩, fun h => ⟨?_, ?_, h.flag⟩⟩ (forall₂_congr ih)
    · intro limit hmax
      simpa [Branch.children] using h.room limit hmax
    · intro child hchild
      have nested := h.nested child.unnamed (List.mem_map_of_mem hchild)
      rwa [node_unnamed] at nested
    · intro limit hmax
      simpa [Branch.children] using h.room limit hmax
    · intro child hchild
      obtain ⟨original, hmem, rfl⟩ := List.mem_map.mp hchild
      rw [node_unnamed]
      exact h.nested original hmem

/-- A copy of a sound branch is sound. -/
theorem Sound.of_unnamed_eq {copy : Branch} (h : branch.Sound)
    (same : copy.unnamed = branch.unnamed) : copy.Sound := by
  rw [← sound_unnamed, same, sound_unnamed]
  exact h

theorem allAccept_map_unnamed {event : Event} {branches : List Branch}
    (each : ∀ b ∈ branches, accepts event b.unnamed = accepts event b) :
    allAccept event (branches.map unnamed) = allAccept event branches := by
  induction branches with
  | nil => rfl
  | cons b rest ih =>
    obtain ⟨here, others⟩ := List.forall_mem_cons.mp each
    rw [List.map_cons, allAccept, allAccept, here, ih others]

theorem anyAccepts_map_unnamed {event : Event} {branches : List Branch}
    (each : ∀ b ∈ branches, accepts event b.unnamed = accepts event b) :
    anyAccepts event (branches.map unnamed) = anyAccepts event branches := by
  induction branches with
  | nil => rfl
  | cons b rest ih =>
    obtain ⟨here, others⟩ := List.forall_mem_cons.mp each
    rw [List.map_cons, anyAccepts, anyAccepts, here, ih others]

/-- What a branch accepts does not depend on identities. -/
theorem accepts_unnamed (event : Event) (branch : Branch) :
    branch.unnamed.accepts event = branch.accepts event := by
  induction branch using Branch.induction with
  | mk id node negated children ih =>
    rw [unnamed_mk]
    simp only [accepts, allAccept_map_unnamed ih, anyAccepts_map_unnamed ih]

end Tree.Branch

/-! ## Copies -/

/-- A node that may have some more children. -/
def Tree.Branch.HasRoomFor (branch : Branch) (count : Nat) : Prop :=
  ∀ limit, branch.node.kind.maxChildren? = some limit → branch.children.length + count ≤ limit

namespace Edit

variable {tree : FilterTree} {parent : NodeId} {old branch : Branch}

/-- An edit that adds a copy of a branch below a node. -/
def Copies (edit : Edit NodeId) (tree : FilterTree) (parent : NodeId) (branch : Branch) : Prop :=
  ∃ copy grown, edit.apply tree = (.ok copy.id, grown) ∧ Grown tree parent [copy] grown ∧
    copy.unnamed = branch.unnamed

/-- An edit that adds copies of some branches below a node. -/
def CopiesAll (edit : Edit Unit) (tree : FilterTree) (parent : NodeId) (branches : List Branch) :
    Prop :=
  ∃ copies grown, edit.apply tree = (.ok (), grown) ∧ Grown tree parent copies grown ∧
    copies.map Branch.unnamed = branches.map Branch.unnamed

theorem CopiesAll.nil (wf : tree.WellFormed) : CopiesAll (pure ()) tree parent [] :=
  ⟨[], tree, rfl, .refl wf parent, rfl⟩

/-- A copy of one branch and then copies of more branches below the same node. -/
theorem CopiesAll.cons {first : Edit NodeId} {rest : Edit Unit} {branch : Branch}
    {branches : List Branch} (h : first.Copies tree parent branch)
    (later : ∀ added grown, Grown tree parent [added] grown →
      rest.CopiesAll grown parent branches) :
    CopiesAll (do discard first; rest) tree parent (branch :: branches) := by
  obtain ⟨added, grown, run, growth, same⟩ := h
  obtain ⟨copies, last, runRest, growthRest, sameRest⟩ := later added grown growth
  refine ⟨added :: copies, last, ?_, growth.trans growthRest, ?_⟩
  · rw [apply_bind_ok (apply_discard_ok run), runRest]
  · rw [List.map_cons, List.map_cons, same, sameRest]

/-- Copies of branches are added one after the other. -/
theorem graftAll_grown {branches : List Branch}
    (each : ∀ b ∈ branches, ∀ {tree parent old}, tree.WellFormed →
      tree.branch? parent = some old → old.HasRoom → (graftBranch parent b).Copies tree parent b)
    (wf : tree.WellFormed) (found : tree.branch? parent = some old)
    (room : old.HasRoomFor branches.length) :
    (graftAll parent branches).CopiesAll tree parent branches := by
  induction branches generalizing tree old with
  | nil => exact .nil wf
  | cons b rest ih =>
    obtain ⟨here, others⟩ := List.forall_mem_cons.mp each
    have one : old.HasRoom := by
      intro limit hmax
      have enough := room limit hmax
      rw [List.length_cons] at enough
      omega
    refine CopiesAll.cons (here wf found one) fun copy next growth => ?_
    have later : (old.adopt [copy]).HasRoomFor rest.length := by
      intro limit hmax
      rw [Branch.node_adopt] at hmax
      have enough := room limit hmax
      rw [List.length_cons] at enough
      rw [Branch.adopt, Branch.children_withChildren, List.length_append, List.length_singleton]
      omega
    exact ih others growth.wellFormed (growth.branch?_parent wf found) later

/-- A sound branch is copied below a node that has room for it. -/
theorem graftBranch_grown (sound : branch.Sound) (nested : branch.node.kind ≠ .root)
    (wf : tree.WellFormed) (found : tree.branch? parent = some old) (room : old.HasRoom) :
    (graftBranch parent branch).Copies tree parent branch := by
  induction branch using Branch.induction generalizing tree parent old with
  | mk id node negated children ih =>
    obtain ⟨fits, below⟩ := Branch.sound_mk.mp sound
    have nested : node.kind ≠ .root := nested
    have known := FilterTree.mem_ids_of_branch? wf found
    obtain ⟨new, grown, run, growth⟩ := addChild_grown wf found room nested
    -- The flag is copied whatever the kind of the node, so it is not the flag of `setNegated`.
    have flagged : Grown tree parent [.mk new node negated []]
        (grown.modifyBranch new (·.withNegated negated)) :=
      growth.change wf known rfl rfl
        (growth.wellFormed.modifyBranch new (Branch.ids_withNegated negated))
    have there : (grown.modifyBranch new (·.withNegated negated)).branch? new =
        some (.mk new node negated []) :=
      flagged.branch?_new known List.mem_cons_self (Branch.mem_preorder_self _)
    have enough : (Branch.mk new node negated []).HasRoomFor children.length := by
      intro limit hmax
      have := fits.room limit hmax
      simpa [Branch.children] using this
    obtain ⟨copies, last, runAll, growthAll, same⟩ := graftAll_grown
      (fun b hb _ _ _ => ih b hb (below b hb) (fits.nested b hb)) flagged.wellFormed there enough
    refine ⟨.mk new node negated copies, last, ?_, flagged.below wf known growthAll, ?_⟩
    · rw [graftBranch, apply_bind_ok run, copyFlag, apply_bind_ok (apply_modify _ _)]
      rw [apply_bind_ok runAll, apply_pure]
      rfl
    · rw [Branch.unnamed_mk, Branch.unnamed_mk, same]

end Edit

namespace FilterTree

/-- A sound branch is a tree of its own, and nothing else is in the tree. -/
theorem ofBranch_of_sound {branch : Branch} (sound : branch.Sound) :
    ∃ tree, ofBranch branch = .ok tree ∧ tree.WellFormed ∧ tree.strays = [] ∧
      tree.top.id = rootId ∧ tree.top.unnamed = branch.unnamed := by
  obtain ⟨id, node, negated, children⟩ := branch
  obtain ⟨fits, below⟩ := Branch.sound_mk.mp sound
  have start := wellFormed_withTop_withNegated node negated
  have found : ({ withTop node with
      top := (withTop node).top.withNegated negated } : FilterTree).branch? rootId =
        some (.mk rootId node negated []) := rfl
  have enough : (Branch.mk rootId node negated []).HasRoomFor children.length := by
    intro limit hmax
    have := fits.room limit hmax
    simpa [Branch.children] using this
  obtain ⟨copies, tree, run, growth, same⟩ := Edit.graftAll_grown
    (fun b hb _ _ _ => Edit.graftBranch_grown (below b hb) (fits.nested b hb)) start found enough
  have top : tree.top = .mk rootId node negated copies := by
    rw [growth.top]
    exact Branch.modify_mk_self rootId (.adopt copies) node negated []
  have run : (Edit.graftAll rootId children).run.run { withTop node with
      top := (withTop node).top.withNegated negated } = (.ok (), tree) := run
  refine ⟨tree, ?_, growth.wellFormed, growth.strays, ?_, ?_⟩
  · simp only [ofBranch, Branch.node, Branch.negated, Branch.children, run]
  · rw [top]
    rfl
  · rw [top, Branch.unnamed_mk, Branch.unnamed_mk, same]

end FilterTree

end EventSieve
