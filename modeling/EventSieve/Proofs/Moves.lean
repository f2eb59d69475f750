import EventSieve.Proofs.Effects
import EventSieve.Tree.Outline

/-!
# Copies and moves

A branch as a tree of its own, and a tree that is copied below a node, have the shape of what they
were made of: only identities differ. So a child that is taken out and copied back has moved to the end
of its siblings, and nothing else has changed.

## Main definitions

* `FilterTree.shape?` — the branch of an identity without identities
* `Branch.moveLast` — a branch with a child moved to the end

## Main statements

* `Branch.outline_unnamed` — identities do not matter
* `FilterTree.Sound.subtree`, `FilterTree.Sound.copied`, `FilterTree.Sound.moved` — what keeps its
  shape
* `FilterTree.shapes_of_reachable` — the same of trees that a caller can make
-/
namespace EventSieve

open EventSieve.Tree (Node NodeKind NodeId Branch)
open FilterTree (rootId)

namespace Tree.Branch

/-! ## What does not depend on identities -/

theorem outlineAll_map_unnamed {branches : List Branch}
    (each : ∀ b ∈ branches, ∀ depth, b.unnamed.outline depth = b.outline depth) (depth : Nat) :
    outlineAll depth (branches.map unnamed) = outlineAll depth branches := by
  induction branches with
  | nil => rfl
  | cons b rest ih =>
    obtain ⟨here, others⟩ := List.forall_mem_cons.mp each
    rw [List.map_cons, outlineAll, outlineAll, here, ih others]

/-- The lines of a branch do not depend on identities. -/
theorem outline_unnamed (depth : Nat) (branch : Branch) :
    branch.unnamed.outline depth = branch.outline depth := by
  induction branch using Branch.induction generalizing depth with
  | mk id node negated children ih =>
    rw [unnamed_mk, outline, outline, outlineAll_map_unnamed ih]

theorem unnamed_withChildren (branch : Branch) (children : List Branch) :
    (branch.withChildren children).unnamed =
      branch.unnamed.withChildren (children.map unnamed) := by
  obtain ⟨id, node, negated, old⟩ := branch
  rw [withChildren, unnamed_mk, unnamed_mk, withChildren]

theorem withChildren_withChildren (branch : Branch) (one other : List Branch) :
    (branch.withChildren one).withChildren other = branch.withChildren other := by
  cases branch
  rfl

/-- Changes at one identity that lead to the same shape there lead to the same shape. -/
theorem unnamed_modify_congr {target : NodeId} {change other : Branch → Branch} {branch : Branch}
    (same : ∀ b ∈ branch.preorder, b.id = target → (change b).unnamed = (other b).unnamed) :
    (branch.modify target change).unnamed = (branch.modify target other).unnamed := by
  induction branch using Branch.induction with
  | mk id node negated children ih =>
    by_cases here : id = target
    · subst here
      rw [modify_mk_self, modify_mk_self]
      exact same _ (mem_preorder_self _) rfl
    · rw [modify_mk_of_ne here, modify_mk_of_ne here, unnamed_mk, unnamed_mk, List.map_map,
        List.map_map]
      congr 1
      refine List.map_congr_left fun child hchild => ih child hchild fun b hb => same b ?_
      exact mem_preorder_below hchild hb

/-- The branch in which the child at a place stands after its siblings. -/
def moveLast (index : Nat) (branch : Branch) : Branch :=
  branch.withChildren (branch.children.eraseIdx index ++ branch.children[index]?.toList)

end Tree.Branch

namespace FilterTree

/-- The branch of an identity without identities: its nodes and flags, in their order. -/
def shape? (tree : FilterTree) (id : NodeId) : Option Branch :=
  (tree.branch? id).map Branch.unnamed

variable {tree other part next : FilterTree} {id parent : NodeId} {branch child old : Branch}

theorem shape?_of_branch? (found : tree.branch? id = some branch) :
    tree.shape? id = some branch.unnamed := by
  rw [shape?, found, Option.map_some]

/-- Branches of one shape accept the same events. -/
theorem acceptsFrom_congr {place : NodeId} (same : next.shape? place = tree.shape? id)
    (event : Event) : next.acceptsFrom place event = tree.acceptsFrom id event := by
  have accepted (tree : FilterTree) (id : NodeId) :
      tree.acceptsFrom id event = ((tree.shape? id).map (·.accepts event)).getD false := by
    rw [acceptsFrom, shape?, Option.map_map]
    congr 2
    exact funext fun b => (b.accepts_unnamed event).symm
  rw [accepted, accepted, same]

namespace Sound

variable (h : tree.Sound)

include h

theorem shape?_rootId : tree.shape? rootId = some tree.top.unnamed :=
  shape?_of_branch? h.branch?_rootId

/-- A branch as a tree of its own has the shape of the branch. -/
theorem subtree (live : tree.isLive id = true) :
    ∃ part, tree.subtree id = .ok part ∧ part.Sound ∧ part.shape? rootId = tree.shape? id := by
  obtain ⟨branch, found⟩ := exists_branch?_of_isLive live
  obtain ⟨part, made, sound, same⟩ := sound_ofBranch (h.of_branch? found)
  refine ⟨part, ?_, sound, ?_⟩
  · rw [FilterTree.subtree, found]
    exact made
  · rw [sound.shape?_rootId, same, shape?_of_branch? found]

/-- A tree that is taken out is the child at the place as a tree of its own. -/
theorem subtree_of_removeChild {index : Nat} {removed : FilterTree}
    (taken : ((Edit.removeChild parent index).apply tree).1 = .ok removed) :
    ∃ child, tree.child? parent index = some child ∧ tree.subtree child = .ok removed := by
  rcases Edit.removeChild_cases tree parent index with ⟨fault, run⟩ |
    ⟨old, child, found, there, ⟨fault, -, run⟩ | ⟨part, made, run⟩⟩
  · rw [run] at taken
    cases taken
  · rw [run] at taken
    cases taken
  · rw [run] at taken
    cases taken
    refine ⟨child.id, child?_of_branch? found there, ?_⟩
    rw [FilterTree.subtree, branch?_child h.wellFormed found (List.mem_of_getElem? there)]
    exact made

/-- A copy of a tree below a node has the shape of the tree. -/
theorem copied (sound : other.Sound) (nested : other.top.node.kind ≠ .root)
    (live : tree.isLive parent = true) (room : ¬tree.IsFull parent) :
    ∃ id next, (Edit.graft parent other).apply tree = (.ok id, next) ∧ next.Sound ∧
      next.isLive id = true ∧ next.shape? id = other.shape? rootId := by
  obtain ⟨old, found⟩ := exists_branch?_of_isLive live
  rw [isFull_iff found, not_not] at room
  obtain ⟨copy, next, run, soundNext, -, there, same⟩ := h.apply_graft sound found room nested
  refine ⟨copy.id, next, run, soundNext, ?_, ?_⟩
  · rw [isLive, there]
    rfl
  · rw [shape?_of_branch? there, sound.shape?_rootId, same]

/-- A child that is taken out and copied back has moved to the end of its siblings, and nothing else
has changed. -/
theorem moved {index : Nat} (live : tree.isLive parent = true)
    (inside : index < (tree.children parent).length) :
    ∃ removed mid id last, (Edit.removeChild parent index).apply tree = (.ok removed, mid) ∧
      (Edit.graft parent removed).apply mid = (.ok id, last) ∧
      last.children parent = (tree.children parent).eraseIdx index ++ [id] ∧
      last.shape? rootId = some (tree.top.modify parent (.moveLast index)).unnamed ∧
      last.outline = (tree.top.modify parent (.moveLast index)).outline 0 := by
  obtain ⟨old, found⟩ := exists_branch?_of_isLive live
  have bound : index < old.children.length := by
    rwa [children_of_branch? found, List.length_map] at inside
  have there := List.getElem?_eq_getElem bound
  obtain ⟨removed, whole, sameRemoved, run⟩ := h.apply_removeChild found bound
  have soundMid := (h.removeChild parent index).1
  rw [run] at soundMid
  have cut := (release_parts (tree.cut parent index old.children[index]) old.children[index]).1
  have gone := h.edited_eraseIdx soundMid found there cut
  have room := gone.not_isFull h.consistent inside
  obtain ⟨left, foundLeft⟩ := exists_branch?_of_isLive gone.parent_live
  rw [isFull_iff foundLeft, not_not] at room
  have nested : removed.top.node.kind ≠ .root := by
    rw [← Branch.node_unnamed, sameRemoved, Branch.node_unnamed]
    have fits := h.of_branch? found old old.mem_preorder_self
    exact fits.nested _ (List.getElem_mem bound)
  obtain ⟨copy, last, again, soundLast, growth, -, sameCopy⟩ :=
    soundMid.apply_graft whole foundLeft room nested
  have came := soundMid.edited_adopt soundLast foundLeft growth.top
  have top : last.top.unnamed = (tree.top.modify parent (.moveLast index)).unnamed := by
    rw [growth.top, cut]
    show (Branch.modify parent _ (Branch.modify parent _ tree.top)).unnamed = _
    rw [Branch.modify_modify (fun b => Branch.id_withChildren b _)]
    refine Branch.unnamed_modify_congr fun b mem same => ?_
    have isOld := h.branch?_iff.mpr ⟨mem, same⟩
    rw [found] at isOld
    cases isOld
    rw [Function.comp, Branch.adopt, Branch.children_withChildren,
      Branch.withChildren_withChildren, Branch.moveLast, there, Option.toList_some,
      Branch.unnamed_withChildren, Branch.unnamed_withChildren, List.map_append, List.map_append,
      List.map_singleton, List.map_singleton, sameCopy, sameRemoved]
  refine ⟨removed, _, copy.id, last, run, again, ?_, ?_, ?_⟩
  · rw [came.children_parent, gone.children_parent]
  · rw [soundLast.shape?_rootId, top]
  · rw [outline, ← Branch.outline_unnamed, top, Branch.outline_unnamed]

end Sound

/-- Copies and moves in trees that a caller can make, with payloads that keep the kinds of nodes. A
branch as a tree of its own has the shape of the branch and accepts what it accepts; a tree that is
taken out is the child as a tree of its own; a copy of a tree has the shape of the tree and accepts
what it accepts; and a child that is taken out and copied back has moved to the end of its siblings,
and nothing else has changed. -/
theorem shapes_of_reachable (reached : tree.Reachable Eq) (reachedOther : other.Reachable Eq) :
    (∀ id, tree.isLive id = true → ∃ part, tree.subtree id = .ok part ∧
        part.shape? rootId = tree.shape? id ∧
        ∀ event, part.accepts event = tree.acceptsFrom id event) ∧
      (∀ parent index removed, ((Edit.removeChild parent index).apply tree).1 = .ok removed →
        ∃ child, tree.child? parent index = some child ∧ tree.subtree child = .ok removed) ∧
      (∀ parent, other.top.node.kind ≠ .root → tree.isLive parent = true → ¬tree.IsFull parent →
        ∃ id next part, (Edit.graft parent other).apply tree = (.ok id, next) ∧
          next.subtree id = .ok part ∧ part.shape? rootId = other.shape? rootId ∧
          ∀ event, next.acceptsFrom id event = other.accepts event) ∧
      ∀ parent index, tree.isLive parent = true → index < (tree.children parent).length →
        ∃ removed mid id last, (Edit.removeChild parent index).apply tree = (.ok removed, mid) ∧
          (Edit.graft parent removed).apply mid = (.ok id, last) ∧
          last.children parent = (tree.children parent).eraseIdx index ++ [id] ∧
          last.shape? rootId = some (tree.top.modify parent (.moveLast index)).unnamed ∧
          last.outline = (tree.top.modify parent (.moveLast index)).outline 0 := by
  have h := reached.sound
  refine ⟨fun id live => ?_, fun parent index removed taken => ?_,
    fun parent nested live room => ?_, fun parent index live inside => h.moved live inside⟩
  · obtain ⟨part, made, -, same⟩ := h.subtree live
    exact ⟨part, made, same, fun event => acceptsFrom_congr same event⟩
  · exact h.subtree_of_removeChild taken
  · obtain ⟨id, next, run, sound, there, same⟩ := h.copied reachedOther.sound nested live room
    obtain ⟨part, made, -, samePart⟩ := sound.subtree there
    exact ⟨id, next, part, run, made, samePart.trans same,
      fun event => acceptsFrom_congr same event⟩

/-- A negated node is copied as a tree of its own and then moved behind a gate. -/
theorem shapes_of_reachable_gate :
    let calls : List Call :=
      [.add rootId .or, .setNegated ⟨1, 0⟩ true, .add ⟨1, 0⟩ .and,
        .add rootId (.traceTypeGate "ust")]
    let tree := FilterTree.empty.afterAll calls
    let other := Call.after (.add rootId .and) (FilterTree.withTop .or)
    tree.Reachable Eq ∧ other.Reachable Eq ∧
      (∃ part, tree.subtree ⟨1, 0⟩ = .ok part ∧
        ((Edit.removeChild rootId 0).apply tree).1 = .ok part ∧
        ∀ event, part.accepts event = tree.acceptsFrom ⟨1, 0⟩ event) ∧
      (∃ id next, (Edit.graft ⟨3, 0⟩ other).apply tree = (.ok id, next) ∧
        ∀ event, next.acceptsFrom id event = other.accepts event) ∧
      ∃ removed mid id last, (Edit.removeChild rootId 0).apply tree = (.ok removed, mid) ∧
        (Edit.graft rootId removed).apply mid = (.ok id, last) ∧
        last.children rootId = [⟨3, 0⟩, id] ∧
        last.outline = "Root\n  TraceType ust\n  NOT Or\n    And\n" := by
  intro calls tree other
  have one : (FilterTree.empty.afterAll (calls.take 1)).Reachable Eq :=
    .call (.withTop .root) nofun trivial
  have two : (FilterTree.empty.afterAll (calls.take 2)).Reachable Eq := .call one nofun trivial
  have three : (FilterTree.empty.afterAll (calls.take 3)).Reachable Eq := .call two nofun trivial
  have reached : tree.Reachable Eq := .call three nofun trivial
  have reachedOther : other.Reachable Eq := .call (.withTop .or) nofun trivial
  obtain ⟨parts, taken, copies, moves⟩ := shapes_of_reachable reached reachedOther
  obtain ⟨part, made, -, accepts⟩ := parts ⟨1, 0⟩ (by decide +kernel)
  have gate : ¬tree.IsFull ⟨3, 0⟩ := by
    have listed : tree.children ⟨3, 0⟩ = [] := by decide +kernel
    have kind : (tree.node? ⟨3, 0⟩).map Node.kind = some .traceTypeGate := by decide +kernel
    rintro ⟨node, limit, found, hmax, full⟩
    rw [found] at kind
    rw [Option.some.inj kind] at hmax
    rw [listed, ← Option.some.inj hmax] at full
    exact absurd full (by decide)
  obtain ⟨id, next, -, copied, -, -, copyAccepts⟩ :=
    copies ⟨3, 0⟩ (by decide +kernel) (by decide +kernel) gate
  have first : 0 < (tree.children rootId).length := by decide +kernel
  obtain ⟨removed, mid, place, last, run, again, listed, -, lines⟩ :=
    moves rootId 0 (by decide +kernel) first
  obtain ⟨child, there, same⟩ := taken rootId 0 removed (by rw [run])
  have isChild : tree.child? rootId 0 = some ⟨1, 0⟩ := by decide +kernel
  rw [isChild] at there
  cases there
  rw [made] at same
  cases same
  have others : (tree.children rootId).eraseIdx 0 = [⟨3, 0⟩] := by decide +kernel
  rw [others] at listed
  exact ⟨reached, reachedOther, ⟨part, made, by rw [run], accepts⟩, ⟨id, next, copied, copyAccepts⟩,
    part, mid, place, last, run, again, listed, lines.trans (by decide +kernel)⟩

end FilterTree

end EventSieve
