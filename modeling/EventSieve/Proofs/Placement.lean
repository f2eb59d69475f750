import EventSieve.Proofs.Generation
import EventSieve.Proofs.Staleness

/-!
# Filters placed in trees

A filter is placed in a tree as one node after the children of another one. Where there is no room
for it, or nothing to place it below, the tree stays as it is. Where there is, all other nodes stay
as they were, and the new node decides as the tree of the filter does.

## Main definitions

* `FilterTree.IsFull` — a node that has as many children as its kind may have
* `FilterTree.Placed` — a tree after one node, with what is below it, has been placed in it

## Main statements

* `FilterTree.Grown.placed` — a branch that is adopted is placed
* `Generator.addFilter_local` — what placing a filter changes, and when it fails
-/
namespace EventSieve

open EventSieve.Tree (Node NodeKind NodeId Branch)
open FilterTree (Grown rootId)

namespace Tree.Branch

variable {parent child : NodeId} {new : List Branch} {branch : Branch}

/-! ## Parents -/

/-- The identity of the parent of an identity in a branch. -/
def parentId? (child : NodeId) (branch : Branch) : Option NodeId :=
  (branch.parentOf? child).map (·.id)

/-- The parent of an identity in a branch is its top, or is found below it. -/
theorem parentId?_mk (id : NodeId) (node : Node) (negated : Bool) (children : List Branch) :
    (mk id node negated children).parentId? child =
      if child ∈ children.map (·.id) then some id else children.findSome? (parentId? child) := by
  have lists : children.any (·.id == child) = decide (child ∈ children.map (·.id)) := by
    simp [List.any_eq, List.mem_map]
  rw [parentId?, parentOf?, preorder_mk, List.find?_cons]
  simp only [Branch.children, lists]
  by_cases here : child ∈ children.map (·.id)
  · rw [if_pos here, decide_eq_true here]
    rfl
  · rw [if_neg here, decide_eq_false here, List.find?_flatMap, List.map_findSome?]
    rfl

theorem parentId?_eq_none (absent : child ∉ branch.ids) : branch.parentId? child = none := by
  rw [parentId?, parentOf?_eq_none absent, Option.map_none]

theorem findSome?_parentId? {branches : List Branch} (absent : child ∉ branches.flatMap ids) :
    branches.findSome? (parentId? child) = none := by
  rw [List.findSome?_eq_none_iff]
  exact fun b hb => parentId?_eq_none fun mem => absent (List.mem_flatMap.mpr ⟨b, hb, mem⟩)

theorem map_id_subset (branches : List Branch) : branches.map (·.id) ⊆ branches.flatMap ids := by
  intro id mem
  obtain ⟨b, hb, rfl⟩ := List.mem_map.mp mem
  exact List.mem_flatMap.mpr ⟨b, hb, b.id_mem_ids⟩

theorem findSome?_parentId?_modify {branches : List Branch}
    (each : ∀ b ∈ branches, (b.modify parent (adopt new)).parentId? child = b.parentId? child) :
    (branches.map (modify parent (adopt new))).findSome? (parentId? child) =
      branches.findSome? (parentId? child) := by
  rw [List.findSome?_map, ← List.head?_filterMap, ← List.head?_filterMap]
  exact congrArg List.head? (List.filterMap_congr each)

/-- Whoever is not adopted keeps its parent. -/
theorem parentId?_modify_adopt (old : child ∉ new.flatMap ids) (branch : Branch) :
    (branch.modify parent (adopt new)).parentId? child = branch.parentId? child := by
  induction branch using Branch.induction with
  | mk id node negated children ih =>
    by_cases here : id = parent
    · subst here
      have same : child ∈ (children ++ new).map (·.id) ↔ child ∈ children.map (·.id) := by
        rw [List.map_append, List.mem_append, or_iff_left]
        exact fun mem => old (map_id_subset new mem)
      rw [modify_mk_self, adopt_mk, parentId?_mk, parentId?_mk, List.findSome?_append,
        findSome?_parentId? old, Option.or_none]
      simp only [same]
    · rw [modify_mk_of_ne here, parentId?_mk, parentId?_mk, map_id_modify (id_adopt new),
        findSome?_parentId?_modify ih]

/-- Of branches in which an identity is unknown, those that have a parent for it after an adoption
have the one that adopts it. -/
theorem findSome?_parentId?_adopted {branches : List Branch}
    (each : ∀ b ∈ branches, parent ∈ b.ids →
      (b.modify parent (adopt new)).parentId? child = some parent)
    (absent : child ∉ branches.flatMap ids) (known : parent ∈ branches.flatMap ids) :
    (branches.map (modify parent (adopt new))).findSome? (parentId? child) = some parent := by
  induction branches with
  | nil => simp at known
  | cons b rest ih =>
    rw [List.flatMap_cons, List.mem_append] at known
    rw [List.flatMap_cons, List.mem_append, not_or] at absent
    rw [List.map_cons, List.findSome?_cons]
    by_cases here : parent ∈ b.ids
    · rw [each b List.mem_cons_self here]
    · rw [modify_of_notMem here, parentId?_eq_none absent.1]
      exact ih (fun c hc => each c (List.mem_cons_of_mem _ hc)) absent.2 (known.resolve_left here)

/-- Whoever is adopted has the parent that adopts it. -/
theorem parentId?_adopted (adopted : child ∈ new.map (·.id)) (absent : child ∉ branch.ids)
    (known : parent ∈ branch.ids) :
    (branch.modify parent (adopt new)).parentId? child = some parent := by
  induction branch using Branch.induction with
  | mk id node negated children ih =>
    rw [ids_mk, List.mem_cons, not_or] at absent
    by_cases here : id = parent
    · subst here
      rw [modify_mk_self, adopt_mk, parentId?_mk, if_pos]
      rw [List.map_append]
      exact List.mem_append_right _ adopted
    · rw [ids_mk, List.mem_cons] at known
      rw [modify_mk_of_ne here, parentId?_mk, map_id_modify (id_adopt new), if_neg]
      · refine findSome?_parentId?_adopted (fun b hb mem => ih b hb (fun inside => ?_) mem) absent.2
          (known.resolve_left (Ne.symm here))
        exact absent.2 (List.mem_flatMap.mpr ⟨b, hb, inside⟩)
      · exact fun mem => absent.2 (map_id_subset children mem)

end Tree.Branch

namespace FilterTree

/-- A node that has as many children as nodes of its kind may have. -/
def IsFull (tree : FilterTree) (id : NodeId) : Prop :=
  ∃ node limit, tree.node? id = some node ∧ node.kind.maxChildren? = some limit ∧
    limit ≤ (tree.children id).length

/-- A tree after a node has been placed below another one: the node, and what is below it, is new,
it stands after the other children, and everything else is as it was. -/
structure Placed (tree : FilterTree) (parent id : NodeId) (next : FilterTree) : Prop where
  new : tree.isLive id = false
  there : next.isLive id = true
  below : next.parent? id = some parent
  last : next.children parent = tree.children parent ++ [id]
  live : ∀ other, next.isLive other = true ↔
    tree.isLive other = true ∨ other ∈ next.descendants id
  node : ∀ other, tree.isLive other = true → next.node? other = tree.node? other
  flag : ∀ other, tree.isLive other = true → next.isNegated other = tree.isNegated other
  parents : ∀ other, tree.isLive other = true → next.parent? other = tree.parent? other
  children : ∀ other, tree.isLive other = true → other ≠ parent →
    next.children other = tree.children other

variable {tree grown : FilterTree} {parent id : NodeId} {branch added : Branch}

theorem parent?_eq (tree : FilterTree) (id : NodeId) :
    tree.parent? id = (tree.branches.findSome? (Branch.parentId? id)).or
      ((tree.strays.find? (·.2.id == id)).map Prod.fst) := by
  have same : tree.branches.findSome? (Branch.parentId? id) =
      (tree.branches.findSome? (·.parentOf? id)).map (·.id) := by
    rw [List.map_findSome?]
    rfl
  rw [parent?, same]
  cases tree.branches.findSome? (·.parentOf? id) <;> rfl

theorem exists_branch?_of_isLive (live : tree.isLive id = true) :
    ∃ branch, tree.branch? id = some branch :=
  Option.isSome_iff_exists.mp live

/-- A node is full unless it has room for one more child. -/
theorem isFull_iff (found : tree.branch? id = some branch) :
    tree.IsFull id ↔ ¬branch.HasRoom := by
  rw [IsFull, node?_of_branch? found, children_of_branch? found, Branch.HasRoom]
  simp only [Option.some.injEq, List.length_map, not_forall, Nat.not_lt, exists_prop]
  constructor
  · rintro ⟨_, limit, rfl, hmax, full⟩
    exact ⟨limit, hmax, full⟩
  · rintro ⟨limit, hmax, full⟩
    exact ⟨_, limit, rfl, hmax, full⟩

namespace Grown

/-- Whoever is not adopted keeps its parent, also one whose parent is only on record as the one
that it was cut off from. -/
theorem parent?_old {new : List Branch} (h : Grown tree parent new grown)
    (old : id ∉ new.flatMap Branch.ids) : grown.parent? id = tree.parent? id := by
  have inside : grown.branches.findSome? (Branch.parentId? id) =
      tree.branches.findSome? (Branch.parentId? id) := by
    rw [h.branches]
    exact Branch.findSome?_parentId?_modify fun b _ => Branch.parentId?_modify_adopt old b
  have outside : (grown.strays.find? (·.2.id == id)).map Prod.fst =
      (tree.strays.find? (·.2.id == id)).map Prod.fst := by
    have same : ((fun stray : NodeId × Branch => stray.2.id == id) ∘ fun stray : NodeId × Branch =>
        (stray.1, stray.2.modify parent (.adopt new))) = (·.2.id == id) :=
      funext fun stray => by simp [Branch.id_modify (Branch.id_adopt new)]
    rw [h.strays, List.find?_map, same, Option.map_map]
    rfl
  rw [parent?_eq, parent?_eq, inside, outside]

/-- A branch that is adopted is placed below the node that adopts it. -/
theorem placed (h : Grown tree parent [added] grown) (wf : tree.WellFormed)
    (known : parent ∈ tree.ids) : Placed tree parent added.id grown := by
  have perm := h.ids_perm wf known
  have fresh : added.id ∉ tree.ids := h.fresh wf known (by simpa using added.id_mem_ids)
  have there : grown.branch? added.id = some added :=
    h.branch?_new known List.mem_cons_self added.mem_preorder_self
  obtain ⟨owner, found⟩ := exists_branch?_of_isLive ((isLive_iff wf).mpr known)
  refine ⟨?_, by rw [FilterTree.isLive, there]; rfl, ?_, ?_, fun other => ?_,
    fun other live => ?_, fun other live => ?_, fun other live => ?_, fun other live apart => ?_⟩
  · rw [← Bool.not_eq_true, isLive_iff wf]
    exact fresh
  · have inside : grown.branches.findSome? (Branch.parentId? added.id) = some parent := by
      rw [h.branches]
      refine Branch.findSome?_parentId?_adopted (fun b hb mem => ?_) fresh known
      refine Branch.parentId?_adopted (by simp) (fun inside => fresh ?_) mem
      exact List.mem_flatMap.mpr ⟨b, hb, inside⟩
    rw [parent?_eq, inside, Option.some_or]
  · rw [children_of_branch? (h.branch?_parent wf found), children_of_branch? found, Branch.adopt,
      Branch.children_withChildren, List.map_append, List.map_singleton]
  · rw [isLive_iff wf, isLive_iff h.wellFormed, perm.mem_iff, List.mem_append,
      descendants_of_branch? there, List.flatMap_singleton]
  · obtain ⟨branch, old⟩ := exists_branch?_of_isLive live
    rw [node?_of_branch? old, node?_of_branch? (h.branch?_old wf old),
      Branch.node_modify (Branch.node_adopt _)]
  · obtain ⟨branch, old⟩ := exists_branch?_of_isLive live
    rw [isNegated_of_branch? old, isNegated_of_branch? (h.branch?_old wf old),
      Branch.negated_modify (Branch.negated_adopt _)]
  · exact h.parent?_old fun mem => h.fresh wf known mem ((isLive_iff wf).mp live)
  · obtain ⟨branch, old⟩ := exists_branch?_of_isLive live
    obtain ⟨-, rfl⟩ := (branch?_eq_some_iff wf).mp old
    rw [children_of_branch? old, children_of_branch? (h.branch?_old wf old),
      Branch.childIds_modify (Branch.id_adopt _) apart]

end Grown

end FilterTree

namespace Generator

variable {tree : FilterTree} {parent : NodeId}

/-- A node that is full gets no filter, and the tree stays as it is. -/
theorem apply_addFilter_full (generator : Generator) {old : Branch}
    (found : tree.branch? parent = some old) (full : ¬old.HasRoom) (filter : Filter) :
    ∃ fault, (generator.addFilter parent filter).apply tree = (.error fault, tree) := by
  simp only [Branch.HasRoom, not_forall] at full
  obtain ⟨limit, hmax, full⟩ := full
  refine ⟨.tooManyChildren old.node.kind limit,
    generator.apply_addFilter_refused (fun node nested => ?_) filter⟩
  rw [Edit.addChild, Edit.apply_bind_ok (Edit.apply_branch_ok found)]
  exact Edit.apply_insertChild_full found hmax (Nat.le_of_not_lt full) _ nested

/-- A filter is placed as one node after the children of another one, which decides as the tree of
the filter does, unless that other node is unknown or full. Then the tree stays as it is. -/
theorem addFilter_local {mayBecome : NodeKind → NodeKind → Prop}
    (reached : tree.Reachable mayBecome) (generator : Generator) (parent : NodeId)
    (filter : Filter) :
    let outcome := (generator.addFilter parent filter).apply tree
    ((∃ fault, outcome.1 = .error fault) ↔ tree.isLive parent = false ∨ tree.IsFull parent) ∧
    (∀ fault, outcome.1 = .error fault → outcome.2 = tree) ∧
    ∀ id, outcome.1 = .ok id → tree.Placed parent id outcome.2 ∧
      ∀ event, outcome.2.acceptsFrom id event = (generator.tree filter).accepts event := by
  intro outcome
  have wf := reached.wellFormed
  cases found : tree.branch? parent with
  | none =>
    have run : outcome = (.error (.unknownNode parent), tree) :=
      generator.apply_addFilter_unknown found filter
    have dead : tree.isLive parent = false := by rw [FilterTree.isLive, found]; rfl
    rw [run]
    exact ⟨⟨fun _ => .inl dead, fun _ => ⟨_, rfl⟩⟩, fun _ _ => rfl, fun _ given => by cases given⟩
  | some old =>
    have live : tree.isLive parent = true := by rw [FilterTree.isLive, found]; rfl
    rw [FilterTree.isFull_iff found, live]
    by_cases room : old.HasRoom
    · obtain ⟨added, grown, run, growth, accepts⟩ := generator.addFilter_adds filter wf found room
      have run : outcome = (.ok added.id, grown) := run
      have known := FilterTree.mem_ids_of_branch? wf found
      rw [run]
      refine ⟨⟨?_, ?_⟩, ?_, ?_⟩
      · rintro ⟨_, ⟨⟩⟩
      · rintro (dead | full)
        · cases dead
        · exact absurd room full
      · rintro _ ⟨⟩
      · rintro _ ⟨⟩
        refine ⟨growth.placed wf known, fun event => ?_⟩
        have there : grown.branch? added.id = some added :=
          growth.branch?_new known List.mem_cons_self added.mem_preorder_self
        rw [FilterTree.acceptsFrom_of_branch? there, accepts, accepts_tree]
    · obtain ⟨fault, run⟩ := generator.apply_addFilter_full found room filter
      have run : outcome = (.error fault, tree) := run
      rw [run]
      exact ⟨⟨fun _ => .inr room, fun _ => ⟨_, rfl⟩⟩, fun _ _ => rfl, fun _ given => by cases given⟩

/-- Below a gate, in a place that is used again: a negated filter of two clauses is placed, and then
the gate is full. -/
theorem addFilter_local_gate :
    let calls : List Call :=
      [.add rootId (.traceTypeGate "ust"), .add ⟨1, 0⟩ .or, .remove ⟨1, 0⟩ 0]
    let tree := FilterTree.empty.afterAll calls
    let filter : Filter := {
      clauses := [{ left := .anywhere "read" }, { left := .anywhere "write" }], negated := true }
    let next := Call.after (.generate {} ⟨1, 0⟩ filter) tree
    (tree.Reachable fun _ _ => True) ∧ (next.Reachable fun _ _ => True) ∧
      tree.Placed ⟨1, 0⟩ ⟨2, 1⟩ next ∧
      (∀ event, next.acceptsFrom ⟨2, 1⟩ event = (({} : Generator).tree filter).accepts event) ∧
      ∃ fault, (({} : Generator).addFilter ⟨1, 0⟩ filter).apply next = (.error fault, next) := by
  intro calls tree filter next
  have one : (FilterTree.empty.afterAll (calls.take 1)).Reachable fun _ _ => True :=
    .call (.withTop .root) nofun trivial
  have two : (FilterTree.empty.afterAll (calls.take 2)).Reachable fun _ _ => True :=
    .call one nofun trivial
  have reached : tree.Reachable fun _ _ => True := .call two nofun trivial
  have reachedNext : next.Reachable fun _ _ => True := .call reached nofun trivial
  obtain ⟨-, -, first⟩ := addFilter_local reached {} ⟨1, 0⟩ filter
  obtain ⟨failed, kept, -⟩ := addFilter_local reachedNext {} ⟨1, 0⟩ filter
  have after : (({} : Generator).addFilter ⟨1, 0⟩ filter).apply tree = (.ok ⟨2, 1⟩, next) := by
    refine Prod.ext ?_ (congrArg Prod.snd (Edit.apply_map some _ tree)).symm
    have id : ((({} : Generator).addFilter ⟨1, 0⟩ filter).apply tree).1.toOption =
        some ⟨2, 1⟩ := by decide +kernel
    cases run : ((({} : Generator).addFilter ⟨1, 0⟩ filter).apply tree).1 with
    | error fault =>
      rw [run] at id
      cases id
    | ok given =>
      rw [run] at id
      cases id
      rfl
  rw [after] at first
  obtain ⟨placed, accepts⟩ := first _ rfl
  have kind : (tree.node? ⟨1, 0⟩).map Node.kind = some .traceTypeGate := by decide +kernel
  have live : tree.isLive ⟨1, 0⟩ = true := by decide +kernel
  have full : next.IsFull ⟨1, 0⟩ := by
    obtain ⟨gate, found, kind⟩ := Option.map_eq_some_iff.mp kind
    refine ⟨gate, 1, (placed.node _ live).trans found, by rw [kind]; rfl, ?_⟩
    rw [placed.last, List.length_append]
    exact Nat.le_add_left 1 _
  obtain ⟨fault, error⟩ := failed.mpr (.inr full)
  exact ⟨reached, reachedNext, placed, accepts, fault, Prod.ext error (kept fault error)⟩

end Generator
end EventSieve
