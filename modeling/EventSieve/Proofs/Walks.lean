import EventSieve.Proofs.Locality
import EventSieve.Proofs.Renderings
import Mathlib.Data.List.Range
import Mathlib.Logic.Function.Iterate

/-!
# Walks through trees

A walk through a tree keeps the identities that are still to be visited, and asks the tree for the
children of the next one. In a tree that a caller can make it ends, after one turn for each node
that it lists, and it lists what the recursions on the tree go through, in the same order.

## Main definitions

* `FilterTree.Walk` — the state of a walk by identities
* `FilterTree.Walked` — walks through a tree end and agree with the recursions on it

## Main statements

* `FilterTree.Walk.iterate_turn` — a walk lists what the recursion on branches lists
* `FilterTree.Sound.exists_depth` — the lines of an outline are those of the nodes of a walk
* `FilterTree.walked_of_reachable` — walks through the trees that a caller can make
-/
namespace EventSieve

open EventSieve.Tree (Node NodeKind NodeId Branch)

namespace FilterTree

/-! ## The walk -/

/-- The state of a walk: the identities that are listed, and those to be visited, the next one
first. -/
structure Walk where
  listed : List NodeId
  pending : List NodeId
deriving DecidableEq, Repr

namespace Walk

/-- A walk from an identity on. -/
def start (id : NodeId) : Walk :=
  ⟨[], [id]⟩

/-- One turn of a walk. The next identity is listed if it is one of a node, whose children are
visited before all others. -/
def turn (tree : FilterTree) : Walk → Walk
  | ⟨listed, []⟩ => ⟨listed, []⟩
  | ⟨listed, id :: rest⟩ =>
    if tree.isLive id then ⟨listed ++ [id], tree.children id ++ rest⟩ else ⟨listed, rest⟩

variable {tree : FilterTree}

/-- A turn at a branch of the tree lists its top and goes on with the branches below it. -/
theorem turn_of_branch? {branch : Branch} (found : tree.branch? branch.id = some branch)
    (listed : List NodeId) (stack : List Branch) :
    turn tree ⟨listed, (branch :: stack).map (·.id)⟩ =
      ⟨listed ++ [branch.id], (branch.children ++ stack).map (·.id)⟩ := by
  have live : tree.isLive branch.id = true := by rw [isLive, found, Option.isSome_some]
  rw [List.map_cons, turn, if_pos live, children_of_branch? found, List.map_append]

/-- A walk that has the tops of some branches to visit lists these branches, one after the other,
in as many turns as it lists identities. -/
theorem iterate_turn (wf : tree.WellFormed) (stack : List Branch)
    (known : ∀ b ∈ stack, tree.branch? b.id = some b) (listed : List NodeId) :
    (turn tree)^[(walk stack).length] ⟨listed, stack.map (·.id)⟩ = ⟨listed ++ walk stack, []⟩ := by
  induction stack using walk.induct generalizing listed with
  | case1 => simp [walk]
  | case2 id node negated children rest ih =>
    obtain ⟨found, later⟩ := List.forall_mem_cons.mp known
    have below : ∀ b ∈ children ++ rest, tree.branch? b.id = some b :=
      List.forall_mem_append.mpr ⟨fun b mem => branch?_child wf found mem, later⟩
    rw [walk, List.length_cons, Function.iterate_succ_apply, turn_of_branch? found]
    show (turn tree)^[_] ⟨_, (children ++ rest).map (·.id)⟩ = _
    rw [ih below, List.append_assoc]
    rfl

/-- A walk that has ended stays as it is. -/
theorem iterate_turn_ended (tree : FilterTree) (turns : Nat) (listed : List NodeId) :
    (turn tree)^[turns] ⟨listed, []⟩ = ⟨listed, []⟩ :=
  Function.iterate_fixed rfl turns

/-- A turn lists one identity at most. -/
theorem length_listed_le (tree : FilterTree) (turns : Nat) (state : Walk) :
    ((turn tree)^[turns] state).listed.length ≤ state.listed.length + turns := by
  induction turns generalizing state with
  | zero => simp
  | succ turns ih =>
    rw [Function.iterate_succ_apply]
    refine (ih _).trans ?_
    obtain ⟨listed, pending⟩ := state
    cases pending with
    | nil => simp [turn]
    | cons id rest =>
      by_cases live : tree.isLive id = true
      · simp only [turn, live, if_true, List.length_append, List.length_singleton]
        omega
      · simp only [turn, live, Bool.false_eq_true, if_false]
        omega

/-- A walk from a node ends, with what is listed below the node, after as many turns as it lists
identities, and not before. -/
theorem iterate_turn_eq_iff (wf : tree.WellFormed) {id : NodeId} (live : tree.isLive id = true)
    (turns : Nat) : (turn tree)^[turns] (start id) = ⟨tree.descendants id, []⟩ ↔
      (tree.descendants id).length ≤ turns := by
  obtain ⟨branch, found⟩ := Option.isSome_iff_exists.mp live
  obtain ⟨-, rfl⟩ := (branch?_eq_some_iff wf).mp found
  constructor
  · intro ended
    have most := length_listed_le tree turns (start branch.id)
    rw [ended] at most
    simpa [start] using most
  · intro enough
    have lists := iterate_turn wf [branch] (by simpa using found) []
    obtain ⟨more, rfl⟩ := Nat.exists_eq_add_of_le enough
    rw [Nat.add_comm, Function.iterate_add_apply, descendants, found, Option.toList_some, start]
    exact (congrArg _ lists).trans (iterate_turn_ended tree more _)

end Walk

/-! ## Walks and recursions -/

/-- The line of a node in an outline, at a depth. -/
def line (tree : FilterTree) (depth : Nat) (id : NodeId) : String :=
  ((tree.branch? id).map fun branch =>
    Branch.line depth branch.node branch.negated).getD ""

/-- Walks through a tree end, list every node that they reach once, and agree with the recursions on
the tree and with its places. -/
structure Walked (tree : FilterTree) : Prop where
  /-- A walk from a node ends after one turn for each node that it lists. -/
  ends : ∀ id, tree.isLive id = true → ∀ turns,
    (Walk.turn tree)^[turns] (.start id) = ⟨tree.descendants id, []⟩ ↔
      (tree.descendants id).length ≤ turns
  once : ∀ id, tree.isLive id = true → (tree.descendants id).Nodup
  below : ∀ id, tree.isLive id = true → ∀ other,
    other ∈ tree.descendants id ↔ Relation.ReflTransGen tree.IsChild id other
  /-- A node is listed first, and then its children with all below them, one after the other. -/
  preorder : ∀ id, tree.isLive id = true →
    tree.descendants id = id :: (tree.children id).flatMap tree.descendants
  /-- The outline has a line for each node listed, indented by its depth. -/
  lines : ∃ depth : NodeId → Nat, depth rootId = 0 ∧
    (∀ id child, tree.IsChild id child → depth child = depth id + 1) ∧
    tree.outline = String.join ((tree.descendants rootId).map fun id => tree.line (depth id) id)
  /-- The tree in JSON has an object for each node listed, with its kind and its flag. -/
  objects : tree.toJson.objects.map (fun object => (object.get? "kind", object.get? "negate")) =
    (tree.descendants rootId).map fun id =>
      ((tree.node? id).map fun node => .string node.kind.name,
        some (.boolean (tree.isNegated id)))
  live : ∀ id, id ∈ tree.descendants rootId ↔ tree.isLive id = true
  /-- The places are those of the nodes and those that are free. -/
  places : ((tree.descendants rootId).map NodeId.index ++ tree.free).Perm
    (List.range tree.generations.length)
  size : tree.size + tree.free.length = tree.generations.length

namespace Sound

variable {tree : FilterTree} (h : tree.Sound)

include h

theorem branch?_of_mem {part : Branch} (mem : part ∈ tree.top.preorder) :
    tree.branch? part.id = some part :=
  h.branch?_iff.mpr ⟨mem, rfl⟩

theorem exists_of_isLive {id : NodeId} (live : tree.isLive id = true) :
    ∃ branch ∈ tree.top.preorder, branch.id = id ∧ tree.descendants id = branch.ids := by
  obtain ⟨branch, found⟩ := Option.isSome_iff_exists.mp live
  obtain ⟨mem, same⟩ := h.branch?_iff.mp found
  exact ⟨branch, mem, same, descendants_of_branch? found⟩

theorem descendants_eq_cons {id : NodeId} (live : tree.isLive id = true) :
    tree.descendants id = id :: (tree.children id).flatMap tree.descendants := by
  obtain ⟨branch, mem, rfl, lists⟩ := h.exists_of_isLive live
  have each : ∀ child ∈ branch.children, tree.descendants child.id = child.ids :=
    fun child hchild => descendants_of_branch? (h.branch?_of_mem (Branch.mem_preorder_trans
      (Branch.mem_preorder_of_mem_children hchild) mem))
  rw [lists, Branch.ids_eq_cons, h.children_of_mem mem, List.flatMap_map, List.flatMap_congr each]

/-- A node lists what its children lead to. -/
theorem mem_descendants_iff {id : NodeId} (live : tree.isLive id = true) (other : NodeId) :
    other ∈ tree.descendants id ↔ Relation.ReflTransGen tree.IsChild id other := by
  obtain ⟨branch, mem, rfl, lists⟩ := h.exists_of_isLive live
  constructor
  · intro listed
    rw [lists] at listed
    obtain ⟨part, inside, rfl⟩ := List.mem_map.mp listed
    exact h.reached inside mem
  · intro path
    induction path with
    | refl =>
      rw [lists]
      exact branch.id_mem_ids
    | tail path step ih =>
      rw [lists] at ih ⊢
      obtain ⟨part, inside, rfl⟩ := List.mem_map.mp ih
      obtain ⟨owner, howner, same, child, hchild, rfl⟩ := h.isChild_iff.mp step
      have found := h.branch?_of_mem (Branch.mem_preorder_trans inside mem)
      rw [← same, h.branch?_of_mem howner] at found
      cases found
      refine List.mem_map_of_mem (Branch.mem_preorder_trans ?_ inside)
      exact Branch.mem_preorder_of_mem_children hchild

/-- What is said of the nodes of a tree in the order of the recursion is said of them in the order
of a walk. -/
theorem map_descendants {α : Type} (read : NodeId → α) :
    (tree.descendants rootId).map read = tree.top.preorder.map fun part => read part.id := by
  rw [h.descendants_rootId, h.ids_eq, Branch.ids, List.map_map]
  rfl

/-- The objects of a tree in JSON are those of the nodes of a walk. -/
theorem map_objects_toJson :
    tree.toJson.objects.map (fun object => (object.get? "kind", object.get? "negate")) =
      (tree.descendants rootId).map fun id =>
        ((tree.node? id).map fun node => .string node.kind.name,
          some (.boolean (tree.isNegated id))) := by
  rw [toJson, Branch.objects_toJson, List.map_map, h.map_descendants]
  refine List.map_congr_left fun part mem => ?_
  have found := h.branch?_of_mem mem
  obtain ⟨kind, flag⟩ := part.get?_toJson
  simp [kind, flag, node?_of_branch? found, isNegated_of_branch? found]

/-- The depth of a node in the levels of the tree is told by its identity. -/
theorem exists_depth_of_levels : ∃ depth : NodeId → Nat,
    ∀ level part, (level, part) ∈ tree.top.levels 0 → depth part.id = level := by
  have distinct : ((tree.top.levels 0).map fun entry => entry.2.id).Nodup := by
    have ids := h.top_nodup
    rwa [Branch.ids, ← Branch.map_snd_levels 0, List.map_map] at ids
  refine ⟨fun id => ((tree.top.levels 0).find? (·.2.id == id)).elim 0 Prod.fst, ?_⟩
  intro level part mem
  have found := (find?_key_eq_some_iff distinct).mpr ⟨mem, rfl⟩
  simp only [found, Option.elim_some]

/-- The lines of the outline of a tree are those of the nodes of a walk. -/
theorem exists_depth : ∃ depth : NodeId → Nat, depth rootId = 0 ∧
    (∀ id child, tree.IsChild id child → depth child = depth id + 1) ∧
    tree.outline =
      String.join ((tree.descendants rootId).map fun id => tree.line (depth id) id) := by
  obtain ⟨depth, told⟩ := h.exists_depth_of_levels
  refine ⟨depth, ?_, fun id child below => ?_, ?_⟩
  · rw [← h.top_id]
    exact told 0 tree.top (Branch.mem_levels_self 0 tree.top)
  · obtain ⟨owner, mem, rfl, part, hpart, rfl⟩ := h.isChild_iff.mp below
    rw [← Branch.map_snd_levels 0] at mem
    obtain ⟨⟨level, _⟩, inside, rfl⟩ := List.mem_map.mp mem
    rw [told level _ inside, told (level + 1) part (Branch.mem_levels_child inside hpart)]
  · rw [outline, Branch.outline_eq, h.map_descendants, ← Branch.map_snd_levels 0, List.map_map]
    refine congrArg String.join (List.map_congr_left fun entry mem => ?_)
    have inside : entry.2 ∈ tree.top.preorder := by
      rw [← Branch.map_snd_levels 0]
      exact List.mem_map_of_mem mem
    have there : tree.branch? entry.2.id = some entry.2 := h.branch?_of_mem inside
    have deep : depth entry.2.id = entry.1 := told entry.1 entry.2 mem
    simp [line, there, deep]

theorem places_perm : ((tree.descendants rootId).map NodeId.index ++ tree.free).Perm
    (List.range tree.generations.length) := by
  have wf := h.wellFormed
  rw [h.descendants_rootId]
  have apart : (tree.ids.map NodeId.index).Disjoint tree.free :=
    fun index used unused => ((wf.mem_free index).mp unused).2 used
  refine (List.perm_ext_iff_of_nodup (wf.distinct.append wf.free_nodup apart)
    List.nodup_range).mpr fun index => ?_
  rw [List.mem_append, List.mem_range, wf.mem_free]
  constructor
  · rintro (used | ⟨inside, -⟩)
    · obtain ⟨id, mem, rfl⟩ := List.mem_map.mp used
      exact (List.getElem?_eq_some_iff.mp (wf.current id mem)).1
    · exact inside
  · intro inside
    by_cases used : index ∈ tree.ids.map NodeId.index
    · exact .inl used
    · exact .inr ⟨inside, used⟩

/-- Walks through sound trees agree with the recursions on them. -/
theorem walked : tree.Walked where
  ends _ live := Walk.iterate_turn_eq_iff h.wellFormed live
  once id _ := h.nodup_descendants id
  below _ := h.mem_descendants_iff
  preorder _ := h.descendants_eq_cons
  lines := h.exists_depth
  objects := h.map_objects_toJson
  live := h.consistent.mem_descendants
  places := h.places_perm
  size := by
    have length := h.places_perm.length_eq
    rwa [List.length_append, List.length_map, List.length_range] at length

end Sound

/-- Walks through the trees that a caller can make end, list every node that they reach once, and
agree with the recursions on the tree, if payloads keep the kinds of nodes. -/
theorem walked_of_reachable {tree : FilterTree} (h : tree.Reachable Eq) : tree.Walked :=
  h.sound.walked

/-- A place that is used again comes where its node stands now, and not where it stood before. -/
theorem walked_of_reachable_reuse :
    let full := Call.after (.add rootId .or) (Call.after (.add ⟨1, 0⟩ .or)
      (Call.after (.add rootId .and) empty))
    let tree := Call.after (.add ⟨3, 0⟩ .and) (Call.after (.remove rootId 0) full)
    tree.Reachable Eq ∧ tree.Walked ∧
      full.descendants rootId = [rootId, ⟨1, 0⟩, ⟨2, 0⟩, ⟨3, 0⟩] ∧
      (Walk.turn tree)^[3] (.start rootId) = ⟨[rootId, ⟨3, 0⟩, ⟨2, 1⟩], []⟩ ∧ tree.free = [1] := by
  intro full tree
  have one : (Call.after (.add rootId .and) empty).Reachable Eq :=
    .call (.withTop .root) nofun trivial
  have two : (Call.after (.add ⟨1, 0⟩ .or) (Call.after (.add rootId .and) empty)).Reachable Eq :=
    .call one nofun trivial
  have three : full.Reachable Eq := .call two nofun trivial
  have four : (Call.after (.remove rootId 0) full).Reachable Eq := .call three nofun trivial
  have reached : tree.Reachable Eq := .call four nofun trivial
  refine ⟨reached, walked_of_reachable reached, ?_, ?_, ?_⟩ <;> decide +kernel

end FilterTree
end EventSieve
