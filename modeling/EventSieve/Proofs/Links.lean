import EventSieve.Proofs.ArenaRuns
import EventSieve.Proofs.Effects
import EventSieve.Proofs.Walks

/-!
# Links of arenas

The identities that the places of an arena keep fit together: parents and children agree, no
identity is listed twice, every node is reached from the root in one way, and the places given up
are the ones that are free. Nothing of that holds of arenas as such. It holds of those that a caller
can make, since they represent trees.

## Main definitions

* `Arena.IsChild` — one identity is listed in the place of another one
* `Arena.WellLinked` — the identities that an arena keeps fit together
* `Arena.Alike` — arenas that look the same to a caller

## Main statements

* `Arena.Represents.wellLinked` — an arena that represents a sound tree is well linked
* `Arena.wellLinked_of_reachable` — the arenas that a caller can make are well linked, and following
  their links always comes to an end
* `Arena.alike_of_error` — a call that fails leaves nothing changed that is seen
* `Arena.places_of_reachable` — a walk from the root lists the places that are not free
-/
namespace EventSieve

open EventSieve.Tree (Node NodeKind NodeId Branch)

namespace Arena

/-- One identity is listed in the place of another one. -/
def IsChild (arena : Arena) (id child : NodeId) : Prop :=
  child ∈ arena.children id

/-- The identities that an arena keeps fit together. -/
structure WellLinked (arena : Arena) : Prop where
  root_live : arena.isLive arena.root = true
  root_parent : arena.parent? arena.root = none
  child_live : ∀ id child, arena.IsChild id child → arena.isLive child = true
  child_parent : ∀ id child, arena.IsChild id child → arena.parent? child = some id
  /-- No identity is listed twice, in one place or in two. -/
  child_once : ∀ id child, arena.IsChild id child →
    (arena.slots.flatMap (·.children)).count child = 1
  reached : ∀ id, arena.isLive id = true → Relation.ReflTransGen arena.IsChild arena.root id
  acyclic : ∀ id, ¬Relation.TransGen arena.IsChild id id
  free_nodup : arena.free.Nodup
  mem_free : ∀ index, index ∈ arena.free ↔
    ∃ slot, arena.slots[index]? = some slot ∧ slot.detached = true
  room : ∀ id node, arena.node? id = some node →
    ∀ limit, node.kind.maxChildren? = some limit → (arena.children id).length ≤ limit
  nested : ∀ id node, arena.node? id = some node → node.kind = .root → id = arena.root
  unflagged : ∀ id node, arena.node? id = some node →
    node.kind = .root ∨ node.kind = .namedFilter → arena.isNegated id = false

/-- What the place at an index lists. -/
def childrenAt (arena : Arena) (index : Nat) : List NodeId :=
  (arena.slots[index]?.map (·.children)).getD []

theorem flatMap_childrenAt_range (slots : List Slot) :
    ((List.range slots.length).flatMap fun index => (slots[index]?.map (·.children)).getD []) =
      slots.flatMap (·.children) := by
  induction slots with
  | nil => rfl
  | cons slot rest ih =>
    rw [List.length_cons, List.range_succ_eq_map, List.flatMap_cons, List.flatMap_map,
      List.flatMap_cons, ← ih]
    rfl

namespace Represents

variable {arena : Arena} {tree : FilterTree} (h : arena.Represents tree)

include h

theorem isChild_eq : arena.IsChild = tree.IsChild := by
  funext id child
  rw [IsChild, FilterTree.IsChild, h.children_eq]

/-- The places given up are the detached ones. -/
theorem mem_free_iff (index : Nat) : index ∈ arena.free ↔
    ∃ slot, arena.slots[index]? = some slot ∧ slot.detached = true := by
  rw [h.accounts.free_eq]
  refine ⟨fun unused => ?_, fun ⟨slot, there, detached⟩ => (h.wellFormed.mem_free index).mpr ?_⟩
  · obtain ⟨slot, there, detached, -⟩ := h.accounts.detached index unused
    exact ⟨slot, there, detached⟩
  · obtain ⟨inside, -⟩ := List.getElem?_eq_some_iff.mp there
    refine ⟨h.accounts.length_eq ▸ inside, fun used => ?_⟩
    obtain ⟨id, known, rfl⟩ := List.mem_map.mp used
    obtain ⟨owner?, branch, hangs, rfl⟩ := FilterTree.exists_hangs_of_mem_ids h.wellFormed known
    obtain rfl : branch.slot owner? = slot := Option.some.inj ((h.holds hangs).symm.trans there)
    cases detached

/-- All that the places of an arena list is what the nodes of the tree list. -/
theorem children_perm (sound : tree.Sound) : (arena.slots.flatMap (·.children)).Perm
    ((tree.descendants FilterTree.rootId).flatMap tree.children) := by
  -- the places of nodes list what the nodes list, and those given up list nothing
  have nodes : ((tree.descendants FilterTree.rootId).map NodeId.index).flatMap arena.childrenAt =
      (tree.descendants FilterTree.rootId).flatMap tree.children := by
    rw [List.flatMap_map]
    refine List.flatMap_congr fun id mem => ?_
    rw [sound.descendants_rootId] at mem
    obtain ⟨owner?, branch, hangs, rfl⟩ := FilterTree.exists_hangs_of_mem_ids h.wellFormed mem
    rw [childrenAt, h.holds hangs, FilterTree.children_of_branch? (hangs.branch?_eq h.wellFormed)]
    rfl
  have gone : tree.free.flatMap arena.childrenAt = [] := by
    rw [List.flatMap_eq_nil_iff]
    intro index unused
    obtain ⟨slot, there, -, none⟩ := h.accounts.detached index unused
    rw [childrenAt, there, Option.map_some, none]
    rfl
  have places := sound.places_perm.flatMap_right arena.childrenAt
  rw [List.flatMap_append, nodes, gone, List.append_nil, ← h.accounts.length_eq] at places
  rw [← flatMap_childrenAt_range]
  exact places.symm

/-- An arena that represents a sound tree is well linked. -/
theorem wellLinked (sound : tree.Sound) : arena.WellLinked := by
  have consistent := sound.consistent
  constructor
  case root_live => rw [h.root, h.isLive_eq, consistent.root_live]
  case root_parent => rw [h.root, h.parent?_eq, consistent.root_parent]
  case child_live =>
    intro id child below
    rw [h.isChild_eq] at below
    rw [h.isLive_eq, consistent.child_live id child below]
  case child_parent =>
    intro id child below
    rw [h.isChild_eq] at below
    rw [h.parent?_eq, consistent.child_parent id child below]
  case child_once =>
    intro id child below
    rw [h.isChild_eq] at below
    rw [(h.children_perm sound).count_eq, consistent.child_once id child below]
  case reached =>
    intro id live
    rw [h.isLive_eq] at live
    rw [h.root, h.isChild_eq]
    exact consistent.reached id live
  case acyclic =>
    rw [h.isChild_eq]
    exact consistent.acyclic
  case free_nodup => exact h.accounts.free_eq ▸ consistent.free_nodup
  case mem_free => exact h.mem_free_iff
  case room =>
    intro id node found limit hmax
    rw [h.node?_eq] at found
    rw [h.children_eq]
    exact consistent.room id node found limit hmax
  case nested =>
    intro id node found root
    rw [h.node?_eq] at found
    rw [h.root, consistent.nested id node found root]
  case unflagged =>
    intro id node found kind
    rw [h.node?_eq] at found
    rw [h.isNegated_eq, consistent.unflagged id node found kind]

end Represents

/-- Arenas that look the same to a caller: they have the same nodes, with the same payloads, flags,
parents and children, and the same places given up. -/
structure Alike (arena next : Arena) : Prop where
  live : ∀ id, next.isLive id = arena.isLive id
  node : ∀ id, next.node? id = arena.node? id
  flag : ∀ id, next.isNegated id = arena.isNegated id
  parent : ∀ id, next.parent? id = arena.parent? id
  children : ∀ id, next.children id = arena.children id
  free : next.free = arena.free

/-- Arenas that represent the same tree look the same. -/
theorem Represents.alike {arena next : Arena} {tree : FilterTree} (h : arena.Represents tree)
    (h' : next.Represents tree) : arena.Alike next where
  live id := (h'.isLive_eq id).trans (h.isLive_eq id).symm
  node id := (h'.node?_eq id).trans (h.node?_eq id).symm
  flag id := (h'.isNegated_eq id).trans (h.isNegated_eq id).symm
  parent id := (h'.parent?_eq id).trans (h.parent?_eq id).symm
  children id := (h'.children_eq id).trans (h.children_eq id).symm
  free := h'.accounts.free_eq.trans h.accounts.free_eq.symm

/-- The arenas that a caller can make are well linked, if payloads keep the kinds of nodes. Every
test of a node, every copy of a part and every call has an outcome there: no walk goes on for ever,
and no index is out of range. -/
theorem wellLinked_of_reachable {arena : Arena} (h : arena.Reachable Eq) :
    arena.WellLinked ∧
    (∀ id event, (arena.acceptsFrom id event).isSome = true) ∧
    (∀ id, (arena.descendants id).isSome = true ∧ (arena.subtree id).isSome = true) ∧
    ∀ call : Arena.Call, (∀ other ∈ call.sources, other.Reachable Eq) →
      (call.edit.apply arena).isSome = true := by
  obtain ⟨tree, reached, represents⟩ := h.exists_represents
  refine ⟨represents.wellLinked reached.sound, fun id event => ?_, fun id => ⟨?_, ?_⟩, ?_⟩
  · rw [represents.acceptsFrom_eq, Option.isSome_some]
  · rw [represents.descendants_eq, Option.isSome_some]
  · obtain ⟨result, copied, -⟩ := represents.subtree_agree id
    rw [copied, Option.isSome_some]
  · intro call sources
    obtain ⟨call', alike, -⟩ := exists_alike_of_reachable sources
    obtain ⟨result, next, run, -⟩ := represents.exists_apply alike
    rw [run, Option.isSome_some]

open Arena.Edit in
/-- A place that is used again is linked anew, and the other place given up stays free. -/
theorem wellLinked_of_reachable_reuse :
    let root : NodeId := FilterTree.rootId
    let again : Arena := {
      slots := [
        { node := .root, parent? := none, children := [⟨2, 1⟩] },
        { node := .and, parent? := some root, generation := 1, detached := true },
        { node := .or, parent? := some root, generation := 1 }]
      free := [1] }
    again.Reachable Eq ∧ again.WellLinked := by
  intro root again
  let full : Arena := {
    slots := [
      { node := .root, parent? := none, children := [⟨1, 0⟩] },
      { node := .and, parent? := some root, children := [⟨2, 0⟩] },
      { node := .or, parent? := some ⟨1, 0⟩ }] }
  let cut : Arena := full.modifySlot 0 ({ · with children := [] })
  let part : Arena := {
    slots := [
      { node := .and, parent? := none, children := [⟨1, 0⟩] },
      { node := .or, parent? := some root }] }
  let less : Arena := {
    slots := [
      { node := .root, parent? := none },
      { node := .and, parent? := some root, generation := 1, detached := true },
      { node := .and, parent? := some ⟨1, 0⟩, generation := 1, detached := true }]
    free := [2, 1] }
  have sources : ∀ other ∈ ([] : List Arena), other.Reachable Eq := List.forall_mem_nil _
  have added : full.Reachable Eq := by
    have one : Reachable Eq _ := .call (.add root .and) (.withTop .root) sources trivial rfl
    exact .call (.add ⟨1, 0⟩ .or) one sources trivial rfl
  have copied : (Arena.Edit.subtree ⟨1, 0⟩).apply cut = some (.ok part, cut) := by
    have child : (cut.copyBelow root ⟨2, 0⟩).apply (withTop .and) = some (.ok ⟨1, 0⟩, part) := by
      rw [copyBelow]
      rfl
    have taken : Arena.subtree cut ⟨1, 0⟩ = some (.ok part) :=
      congrArg (Option.bind · _) (apply_bind_ok (apply_bind_ok child _) _)
    rw [Edit.subtree, apply_get_bind, taken]
    rfl
  have released : (release ⟨1, 0⟩).apply cut = some (.ok (), less) := by
    have walked : descendants cut ⟨1, 0⟩ = some [⟨1, 0⟩, ⟨2, 0⟩] := by
      rw [descendants, walk]
      show walk cut [⟨1, 0⟩] [⟨2, 0⟩] = _
      rw [walk]
      show walk cut [⟨1, 0⟩, ⟨2, 0⟩] [] = _
      rw [walk]
    rw [release, apply_get_bind, walked]
    rfl
  have removed : (removeChild root 0).apply full = some (.ok part, less) := by
    have there : full.slot? root = some full.slots[0] := rfl
    have emptied : (change root fun old =>
        { old with children := old.children.eraseIdx 0 }).apply full = some (.ok (), cut) :=
      apply_change there _
    rw [removeChild, apply_bind_ok (apply_slot there)]
    refine (apply_bind_ok emptied _).trans ?_
    rw [apply_bind_ok copied, apply_bind_ok released]
    rfl
  have reached : again.Reachable Eq := by
    have fewer : less.Reachable Eq :=
      .call (.remove root 0) added sources trivial (apply_bind_ok removed _)
    exact .call (.add root .or) fewer sources trivial rfl
  exact ⟨reached, (wellLinked_of_reachable reached).1⟩

/-- A call that fails leaves an arena that a caller can make as it was, for all that is seen of it,
if payloads keep the kinds of nodes: also where a child is cut off before it is copied. -/
theorem alike_of_error {arena next : Arena} (h : arena.Reachable Eq) {call : Arena.Call}
    (sources : ∀ other ∈ call.sources, other.Reachable Eq) {fault : EditError}
    (failed : call.edit.apply arena = some (.error fault, next)) : arena.Alike next := by
  obtain ⟨tree, reached, represents⟩ := h.exists_represents
  obtain ⟨call', alike, reachedSources⟩ := exists_alike_of_reachable sources
  obtain ⟨result, last, run, shown, agree⟩ := alike.follows represents
  obtain ⟨rfl, rfl⟩ := Prod.mk.inj (Option.some.inj (failed.symm.trans run))
  have unchanged : (call'.edit.apply tree).2 = tree :=
    reached.sound.allOrNothing (fun source mem => (reachedSources source mem).sound) fault
      agree.eq_error
  rw [unchanged] at shown
  exact represents.alike shown

/-- A walk from the root of an arena that a caller can make lists the places that are not free, each
once. -/
theorem places_of_reachable {arena : Arena} (h : arena.Reachable Eq) :
    ∃ listed, arena.descendants arena.root = some listed ∧ listed.Nodup ∧
      (∀ id, id ∈ listed ↔ arena.isLive id = true) ∧
      listed.length + arena.free.length = arena.slots.length := by
  obtain ⟨tree, reached, represents⟩ := h.exists_represents
  have walked := reached.sound.walked
  have consistent := reached.sound.consistent
  refine ⟨_, represents.descendants_eq arena.root, ?_, fun id => ?_, ?_⟩
  · rw [represents.root]
    exact consistent.descendants_nodup
  · rw [represents.root, represents.isLive_eq]
    exact consistent.mem_descendants id
  · rw [represents.root, represents.accounts.free_eq, represents.accounts.length_eq]
    exact walked.size

end Arena
end EventSieve
