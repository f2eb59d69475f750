import EventSieve.Proofs.Simulation

/-!
# Runs of arenas

A call on an arena has an outcome, which is that of the same call on the tree that the arena
represents. So the arenas that a caller can make represent the trees that a caller can make, and
each of these trees is represented.

## Main definitions

* `CallOn.Alike` — two calls that are the same, but for the trees that they copy
* `Arena.Call` — the calls that edit an arena
* `Arena.Reachable` — the arenas that a caller can make

## Main statements

* `CallOn.Alike.follows` — a call on an arena follows the call on the tree
* `Arena.Reachable.exists_represents` — an arena that a caller can make represents such a tree
* `Arena.exists_alike_of_reachable` — calls on such arenas are like calls on such trees
* `FilterTree.Reachable.exists_arena` — a tree that a caller can make is represented by such an
  arena
-/
namespace EventSieve

open EventSieve.Tree (Node NodeKind NodeId Branch)

namespace CallOn

variable {σ τ : Type} {relation : σ → τ → Prop}

/-- Two calls are the same, but for the trees that they copy, which a relation allows. -/
inductive Alike (relation : σ → τ → Prop) : CallOn σ → CallOn τ → Prop
  | insert (parent index node) : Alike relation (.insert parent index node)
      (.insert parent index node)
  | add (parent node) : Alike relation (.add parent node) (.add parent node)
  | remove (parent index) : Alike relation (.remove parent index) (.remove parent index)
  | replace (parent index node) : Alike relation (.replace parent index node)
      (.replace parent index node)
  | graft (parent) {other source} (h : relation other source) :
      Alike relation (.graft parent other) (.graft parent source)
  | generate (generator parent filter) : Alike relation (.generate generator parent filter)
      (.generate generator parent filter)
  | setNegated (id negated) : Alike relation (.setNegated id negated) (.setNegated id negated)
  | toggleNegated (id) : Alike relation (.toggleNegated id) (.toggleNegated id)
  | setNode (id node) : Alike relation (.setNode id node) (.setNode id node)

/-- A call has one like it if the trees that it copies have trees like them. -/
theorem exists_alike (call : CallOn σ) (each : ∀ other ∈ call.sources, ∃ source,
    relation other source) : ∃ call' : CallOn τ, call.Alike relation call' := by
  cases call with
  | graft parent other =>
    obtain ⟨source, h⟩ := each other List.mem_cons_self
    exact ⟨_, .graft parent h⟩
  | insert => exact ⟨_, .insert ..⟩
  | add => exact ⟨_, .add ..⟩
  | remove => exact ⟨_, .remove ..⟩
  | replace => exact ⟨_, .replace ..⟩
  | generate => exact ⟨_, .generate ..⟩
  | setNegated => exact ⟨_, .setNegated ..⟩
  | toggleNegated => exact ⟨_, .toggleNegated ..⟩
  | setNode => exact ⟨_, .setNode ..⟩

namespace Alike

variable {one : CallOn σ} {two : CallOn τ} (h : one.Alike relation two)

include h

theorem symm : two.Alike (fun source other => relation other source) one := by
  cases h with
  | graft parent h => exact .graft parent h
  | _ => constructor

theorem exists_source {source : τ} (mem : source ∈ two.sources) :
    ∃ other ∈ one.sources, relation other source := by
  cases h with
  | graft parent h =>
    obtain rfl := List.mem_singleton.mp mem
    exact ⟨_, List.mem_cons_self, h⟩
  | _ => cases mem

theorem allowed_iff (mayBecome : NodeKind → NodeKind → Prop) (node? : NodeId → Option Node) :
    one.Allowed mayBecome node? ↔ two.Allowed mayBecome node? := by
  cases h <;> rfl

theorem mono {other : σ → τ → Prop} (le : ∀ source part, relation source part → other source part) :
    one.Alike other two := by
  cases h with
  | graft parent h => exact .graft parent (le _ _ h)
  | _ => constructor

end Alike
end CallOn

namespace Arena

/-- A call on an arena. -/
abbrev Call := CallOn Arena

/-- The edit of a call. It returns the identity of the node that it brings, if it brings one. -/
def Call.edit : Arena.Call → Arena.Edit (Option NodeId)
  | .insert parent index node => some <$> Edit.insertChild parent index node
  | .add parent node => some <$> Edit.addChild parent node
  | .remove parent index => (fun _ => none) <$> Edit.removeChild parent index
  | .replace parent index node => some <$> Edit.replaceChild parent index node
  | .graft parent other => some <$> Edit.graft parent other
  | .generate generator parent filter => some <$> generator.buildFilter parent filter
  | .setNegated id negated => (fun _ => none) <$> Edit.setNegated id negated
  | .toggleNegated id => (fun _ => none) <$> Edit.toggleNegated id
  | .setNode id node => (fun _ => none) <$> Edit.setNode id node

/-- The arenas that a caller can make: an arena of one node, a part of an arena on its own, also one
that was taken out, and what calls make of an arena. A payload may be written over a node as
`mayBecome` says of their kinds. -/
inductive Reachable (mayBecome : NodeKind → NodeKind → Prop) : Arena → Prop
  | withTop (node : Node) : Reachable mayBecome (withTop node)
  | subtree {arena part : Arena} {id : NodeId} (h : Reachable mayBecome arena)
      (made : arena.subtree id = some (.ok part)) : Reachable mayBecome part
  | removed {arena next removed : Arena} {parent : NodeId} {index : Nat}
      (h : Reachable mayBecome arena)
      (made : (Edit.removeChild parent index).apply arena = some (.ok removed, next)) :
      Reachable mayBecome removed
  | call {arena next : Arena} {result : Except EditError (Option NodeId)} (call : Arena.Call)
      (h : Reachable mayBecome arena)
      (sources : ∀ other ∈ call.sources, Reachable mayBecome other)
      (allowed : call.Allowed mayBecome arena.node?)
      (made : call.edit.apply arena = some (result, next)) : Reachable mayBecome next

end Arena

open Arena.Edit

/-- A call on an arena follows the call on the tree. -/
theorem CallOn.Alike.follows {call : Arena.Call} {call' : Call}
    (h : call.Alike Arena.Represents call') : Follows Eq call.edit call'.edit := by
  have brought (value result : NodeId) (same : value = result) : some value = some result :=
    congrArg some same
  cases h with
  | insert parent index node => exact (follows_insertChild parent index node).map brought
  | add parent node => exact (follows_addChild parent node).map brought
  | remove parent index => exact (follows_removeChild parent index).map fun _ _ _ => rfl
  | replace parent index node => exact (follows_replaceChild parent index node).map brought
  | graft parent h => exact (follows_graft h parent).map brought
  | generate generator parent filter =>
    exact (generator.follows_buildFilter parent filter).map brought
  | setNegated id negated => exact (follows_setNegated id negated).map fun _ _ _ => rfl
  | toggleNegated id => exact (follows_toggleNegated id).map fun _ _ _ => rfl
  | setNode id node => exact (follows_setNode id node).map fun _ _ _ => rfl

namespace Arena

/-! ## Parts of arenas and trees -/

namespace Represents

variable {arena : Arena} {tree : FilterTree} (h : arena.Represents tree)

include h

/-- A part of an arena represents the part of the tree. -/
theorem subtree_agree (id : NodeId) : ∃ result, arena.subtree id = some result ∧
    Agree Represents result (tree.subtree id) := by
  rw [FilterTree.subtree]
  rcases h.slot?_cases id with ⟨none, gone⟩ | ⟨branch, owner?, found, hangs, rfl, -⟩
  · refine ⟨_, by rw [subtree, gone], ?_⟩
    rw [none]
    exact .error _
  · rw [found]
    exact Edit.subtree_agree (h.shows hangs)

/-- Every call has an outcome, and the arena after it represents the tree after the call. -/
theorem exists_apply {call : Arena.Call} {call' : EventSieve.Call}
    (alike : call.Alike Represents call') : ∃ result next,
      call.edit.apply arena = some (result, next) ∧ next.Represents (call'.after tree) := by
  obtain ⟨result, next, run, represents, -⟩ := alike.follows h
  exact ⟨result, next, run, represents⟩

end Represents

/-! ## What a caller can make -/

variable {mayBecome : NodeKind → NodeKind → Prop}

/-- An arena that a caller can make represents a tree that a caller can make. -/
theorem Reachable.exists_represents {arena : Arena} (h : arena.Reachable mayBecome) :
    ∃ tree : FilterTree, tree.Reachable mayBecome ∧ arena.Represents tree := by
  induction h with
  | withTop node => exact ⟨_, .withTop node, represents_withTop node⟩
  | @subtree arena part id h made ih =>
    obtain ⟨tree, reached, represents⟩ := ih
    obtain ⟨result, copied, agree⟩ := represents.subtree_agree id
    obtain rfl : .ok part = result := Option.some.inj (made.symm.trans copied)
    obtain ⟨other, made', shown⟩ := agree.exists_right
    exact ⟨other, .subtree reached made', shown⟩
  | @removed arena next removed parent index h made ih =>
    obtain ⟨tree, reached, represents⟩ := ih
    obtain ⟨result, last, run, -, agree⟩ := follows_removeChild parent index represents
    obtain ⟨rfl, rfl⟩ := Prod.mk.inj (Option.some.inj (made.symm.trans run))
    obtain ⟨other, made', shown⟩ := agree.exists_right
    exact ⟨other, .removed reached (Prod.ext made' rfl), shown⟩
  | @call arena next result call h sources allowed made ih ihs =>
    obtain ⟨tree, reached, represents⟩ := ih
    obtain ⟨call', alike⟩ := call.exists_alike ihs
    obtain ⟨_, _, run, shown⟩ := represents.exists_apply (alike.mono fun _ _ both => both.2)
    obtain ⟨rfl, rfl⟩ := Prod.mk.inj (Option.some.inj (made.symm.trans run))
    refine ⟨_, .call reached (fun source mem => ?_) ?_, shown⟩
    · obtain ⟨other, -, reached, -⟩ := alike.exists_source mem
      exact reached
    · rwa [← alike.allowed_iff, ← funext represents.node?_eq]

/-- A call that copies arenas that a caller can make is like a call that copies such trees. -/
theorem exists_alike_of_reachable {call : Arena.Call}
    (sources : ∀ other ∈ call.sources, other.Reachable mayBecome) :
    ∃ call' : EventSieve.Call, call.Alike Represents call' ∧
      ∀ source ∈ call'.sources, source.Reachable mayBecome := by
  obtain ⟨call', alike⟩ :=
    call.exists_alike fun other mem => (sources other mem).exists_represents
  refine ⟨call', alike.mono fun _ _ both => both.2, fun source mem => ?_⟩
  obtain ⟨other, -, reached, -⟩ := alike.exists_source mem
  exact reached

end Arena

/-- A tree that a caller can make is represented by an arena that a caller can make. -/
theorem FilterTree.Reachable.exists_arena {mayBecome : NodeKind → NodeKind → Prop}
    {tree : FilterTree} (h : tree.Reachable mayBecome) :
    ∃ arena : Arena, arena.Reachable mayBecome ∧ arena.Represents tree := by
  induction h with
  | withTop node => exact ⟨_, .withTop node, Arena.represents_withTop node⟩
  | @subtree tree part id h made ih =>
    obtain ⟨arena, reached, represents⟩ := ih
    obtain ⟨result, copied, agree⟩ := represents.subtree_agree id
    rw [made] at agree
    obtain ⟨other, rfl, shown⟩ := agree.exists_left
    exact ⟨other, .subtree reached copied, shown⟩
  | @removed tree next removed parent index h made ih =>
    obtain ⟨arena, reached, represents⟩ := ih
    obtain ⟨result, last, run, -, agree⟩ := follows_removeChild parent index represents
    rw [made] at agree
    obtain ⟨other, rfl, shown⟩ := agree.exists_left
    exact ⟨other, .removed reached run, shown⟩
  | @call tree call h sources allowed ih ihs =>
    obtain ⟨arena, reached, represents⟩ := ih
    obtain ⟨call', alike⟩ := call.exists_alike ihs
    obtain ⟨_, next, run, shown⟩ :=
      represents.exists_apply (alike.symm.mono fun _ _ both => both.2)
    refine ⟨next, .call call' reached (fun other mem => ?_) ?_ run, shown⟩
    · obtain ⟨source, -, reached, -⟩ := alike.exists_source mem
      exact reached
    · rwa [← alike.allowed_iff, funext represents.node?_eq]

end EventSieve
