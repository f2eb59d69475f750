import EventSieve.Proofs.Generation
import EventSieve.Tree.Assemble

/-!
# What assembled trees accept

Several filters stand side by side below one node, behind a gate if one is asked for, the saved
ones each under its name. Nodes that may have one child only get one, so nothing fails on the way,
and an event is accepted if the gate lets it pass and every one of the filters accepts it.

## Main definitions

* `Generator.Wraps` — a branch that is a filter under its name

## Main statements

* `Generator.addAllNamed_grown` — named filters become one branch each, in order
* `Generator.addGate_grown` — what is put behind a gate is asked only of events that pass it
* `Generator.assembled_conjunctions` — assembled trees accept what all their filters accept
-/
namespace EventSieve

open EventSieve.Tree (Node NodeId Branch)
open FilterTree (Grown rootId)

namespace Generator

/-- A branch that is one filter under its name, and decides as the tree of the filter does. -/
structure Wraps (generator : Generator) (branch : Branch) (entry : String × Filter) : Prop where
  node : branch.node = .namedFilter entry.1
  child : ∃ added, branch.children = [added]
  accepts : ∀ event, branch.accepts event = (generator.tree entry.2).accepts event

variable {tree : FilterTree} {parent : NodeId} {old : Branch}

/-! ## Named filters -/

/-- A filter is added under its name: the node of the name has room for it. -/
theorem addNamed_grown (generator : Generator) (name : String) (filter : Filter)
    (wf : tree.WellFormed) (found : tree.branch? parent = some old) (room : old.HasRoom) :
    ∃ branch grown, (generator.addNamed parent name filter).apply tree = (.ok (), grown) ∧
      Grown tree parent [branch] grown ∧ generator.Wraps branch (name, filter) := by
  have nested : (Node.namedFilter name).kind ≠ .root := Tree.NodeKind.noConfusion
  obtain ⟨id, named, run, growth⟩ := Edit.addChild_grown wf found room nested
  have known := FilterTree.mem_ids_of_branch? wf found
  have there : named.branch? id = some (.mk id (.namedFilter name) false []) :=
    growth.branch?_new known List.mem_cons_self (Branch.mem_preorder_self _)
  have empty : (Branch.mk id (.namedFilter name) false []).HasRoom := by
    rintro _ ⟨⟩
    exact Nat.one_pos
  obtain ⟨added, grown, runFilter, growthFilter, accepts⟩ :=
    generator.addFilter_adds filter growth.wellFormed there empty
  refine ⟨.mk id (.namedFilter name) false [added], grown, ?_,
    growth.below wf known growthFilter, rfl, ⟨added, rfl⟩, fun event => ?_⟩
  · rw [addNamed, Edit.apply_bind_ok run, Edit.apply_discard_ok runFilter]
  · rw [Branch.accepts, Branch.allAccept_eq, List.all_cons, List.all_nil, Bool.and_true, accepts,
      accepts_tree]

/-- Named filters become one branch each, in order. -/
theorem addAllNamed_grown (generator : Generator) (saved : List (String × Filter))
    (wf : tree.WellFormed) (found : tree.branch? parent = some old)
    (unbounded : old.node.kind.maxChildren? = none) :
    ∃ new grown, (generator.addAllNamed parent saved).apply tree = (.ok (), grown) ∧
      Grown tree parent new grown ∧ List.Forall₂ generator.Wraps new saved := by
  induction saved generalizing tree old with
  | nil => exact ⟨[], tree, rfl, .refl wf parent, .nil⟩
  | cons entry rest ih =>
    obtain ⟨branch, grown, run, growth, wraps⟩ := generator.addNamed_grown entry.1 entry.2 wf found
      (hasRoom_of_unbounded unbounded)
    obtain ⟨new, last, runRest, growthRest, wrapsRest⟩ :=
      ih growth.wellFormed (growth.branch?_parent wf found) (by rwa [Branch.node_adopt])
    refine ⟨branch :: new, last, ?_, growth.trans growthRest, .cons wraps wrapsRest⟩
    rw [addAllNamed, Edit.apply_bind_ok run, runRest]

/-- Named filters that can all be added are added one after the other. -/
theorem foldl_addNamed (generator : Generator) (saved : List (String × Filter))
    {grown : FilterTree} (run : (generator.addAllNamed parent saved).apply tree = (.ok (), grown)) :
    saved.foldl (fun tree (name, filter) =>
      ((generator.addNamed parent name filter).apply tree).2) tree = grown := by
  induction saved generalizing tree with
  | nil =>
    cases run
    rfl
  | cons entry rest ih =>
    rw [addAllNamed, Edit.apply_bind] at run
    rw [List.foldl_cons]
    cases first : (generator.addNamed parent entry.1 entry.2).apply tree with
    | mk result next =>
      rw [first] at run
      cases result with
      | error fault => cases run
      | ok value =>
        refine ih ?_
        show (generator.addAllNamed parent rest).apply
          ((generator.addNamed parent entry.1 entry.2).apply tree).2 = _
        rw [first]
        exact run

theorem map_accepts_of_wraps {generator : Generator} {branches : List Branch}
    {saved : List (String × Filter)} (wraps : List.Forall₂ generator.Wraps branches saved)
    (event : Event) : branches.map (·.accepts event) =
      saved.map fun entry => (generator.tree entry.2).accepts event := by
  induction wraps with
  | nil => rfl
  | cons first rest ih => rw [List.map_cons, List.map_cons, first.accepts, ih]

/-! ## Filters behind a gate -/

/-- The filters of a tree, the one without a name first. -/
def filters (filter : Option Filter) (saved : List (String × Filter)) : List Filter :=
  filter.toList ++ saved.map Prod.snd

/-- The edits that add the filters of a tree below a node. -/
def addSeveral (generator : Generator) (filter : Option Filter) (saved : List (String × Filter))
    (parent : NodeId) : Edit Unit := do
  match filter with
  | some filter => discard (generator.addFilter parent filter)
  | none => pure ()
  generator.addAllNamed parent saved

/-- A filter and named filters become one branch each. -/
theorem addSeveral_adds (generator : Generator) (filter : Option Filter)
    (saved : List (String × Filter)) (wf : tree.WellFormed)
    (found : tree.branch? parent = some old) (unbounded : old.node.kind.maxChildren? = none) :
    (generator.addSeveral filter saved parent).AddsAll tree parent
      ((filters filter saved).map fun filter => (generator.tree filter).accepts) := by
  have named {tree : FilterTree} {old : Branch} (wf : tree.WellFormed)
      (found : tree.branch? parent = some old) (unbounded : old.node.kind.maxChildren? = none) :
      (generator.addAllNamed parent saved).AddsAll tree parent
        ((saved.map Prod.snd).map fun filter => (generator.tree filter).accepts) := by
    obtain ⟨new, grown, run, growth, wraps⟩ :=
      generator.addAllNamed_grown saved wf found unbounded
    refine ⟨new, grown, run, growth, fun event => ?_⟩
    rw [map_accepts_of_wraps wraps, List.map_map, List.map_map]
    rfl
  cases filter with
  | none => exact named wf found unbounded
  | some filter =>
    have first : (generator.addFilter parent filter).Adds tree parent
        (generator.tree filter).accepts := by
      obtain ⟨added, grown, run, growth, accepts⟩ := generator.addFilter_adds filter wf found
        (hasRoom_of_unbounded unbounded)
      exact ⟨added, grown, run, growth, fun event => by rw [accepts, accepts_tree]⟩
    exact Edit.AddsAll.cons first fun added grown growth => named growth.wellFormed
      (growth.branch?_parent wf found) (by rwa [Branch.node_adopt])

/-- What is added behind a gate stands below an `and` that is the only child of the gate. -/
theorem addGate_grown (traceType : String) :
    ∃ gate inner grown, (addGate (some traceType)).apply .empty = (.ok inner, grown) ∧
      grown.WellFormed ∧ grown.branch? inner = some (.mk inner .and false []) ∧
      ∀ new last, Grown grown inner new last → Grown .empty rootId
        [.mk gate (.traceTypeGate traceType) false [.mk inner .and false new]] last := by
  have wf : FilterTree.empty.WellFormed := FilterTree.wellFormed_withTop .root
  have root := FilterTree.mem_ids_of_branch? wf branch?_empty
  have nestedGate : (Node.traceTypeGate traceType).kind ≠ .root := Tree.NodeKind.noConfusion
  have nestedInner : Node.and.kind ≠ .root := Tree.NodeKind.noConfusion
  obtain ⟨gate, gated, run, growth⟩ :=
    Edit.addChild_grown wf branch?_empty (hasRoom_of_unbounded rfl) nestedGate
  have there : gated.branch? gate = some (.mk gate (.traceTypeGate traceType) false []) :=
    growth.branch?_new root List.mem_cons_self (Branch.mem_preorder_self _)
  have empty : (Branch.mk gate (.traceTypeGate traceType) false []).HasRoom := by
    rintro _ ⟨⟩
    exact Nat.one_pos
  have known := FilterTree.mem_ids_of_branch? growth.wellFormed there
  obtain ⟨inner, grown, runInner, growthInner⟩ :=
    Edit.addChild_grown growth.wellFormed there empty nestedInner
  refine ⟨gate, inner, grown, ?_, growthInner.wellFormed, ?_, fun new last growthNew => ?_⟩
  · rw [addGate, Edit.apply_bind_ok run, runInner]
  · exact growthInner.branch?_new known List.mem_cons_self (Branch.mem_preorder_self _)
  · exact growth.below wf root (growthInner.below growth.wellFormed known growthNew)

theorem eventTree_of_run {generator : Generator} {filter : Option Filter}
    {saved : List (String × Filter)} {traceType : Option String} {inner : NodeId}
    {grown : FilterTree} {last : FilterTree}
    (gate : (addGate traceType).apply .empty = (.ok inner, grown))
    (run : (generator.addSeveral filter saved inner).apply grown = (.ok (), last)) :
    generator.eventTree filter saved traceType = .ok last := by
  have whole : (generator.assemble filter saved traceType).apply .empty = (.ok (), last) := by
    rw [← run]
    exact Edit.apply_bind_ok gate _
  rw [eventTree, whole]

/-- Assembling a tree never fails, and the tree accepts what passes its gate and what all its
filters accept. -/
theorem eventTree_accepts (generator : Generator) (filter : Option Filter)
    (saved : List (String × Filter)) (traceType : Option String) :
    ∃ tree, generator.eventTree filter saved traceType = .ok tree ∧ ∀ event,
      tree.accepts event = (traceType.all (event.traceType == ·) &&
        (filters filter saved).all fun filter => (generator.tree filter).accepts event) := by
  have wf : FilterTree.empty.WellFormed := FilterTree.wellFormed_withTop .root
  cases traceType with
  | none =>
    obtain ⟨new, tree, run, growth, accepts⟩ :=
      generator.addSeveral_adds filter saved wf branch?_empty rfl
    refine ⟨tree, eventTree_of_run rfl run, fun event => ?_⟩
    rw [accepts_of_grown growth, Branch.all_accept_of_map event new (accepts event), List.all_map]
    rfl
  | some traceType =>
    obtain ⟨gate, inner, grown, runGate, wellFormed, there, below⟩ := addGate_grown traceType
    obtain ⟨new, tree, run, growth, accepts⟩ :=
      generator.addSeveral_adds filter saved wellFormed there rfl
    refine ⟨tree, eventTree_of_run runGate run, fun event => ?_⟩
    rw [accepts_of_grown (below new tree growth), List.all_cons, List.all_nil, Bool.and_true,
      Branch.accepts, Branch.allAccept_eq, List.all_cons, List.all_nil, Bool.and_true,
      Branch.accepts_and, Branch.all_accept_of_map event new (accepts event), List.all_map,
      Bool.xor_false, Bool.xor_false]
    rfl

/-! ## Saved filters -/

/-- The tree of saved filters has one branch for each of them. -/
theorem ofSavedFilters_grown (config : Config) (registry : Registry) :
    ∃ new, Grown .empty rootId new (.ofSavedFilters config registry) ∧
      List.Forall₂ (ofConfig config registry).Wraps new config.usableFilters := by
  have wf : FilterTree.empty.WellFormed := FilterTree.wellFormed_withTop .root
  obtain ⟨new, grown, run, growth, wraps⟩ :=
    (ofConfig config registry).addAllNamed_grown config.usableFilters wf branch?_empty rfl
  refine ⟨new, ?_, wraps⟩
  rw [FilterTree.ofSavedFilters, foldl_addNamed _ _ run]
  exact growth

/-- The usable filters of a configuration are the meanings of its enabled saved filters. -/
theorem forall_usableFilters_iff (config : Config) (holds : Filter → Prop) :
    (∀ entry ∈ config.usableFilters, holds entry.2) ↔ ∀ saved ∈ config.savedFilters,
      saved.enabled = true → ∀ filter, Filter.compile? saved.expression = some filter →
        holds filter := by
  simp only [Config.usableFilters, List.mem_filterMap, List.mem_filter, Option.map_eq_some_iff]
  constructor
  · intro all saved mem enabled filter meaning
    exact all (saved.name, filter) ⟨saved, ⟨mem, enabled⟩, filter, meaning, rfl⟩
  · rintro all _ ⟨saved, ⟨mem, enabled⟩, filter, meaning, rfl⟩
    exact all saved mem enabled filter meaning

/-- The tree of saved filters has one named node for each usable one, in order, with one child, and
accepts what all of these accept. -/
theorem ofSavedFilters_parts (config : Config) (registry : Registry) :
    let tree := FilterTree.ofSavedFilters config registry
    List.Forall₂ (fun id entry => tree.node? id = some (.namedFilter entry.1) ∧
      (∃ child, tree.children id = [child]) ∧
      ∀ event, tree.acceptsFrom id event =
        ((ofConfig config registry).tree entry.2).accepts event)
      (tree.children rootId) config.usableFilters ∧
    ∀ event, tree.accepts event = config.usableFilters.all fun entry =>
      ((ofConfig config registry).tree entry.2).accepts event := by
  intro tree
  have wf : FilterTree.empty.WellFormed := FilterTree.wellFormed_withTop .root
  obtain ⟨new, growth, wraps⟩ := ofSavedFilters_grown config registry
  have children : tree.children rootId = new.map (·.id) := by
    rw [FilterTree.children_of_branch? (growth.branch?_parent wf branch?_empty)]
    rfl
  refine ⟨?_, fun event => ?_⟩
  · rw [children, List.forall₂_map_left_iff]
    refine List.Forall₂.imp ?_ ((List.forall₂_and_left _ _).mpr ⟨fun _ mem => mem, wraps⟩)
    rintro branch entry ⟨mem, wraps⟩
    have there : tree.branch? branch.id = some branch :=
      growth.branch?_new (FilterTree.mem_ids_of_branch? wf branch?_empty) mem
        branch.mem_preorder_self
    obtain ⟨added, below⟩ := wraps.child
    refine ⟨?_, ⟨added.id, ?_⟩, fun event => ?_⟩
    · rw [FilterTree.node?_of_branch? there, wraps.node]
    · rw [FilterTree.children_of_branch? there, below, List.map_singleton]
    · rw [FilterTree.acceptsFrom_of_branch? there, wraps.accepts]
  · have accepts : tree.accepts event = new.all (·.accepts event) := accepts_of_grown growth event
    have all := congrArg (fun outcomes => outcomes.all fun outcome => outcome)
      (map_accepts_of_wraps wraps event)
    rw [List.all_map, List.all_map] at all
    exact accepts.trans all

/-- Assembled trees are conjunctions. A tree of filters accepts what all its filters accept, of the
wanted type of traces only, and is always made. A tree of saved filters has one named node with one
child for each enabled one that has a meaning, in order, and accepts what all of these accept. -/
theorem assembled_conjunctions :
    (∀ (generator : Generator) (filter : Option Filter) (saved : List (String × Filter))
      (traceType : Option String),
      ∃ tree, generator.eventTree filter saved traceType = .ok tree ∧
        ∀ event, tree.accepts event = true ↔
          (∀ wanted ∈ traceType, event.traceType = wanted) ∧
          (∀ f ∈ filter, (generator.tree f).accepts event = true) ∧
          ∀ entry ∈ saved, (generator.tree entry.2).accepts event = true) ∧
    ∀ (config : Config) (registry : Registry),
      let tree := FilterTree.ofSavedFilters config registry
      let generator := ofConfig config registry
      List.Forall₂ (fun id entry => tree.node? id = some (.namedFilter entry.1) ∧
        (∃ child, tree.children id = [child]) ∧
        ∀ event, tree.acceptsFrom id event = (generator.tree entry.2).accepts event)
        (tree.children rootId) config.usableFilters ∧
      ∀ event, tree.accepts event = true ↔
        ∀ saved ∈ config.savedFilters, saved.enabled = true →
          ∀ f, Filter.compile? saved.expression = some f →
            (generator.tree f).accepts event = true := by
  refine ⟨fun generator filter saved traceType => ?_, fun config registry => ?_⟩
  · obtain ⟨tree, made, accepts⟩ := generator.eventTree_accepts filter saved traceType
    refine ⟨tree, made, fun event => ?_⟩
    have passes : traceType.all (event.traceType == ·) = true ↔
        ∀ wanted ∈ traceType, event.traceType = wanted := by
      simp [Option.all_eq_true]
    rw [accepts, Bool.and_eq_true, passes, filters, List.all_append, Bool.and_eq_true,
      List.all_eq_true, List.all_eq_true, List.forall_mem_map]
    simp only [Option.mem_toList, Option.mem_def]
  · obtain ⟨parts, accepts⟩ := ofSavedFilters_parts config registry
    refine ⟨parts, fun event => ?_⟩
    rw [accepts, List.all_eq_true]
    exact forall_usableFilters_iff config fun f =>
      ((ofConfig config registry).tree f).accepts event = true

end Generator
end EventSieve
