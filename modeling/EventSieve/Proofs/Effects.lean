import EventSieve.Proofs.Locality
import EventSieve.Proofs.Placement

/-!
# The effects of edits

What the four edits of the children of a node do, and when they fail. An edit that fails leaves the
tree as it is, and one that succeeds takes away or brings what it says, and nothing else.

## Main definitions

* `Edit.Exact` — when an edit fails, and its effect if it does not
* `FilterTree.HasLeaf` — a node that has just been made
* `Edit.AllOrNothing` — an edit that leaves a tree as it is if it fails

## Main statements

* `Edit.exact_insertChild`, `Edit.exact_removeChild`, `Edit.exact_replaceChild`,
  `Edit.exact_graft` — the edits of sound trees
* `Edit.exact_of_reachable` — the edits of trees that a caller can make
* `FilterTree.Sound.allOrNothing` — calls that fail leave a sound tree as it is
-/
namespace EventSieve

open EventSieve.Tree (Node NodeKind NodeId Branch)

/-- A node without a flag and without children, below another one. -/
structure FilterTree.HasLeaf (tree : FilterTree) (parent id : NodeId) (node : Node) : Prop where
  node : tree.node? id = some node
  flag : tree.isNegated id = false
  parent : tree.parent? id = some parent
  children : tree.children id = []

/-- In a sound tree every child can be taken out, as a sound tree of its own. -/
theorem FilterTree.Sound.apply_removeChild {tree : FilterTree} {parent : NodeId} {old : Branch}
    {index : Nat} (h : tree.Sound) (found : tree.branch? parent = some old)
    (inside : index < old.children.length) :
    ∃ removed, removed.Sound ∧ removed.top.unnamed = old.children[index].unnamed ∧
      (Edit.removeChild parent index).apply tree =
        (.ok removed, (tree.cut parent index old.children[index]).release old.children[index]) := by
  have there := List.getElem?_eq_getElem inside
  have sound := (h.of_branch? found).of_mem
    (Branch.mem_preorder_of_mem_children (List.getElem_mem inside))
  obtain ⟨removed, made, whole, same⟩ := sound_ofBranch sound
  refine ⟨removed, whole, same, ?_⟩
  rw [Edit.removeChild, Edit.apply_bind_ok (Edit.apply_branch_ok found), there]
  simp only [made]
  rfl

/-- A sound tree is copied below a node of another one that has room for it. -/
theorem FilterTree.Sound.apply_graft {tree other : FilterTree} {parent : NodeId} {old : Branch}
    (h : tree.Sound) (sound : other.Sound) (found : tree.branch? parent = some old)
    (room : old.HasRoom) (nested : other.top.node.kind ≠ .root) :
    ∃ copy next, (Edit.graft parent other).apply tree = (.ok copy.id, next) ∧ next.Sound ∧
      Grown tree parent [copy] next ∧ next.branch? copy.id = some copy ∧
      copy.unnamed = other.top.unnamed := by
  obtain ⟨copy, next, run, growth, same⟩ :=
    Edit.graftBranch_grown sound.parts nested h.wellFormed found room
  have soundNext := h.graft sound parent
  rw [Edit.graft, run] at soundNext
  have known := mem_ids_of_branch? h.wellFormed found
  exact ⟨copy, next, run, soundNext, growth,
    growth.branch?_new known List.mem_cons_self copy.mem_preorder_self, same⟩

theorem FilterTree.Sound.hasLeaf {tree : FilterTree} {parent id : NodeId} {node : Node}
    (h : tree.Sound) (there : tree.branch? id = some (.mk id node false []))
    (below : tree.IsChild parent id) : tree.HasLeaf parent id node where
  node := node?_of_branch? there
  flag := isNegated_of_branch? there
  parent := h.parent?_of_isChild below
  children := children_of_branch? there

/-- Where a child has gone there is room for another one. -/
theorem FilterTree.Edited.not_isFull {tree next : FilterTree} {parent : NodeId} {index : Nat}
    {gone : List NodeId}
    (h : Edited tree parent gone [] ((tree.children parent).eraseIdx index) next)
    (consistent : tree.Consistent) (inside : index < (tree.children parent).length) :
    ¬next.IsFull parent := by
  rintro ⟨owner, limit, found, hmax, full⟩
  obtain ⟨live, stays⟩ := ((h.live parent).mp h.parent_live).resolve_right List.not_mem_nil
  rw [h.node parent live stays] at found
  rw [h.children_parent, List.length_eraseIdx, if_pos inside] at full
  have room := consistent.room parent owner found limit hmax
  omega

/-- Different nodes of a tree have different places. -/
theorem FilterTree.WellFormed.countAt_le_one {tree : FilterTree} {ids : List NodeId}
    (wf : tree.WellFormed) (known : ids ⊆ tree.ids) (distinct : ids.Nodup) (index : Nat) :
    countAt ids index ≤ 1 := by
  refine List.nodup_iff_count_le_one.mp (distinct.map_on fun one hone other hother same => ?_) _
  exact List.inj_on_of_nodup_map wf.distinct (known hone) (known hother) same

/-- The identity of a node that comes after others have gone was not one of them. -/
theorem FilterTree.Turnover.notMem {tree mid next : FilterTree} {gone : List NodeId} {id : NodeId}
    (h : Turnover tree gone mid) (later : Turnover mid [] next) (wf : tree.WellFormed)
    (known : gone ⊆ tree.ids) (distinct : gone.Nodup) (there : id ∈ next.ids)
    (new : id ∉ mid.ids) : id ∉ tree.ids := by
  intro old
  have lost : id ∈ gone := by
    by_contra stays
    exact new (h.kept id old stays)
  have once := wf.countAt_le_one known distinct id.index
  have both := h.trans later
  rw [List.append_nil] at both
  exact both.stale wf old lost (by omega) there

namespace Edit

open FilterTree (Edited HasLeaf IsFull Grown rootId)

/-- An edit that fails under a condition, leaves the tree as it is if it fails, and has an effect
if it does not. -/
structure Exact {α : Type} (edit : Edit α) (tree : FilterTree) (fails : Prop)
    (effect : α → FilterTree → Prop) : Prop where
  fails_iff : (∃ fault, (edit.apply tree).1 = .error fault) ↔ fails
  unchanged : ∀ fault, (edit.apply tree).1 = .error fault → (edit.apply tree).2 = tree
  effect : ∀ value, (edit.apply tree).1 = .ok value → effect value (edit.apply tree).2

theorem exact_of_cases {α : Type} {edit : Edit α} {tree : FilterTree} {fails : Prop}
    {effect : α → FilterTree → Prop}
    (refused : fails → ∃ fault, edit.apply tree = (.error fault, tree))
    (done : ¬fails → ∃ value next, edit.apply tree = (.ok value, next) ∧ effect value next) :
    edit.Exact tree fails effect := by
  by_cases condition : fails
  · obtain ⟨fault, run⟩ := refused condition
    refine ⟨⟨fun _ => condition, fun _ => ⟨fault, by rw [run]⟩⟩, fun _ _ => by rw [run], ?_⟩
    rw [run]
    exact nofun
  · obtain ⟨value, next, run, made⟩ := done condition
    refine ⟨⟨?_, fun h => absurd h condition⟩, ?_, fun other same => ?_⟩
    · rw [run]
      exact nofun
    · rw [run]
      exact nofun
    · rw [run] at same ⊢
      cases same
      exact made

namespace Exact

variable {α : Type} {edit : Edit α} {tree : FilterTree} {fails : Prop}
  {effect : α → FilterTree → Prop} (h : edit.Exact tree fails effect)

include h

theorem error (refused : fails) : ∃ fault, edit.apply tree = (.error fault, tree) := by
  obtain ⟨fault, failed⟩ := h.fails_iff.mpr refused
  exact ⟨fault, Prod.ext failed (h.unchanged fault failed)⟩

theorem ok (allowed : ¬fails) :
    ∃ value next, edit.apply tree = (.ok value, next) ∧ effect value next := by
  have made := h.effect
  have succeeds := mt h.fails_iff.mp allowed
  cases run : edit.apply tree with
  | mk result next =>
    rw [run] at made succeeds
    cases result with
    | ok value => exact ⟨value, next, rfl, made value rfl⟩
    | error fault => exact absurd ⟨fault, rfl⟩ succeeds

end Exact

variable {tree other : FilterTree}

/-- A new node is refused below a node that is unknown or full, or out of the range of its children,
and it is a leaf where it is not refused. -/
theorem exact_insertChild (h : tree.Sound) (parent : NodeId) (index : Nat) (node : Node) :
    (insertChild parent index node).Exact tree
      (node.kind = .root ∨ tree.isLive parent = false ∨ tree.IsFull parent ∨
        (tree.children parent).length < index)
      fun id next => next.HasLeaf parent id node ∧
        tree.Edited parent [] [id] ((tree.children parent).insertIdx index id) next := by
  refine exact_of_cases (fun fails => ?_) fun allowed => ?_
  · rcases insertChild_cases tree parent index node with failed | ⟨old, found, room, nested, inside⟩
    · exact failed
    · rw [FilterTree.isLive, FilterTree.isFull_iff found, FilterTree.children_of_branch? found,
        found, List.length_map] at fails
      rcases fails with root | dead | full | outside
      · exact absurd root nested
      · cases dead
      · exact absurd room full
      · omega
  · simp only [not_or, Bool.not_eq_false, Nat.not_lt] at allowed
    obtain ⟨nested, live, notFull, inside⟩ := allowed
    obtain ⟨old, found⟩ := FilterTree.exists_branch?_of_isLive live
    rw [FilterTree.isFull_iff found, not_not] at notFull
    have bound : index ≤ old.children.length := by
      rwa [FilterTree.children_of_branch? found, List.length_map] at inside
    have run := apply_insertChild found notFull nested bound
    have sound := h.insertChild parent index node
    rw [run] at sound
    have top := congrArg (Branch.modify parent fun b => b.withChildren
      (b.children.insertIdx index (.mk tree.allocate.1 node false []))) tree.allocate_parts.1
    obtain ⟨edited, there⟩ := h.edited_insertIdx sound found bound top
    refine ⟨_, _, run, sound.hasLeaf there ?_, edited⟩
    rw [FilterTree.IsChild, edited.children_parent]
    exact (List.mem_insertIdx inside).mpr (.inl rfl)

/-- A child is taken out unless there is none at the place. -/
theorem exact_removeChild (h : tree.Sound) (parent : NodeId) (index : Nat) :
    (removeChild parent index).Exact tree
      (tree.isLive parent = false ∨ (tree.children parent).length ≤ index)
      fun _ next => ∃ child, tree.child? parent index = some child ∧
        tree.Edited parent (tree.descendants child) [] ((tree.children parent).eraseIdx index)
          next := by
  refine exact_of_cases (fun fails => ?_) fun allowed => ?_
  · rcases removeChild_cases tree parent index with failed | ⟨old, child, found, there, -⟩
    · exact failed
    · rw [FilterTree.isLive, FilterTree.children_of_branch? found, found, List.length_map] at fails
      obtain ⟨inside, -⟩ := List.getElem?_eq_some_iff.mp there
      rcases fails with dead | outside
      · cases dead
      · omega
  · simp only [not_or, Bool.not_eq_false, Nat.not_le] at allowed
    obtain ⟨live, inside⟩ := allowed
    obtain ⟨old, found⟩ := FilterTree.exists_branch?_of_isLive live
    rw [FilterTree.children_of_branch? found, List.length_map] at inside
    obtain ⟨removed, -, -, run⟩ := h.apply_removeChild found inside
    have there := List.getElem?_eq_getElem inside
    have sound := (h.removeChild parent index).1
    rw [run] at sound
    have known := FilterTree.branch?_child h.wellFormed found (List.getElem_mem inside)
    have edited := h.edited_eraseIdx sound found there
      (FilterTree.release_parts (tree.cut parent index _) _).1
    refine ⟨removed, _, run, _, FilterTree.child?_of_branch? found there, ?_⟩
    rwa [FilterTree.descendants_of_branch? known]

/-- A new node takes the place of a child if the child can be taken out. -/
theorem exact_replaceChild (h : tree.Sound) (parent : NodeId) (index : Nat) (node : Node) :
    (replaceChild parent index node).Exact tree
      (node.kind = .root ∨ ∃ fault, ((removeChild parent index).apply tree).1 = .error fault)
      fun id next => next.HasLeaf parent id node ∧
        ∃ child, tree.child? parent index = some child ∧
          tree.Edited parent (tree.descendants child) [id] ((tree.children parent).set index id)
            next := by
  have removal := exact_removeChild h parent index
  refine exact_of_cases (fun fails => ?_) fun allowed => ?_
  · by_cases root : node.kind = .root
    · rw [replaceChild, if_pos root]
      exact ⟨_, rfl⟩
    · obtain ⟨fault, failed⟩ := fails.resolve_left root
      have run : (removeChild parent index).apply tree = (.error fault, tree) :=
        Prod.ext failed (removal.unchanged fault failed)
      rw [apply_replaceChild tree parent index root, run]
      exact ⟨fault, rfl⟩
  · obtain ⟨nested, succeeds⟩ := not_or.mp allowed
    rw [removal.fails_iff] at succeeds
    obtain ⟨taken, mid, run, child, there, gone⟩ := removal.ok succeeds
    have inside : index < (tree.children parent).length := by
      by_contra outside
      exact succeeds (.inr (Nat.le_of_not_lt outside))
    have sound := (h.removeChild parent index).1
    have removed := removeChild_turnover h.wellFormed parent index
    rw [FilterTree.removedAt, run] at removed
    simp only [there, Option.map_some, Option.getD_some] at removed
    rw [run] at sound
    have insertion := exact_insertChild sound parent index node
    obtain ⟨id, next, again, leaf, came⟩ := insertion.ok <| by
      rintro (root | dead | full | outside)
      · exact nested root
      · rw [gone.parent_live] at dead
        cases dead
      · exact gone.not_isFull h.consistent inside full
      · rw [gone.children_parent, List.length_eraseIdx, if_pos inside] at outside
        omega
    have later := (insertChild_turnover sound.wellFormed parent index node).1
    have brought := brings_insertChild parent index node mid id sound.wellFormed
    rw [again] at later brought
    obtain ⟨present, new⟩ := brought rfl
    rw [gone.children_parent, List.insertIdx_eraseIdx_self (by omega)] at came
    have fresh : tree.isLive id = false := by
      rw [← Bool.not_eq_true, FilterTree.isLive_iff h.wellFormed]
      exact removed.1.notMem later h.wellFormed removed.2 (h.nodup_descendants child) present new
    rw [apply_replaceChild tree parent index nested, run]
    refine ⟨id, next, again, leaf, child, there, gone.trans came fun other mem => ?_⟩
    rwa [List.mem_singleton.mp mem]

/-- A tree is copied below a node that has room for it unless it is refused. -/
theorem exact_graft (h : tree.Sound) (sound : other.Sound) (parent : NodeId) :
    (graft parent other).Exact tree
      (other.top.node.kind = .root ∨ tree.isLive parent = false ∨ tree.IsFull parent)
      fun id next => tree.Edited parent [] (next.descendants id) (tree.children parent ++ [id])
        next := by
  refine exact_of_cases (fun fails => ?_) fun allowed => ?_
  · rcases addChild_cases tree parent other.top.node with
      ⟨fault, failed⟩ | ⟨old, found, room, nested⟩
    · refine ⟨fault, ?_⟩
      rw [graft]
      generalize other.top = branch at failed
      obtain ⟨id, node, negated, children⟩ := branch
      have failed : (addChild parent node).apply tree = (.error fault, tree) := failed
      rw [graftBranch, apply_bind_error failed]
    · rw [FilterTree.isLive, FilterTree.isFull_iff found, found] at fails
      rcases fails with root | dead | full
      · exact absurd root nested
      · cases dead
      · exact absurd room full
  · simp only [not_or, Bool.not_eq_false] at allowed
    obtain ⟨nested, live, notFull⟩ := allowed
    obtain ⟨old, found⟩ := FilterTree.exists_branch?_of_isLive live
    rw [FilterTree.isFull_iff found, not_not] at notFull
    obtain ⟨copy, next, run, soundNext, growth, there, -⟩ :=
      h.apply_graft sound found notFull nested
    refine ⟨copy.id, next, run, ?_⟩
    rw [FilterTree.descendants_of_branch? there]
    exact h.edited_adopt soundNext found growth.top

/-- The edits of the children of a node, of trees that a caller can make with payloads that keep the
kinds of nodes: a new node, a child that is taken out, a new node in the place of a child, and a
copy of a tree. -/
theorem exact_of_reachable (reached : tree.Reachable Eq) (reachedOther : other.Reachable Eq)
    (parent : NodeId) (index : Nat) (node : Node) :
    (insertChild parent index node).Exact tree
        (node.kind = .root ∨ tree.isLive parent = false ∨ tree.IsFull parent ∨
          (tree.children parent).length < index)
        (fun id next => next.HasLeaf parent id node ∧
          tree.Edited parent [] [id] ((tree.children parent).insertIdx index id) next) ∧
      (removeChild parent index).Exact tree
        (tree.isLive parent = false ∨ (tree.children parent).length ≤ index)
        (fun _ next => ∃ child, tree.child? parent index = some child ∧
          tree.Edited parent (tree.descendants child) [] ((tree.children parent).eraseIdx index)
            next) ∧
      (replaceChild parent index node).Exact tree
        (node.kind = .root ∨ ∃ fault, ((removeChild parent index).apply tree).1 = .error fault)
        (fun id next => next.HasLeaf parent id node ∧
          ∃ child, tree.child? parent index = some child ∧
            tree.Edited parent (tree.descendants child) [id] ((tree.children parent).set index id)
              next) ∧
      (graft parent other).Exact tree
        (other.top.node.kind = .root ∨ tree.isLive parent = false ∨ tree.IsFull parent)
        (fun id next => tree.Edited parent [] (next.descendants id) (tree.children parent ++ [id])
          next) :=
  ⟨exact_insertChild reached.sound parent index node, exact_removeChild reached.sound parent index,
    exact_replaceChild reached.sound parent index node,
    exact_graft reached.sound reachedOther.sound parent⟩

/-- A gate with a node below it is replaced by a node that has the place of what was below the gate.
Before, the gate has no room for a copy of another tree. -/
theorem exact_of_reachable_gate :
    let calls : List Call :=
      [.add rootId .or, .add ⟨1, 0⟩ .and, .add ⟨1, 0⟩ (.traceTypeGate "ust"), .add ⟨3, 0⟩ .or]
    let tree := FilterTree.empty.afterAll calls
    let other := Call.after (.add rootId .and) (FilterTree.withTop .or)
    let outcome := (replaceChild ⟨1, 0⟩ 1 .and).apply tree
    tree.Reachable Eq ∧ other.Reachable Eq ∧ outcome.1 = .ok ⟨4, 1⟩ ∧
      outcome.2.HasLeaf ⟨1, 0⟩ ⟨4, 1⟩ .and ∧
      tree.Edited ⟨1, 0⟩ [⟨3, 0⟩, ⟨4, 0⟩] [⟨4, 1⟩] [⟨2, 0⟩, ⟨4, 1⟩] outcome.2 ∧
      ∃ fault, (graft ⟨3, 0⟩ other).apply tree = (.error fault, tree) := by
  intro calls tree other outcome
  have one : (FilterTree.empty.afterAll (calls.take 1)).Reachable Eq :=
    .call (.withTop .root) nofun trivial
  have two : (FilterTree.empty.afterAll (calls.take 2)).Reachable Eq := .call one nofun trivial
  have three : (FilterTree.empty.afterAll (calls.take 3)).Reachable Eq := .call two nofun trivial
  have reached : tree.Reachable Eq := .call three nofun trivial
  have reachedOther : other.Reachable Eq := .call (.withTop .or) nofun trivial
  obtain ⟨-, -, replacing, -⟩ := exact_of_reachable reached reachedOther ⟨1, 0⟩ 1 .and
  obtain ⟨-, -, -, grafting⟩ := exact_of_reachable reached reachedOther ⟨3, 0⟩ 0 .and
  have replaced : outcome.1 = .ok ⟨4, 1⟩ := by decide +kernel
  have refused : ((graft ⟨3, 0⟩ other).apply tree).1 =
      .error (.tooManyChildren .traceTypeGate 1) := by decide +kernel
  obtain ⟨leaf, child, there, edited⟩ := replacing.effect _ replaced
  have isGate : tree.child? ⟨1, 0⟩ 1 = some ⟨3, 0⟩ := by decide +kernel
  rw [isGate] at there
  cases there
  have gone : tree.descendants ⟨3, 0⟩ = [⟨3, 0⟩, ⟨4, 0⟩] := by decide +kernel
  have listed : (tree.children ⟨1, 0⟩).set 1 ⟨4, 1⟩ = [⟨2, 0⟩, ⟨4, 1⟩] := by decide +kernel
  rw [gone, listed] at edited
  exact ⟨reached, reachedOther, replaced, leaf, edited, _,
    Prod.ext refused (grafting.unchanged _ refused)⟩

end Edit

/-! ## Calls that fail -/

namespace Edit

/-- An edit that leaves a tree as it is if it fails. -/
def AllOrNothing {α : Type} (edit : Edit α) (tree : FilterTree) : Prop :=
  ∀ fault, (edit.apply tree).1 = .error fault → (edit.apply tree).2 = tree

variable {tree : FilterTree} {id : NodeId} {old : Branch}

theorem AllOrNothing.map {α β : Type} {edit : Edit α} (h : edit.AllOrNothing tree) (f : α → β) :
    (f <$> edit).AllOrNothing tree := by
  intro fault failed
  rw [apply_map] at failed ⊢
  cases result : (edit.apply tree).1 with
  | ok value =>
    rw [result] at failed
    cases failed
  | error other => exact h other result

/-- An edit is all or nothing if it fails at once or does not fail. -/
theorem allOrNothing_of_cases {α : Type} {edit : Edit α}
    (cases : (∃ fault, edit.apply tree = (.error fault, tree)) ∨
      ∃ value, (edit.apply tree).1 = .ok value) : edit.AllOrNothing tree := by
  intro fault failed
  rcases cases with ⟨_, run⟩ | ⟨_, made⟩
  · rw [run]
  · rw [made] at failed
    cases failed

theorem setNegated_ok (found : tree.branch? id = some old) (negated : Bool) :
    ((setNegated id negated).apply tree).1 = .ok () := by
  rw [setNegated, apply_bind_ok (apply_branch_ok found)]
  split <;> rfl

theorem toggleNegated_ok (found : tree.branch? id = some old) :
    ((toggleNegated id).apply tree).1 = .ok () := by
  rw [toggleNegated, apply_bind_ok (apply_branch_ok found)]
  exact setNegated_ok found !old.negated

theorem setNode_ok (found : tree.branch? id = some old) (node : Node) :
    ((setNode id node).apply tree).1 = .ok () := by
  have known : (discard (branch id)).apply tree = (.ok (), tree) :=
    apply_discard_ok (apply_branch_ok found)
  rw [setNode, apply_bind_ok known]
  rfl

/-- A node is added as it is inserted after all children. -/
theorem apply_addChild_eq (found : tree.branch? id = some old) (node : Node) :
    (addChild id node).apply tree = (insertChild id old.children.length node).apply tree :=
  apply_bind_ok (apply_branch_ok found) _

end Edit

/-- A call that fails leaves a sound tree as it is. -/
theorem FilterTree.Sound.allOrNothing {tree : FilterTree} (h : tree.Sound) {call : Call}
    (sources : ∀ other ∈ call.sources, other.Sound) : call.edit.AllOrNothing tree := by
  cases found : tree.branch? call.target with
  | none => exact Edit.allOrNothing_of_cases (.inl ⟨_, Call.apply_edit_unknown found⟩)
  | some old =>
    cases call with
    | insert parent index node =>
      exact Edit.AllOrNothing.map (Edit.exact_insertChild h parent index node).unchanged _
    | add parent node =>
      have insertion := (Edit.exact_insertChild h parent old.children.length node).unchanged
      have found : tree.branch? parent = some old := found
      rw [← Edit.apply_addChild_eq found] at insertion
      exact Edit.AllOrNothing.map insertion _
    | remove parent index =>
      exact Edit.AllOrNothing.map (Edit.exact_removeChild h parent index).unchanged _
    | replace parent index node =>
      exact Edit.AllOrNothing.map (Edit.exact_replaceChild h parent index node).unchanged _
    | graft parent other =>
      have sound := sources other List.mem_cons_self
      exact Edit.AllOrNothing.map (Edit.exact_graft h sound parent).unchanged _
    | generate generator parent filter =>
      refine Edit.AllOrNothing.map (Edit.allOrNothing_of_cases ?_) _
      by_cases room : old.HasRoom
      · obtain ⟨added, grown, run, -⟩ :=
          generator.addFilter_adds filter h.wellFormed found room
        exact .inr ⟨added.id, congrArg Prod.fst run⟩
      · exact .inl (generator.apply_addFilter_full found room filter)
    | setNegated id negated =>
      exact Edit.AllOrNothing.map
        (Edit.allOrNothing_of_cases (.inr ⟨_, Edit.setNegated_ok found negated⟩)) _
    | toggleNegated id =>
      exact Edit.AllOrNothing.map
        (Edit.allOrNothing_of_cases (.inr ⟨_, Edit.toggleNegated_ok found⟩)) _
    | setNode id node =>
      exact Edit.AllOrNothing.map
        (Edit.allOrNothing_of_cases (.inr ⟨_, Edit.setNode_ok found node⟩)) _

end EventSieve
