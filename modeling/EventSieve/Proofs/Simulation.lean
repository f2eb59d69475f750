import EventSieve.Proofs.SlotChanges

/-!
# Edits of arenas follow edits of trees

An edit of an arena that represents a tree has an outcome, which is that of the edit of the tree,
and leaves an arena that represents the tree after the edit. An edit is made of smaller ones, so
what is shown of these is shown of it.

## Main definitions

* `Arena.Edit.Agree` — outcomes that are alike
* `Arena.Edit.Tracks` — a run of an edit of an arena follows a run of an edit of a tree
* `Arena.Edit.Follows` — it does so from every arena that represents a tree

## Main statements

* `Arena.Edit.follows_insertChild`, `Arena.Edit.follows_removeChild`, `Arena.Edit.follows_graft` —
  edits of arenas follow the edits of trees
* `Generator.follows_buildFilter` — what a generator builds in an arena follows what it builds in a
  tree
-/
namespace EventSieve

open EventSieve.Tree (Node NodeKind NodeId Branch)

namespace Arena.Edit

variable {α β γ δ : Type} {arena next : Arena} {tree : FilterTree} {id parent : NodeId}

/-! ## Running edits -/

/-- An edit hands its value and its arena on, unless it fails or has no outcome. -/
theorem apply_bind (step : Arena.Edit α) (continuation : α → Arena.Edit β) (arena : Arena) :
    (step >>= continuation).apply arena =
      (step.apply arena).bind fun
        | (.ok value, next) => (continuation value).apply next
        | (.error fault, next) => some (.error fault, next) := by
  simp only [apply, ExceptT.run, StateT.run, bind, ExceptT.bind, ExceptT.mk, StateT.bind,
    ExceptT.bindCont]
  cases step arena with
  | none => rfl
  | some outcome => obtain ⟨_ | _, _⟩ := outcome <;> rfl

theorem apply_bind_ok {step : Arena.Edit α} {value : α}
    (run : step.apply arena = some (.ok value, next)) (continuation : α → Arena.Edit β) :
    (step >>= continuation).apply arena = (continuation value).apply next := by
  rw [apply_bind, run]
  rfl

theorem apply_bind_error {step : Arena.Edit α} {fault : EditError}
    (run : step.apply arena = some (.error fault, next)) (continuation : α → Arena.Edit β) :
    (step >>= continuation).apply arena = some (.error fault, next) := by
  rw [apply_bind, run]
  rfl

/-- An edit that reads the arena goes on with it. -/
theorem apply_get_bind (continuation : Arena → Arena.Edit α) (arena : Arena) :
    (get >>= continuation).apply arena = (continuation arena).apply arena :=
  rfl

theorem apply_slot {slot : Slot} (there : arena.slot? id = some slot) :
    (Edit.slot id).apply arena = some (.ok slot, arena) := by
  rw [Edit.slot, apply_get_bind, there]
  rfl

theorem apply_slot_error (gone : arena.slot? id = none) :
    (Edit.slot id).apply arena = some (.error (.unknownNode id), arena) := by
  rw [Edit.slot, apply_get_bind, gone]
  rfl

theorem apply_change {slot : Slot} (there : arena.slot? id = some slot) (f : Slot → Slot) :
    (change id f).apply arena = some (.ok (), arena.modifySlot id.index f) := by
  have known : (discard (Edit.slot id)).apply arena = some (.ok (), arena) :=
    apply_bind_ok (apply_slot there) _
  rw [change, apply_bind_ok known]
  rfl

theorem apply_change_error (gone : arena.slot? id = none) (f : Slot → Slot) :
    (change id f).apply arena = some (.error (.unknownNode id), arena) :=
  apply_bind_error (apply_bind_error (apply_slot_error gone) _) _

/-! ## Runs that follow runs -/

/-- Two outcomes that are alike: values that a relation allows, or one and the same failure. -/
inductive Agree (relation : α → β → Prop) : Except EditError α → Except EditError β → Prop
  | ok {value : α} {other : β} (h : relation value other) : Agree relation (.ok value) (.ok other)
  | error (fault : EditError) : Agree relation (.error fault) (.error fault)

theorem Agree.exists_right {relation : α → β → Prop} {value : α} {outcome : Except EditError β}
    (h : Agree relation (.ok value) outcome) :
    ∃ other, outcome = .ok other ∧ relation value other := by
  cases h with
  | ok h => exact ⟨_, rfl, h⟩

theorem Agree.exists_left {relation : α → β → Prop} {other : β} {outcome : Except EditError α}
    (h : Agree relation outcome (.ok other)) :
    ∃ value, outcome = .ok value ∧ relation value other := by
  cases h with
  | ok h => exact ⟨_, rfl, h⟩

theorem Agree.eq_error {relation : α → β → Prop} {fault : EditError} {outcome : Except EditError β}
    (h : Agree relation (.error fault) outcome) : outcome = .error fault := by
  cases h with
  | error => rfl

/-- An edit of an arena has an outcome, like that of an edit of a tree, and leaves an arena that
represents the tree after that edit. -/
def Tracks (relation : α → β → Prop) (step : Arena.Edit α) (edit : EventSieve.Edit β)
    (arena : Arena) (tree : FilterTree) : Prop :=
  ∃ result next, step.apply arena = some (result, next) ∧ next.Represents (edit.apply tree).2 ∧
    Agree relation result (edit.apply tree).1

/-- An edit of an arena follows an edit of a tree from wherever the arena represents the tree. -/
def Follows (relation : α → β → Prop) (step : Arena.Edit α) (edit : EventSieve.Edit β) : Prop :=
  ∀ ⦃arena tree⦄, arena.Represents tree → step.Tracks relation edit arena tree

variable {relation : α → β → Prop} {other : γ → δ → Prop} {step : Arena.Edit α}
  {edit : EventSieve.Edit β}

theorem Tracks.of_ok {value : α} {result : β} {last : FilterTree}
    (run : step.apply arena = some (.ok value, next)) (run' : edit.apply tree = (.ok result, last))
    (h : next.Represents last) (same : relation value result) :
    step.Tracks relation edit arena tree :=
  ⟨_, _, run, by rw [run']; exact h, by rw [run']; exact .ok same⟩

theorem Tracks.of_error {fault : EditError} {last : FilterTree}
    (run : step.apply arena = some (.error fault, next))
    (run' : edit.apply tree = (.error fault, last)) (h : next.Represents last) :
    step.Tracks relation edit arena tree :=
  ⟨_, _, run, by rw [run']; exact h, by rw [run']; exact .error fault⟩

/-- What follows a run that tracks another one. -/
theorem Tracks.bind {continuation : α → Arena.Edit γ} {after : β → EventSieve.Edit δ}
    (first : step.Tracks relation edit arena tree)
    (later : ∀ {value result next last}, edit.apply tree = (.ok result, last) →
      next.Represents last → relation value result →
      (continuation value).Tracks other (after result) next last) :
    (step >>= continuation).Tracks other (edit >>= after) arena tree := by
  obtain ⟨result, next, run, represents, agree⟩ := first
  cases run' : edit.apply tree with
  | mk result' last =>
    rw [run'] at represents agree
    cases agree with
    | ok same =>
      rw [Tracks, apply_bind_ok run, EventSieve.Edit.apply_bind_ok run']
      exact later run' represents same
    | error fault =>
      exact .of_error (apply_bind_error run _) (EventSieve.Edit.apply_bind_error run' _) represents

theorem Follows.pure {value : α} {result : β} (same : relation value result) :
    Follows relation (pure value : Arena.Edit α) (pure result) := fun _ _ h =>
  .of_ok rfl rfl h same

theorem Follows.throw (fault : EditError) :
    Follows relation (throw fault : Arena.Edit α) (throw fault) := fun _ _ h =>
  .of_error rfl rfl h

theorem Follows.bind {continuation : α → Arena.Edit γ} {after : β → EventSieve.Edit δ}
    (first : Follows relation step edit)
    (later : ∀ value result, relation value result →
      Follows other (continuation value) (after result)) :
    Follows other (step >>= continuation) (edit >>= after) := fun _ _ h =>
  (first h).bind fun _ represents same => later _ _ same represents

theorem Follows.map {f : α → γ} {g : β → δ} (first : Follows relation step edit)
    (same : ∀ value result, relation value result → other (f value) (g result)) :
    Follows other (f <$> step) (g <$> edit) :=
  first.bind fun _ _ h => .pure (same _ _ h)

theorem Follows.discard (first : Follows relation step edit) :
    Follows Eq (discard step) (discard edit) :=
  first.map fun _ _ _ => rfl

/-- A lookup finds what the branch keeps in its place, or fails as the lookup of the branch does. -/
theorem Tracks.slot_bind {continuation : Slot → Arena.Edit γ} {after : Branch → EventSieve.Edit δ}
    (h : arena.Represents tree)
    (later : ∀ {branch owner?}, tree.branch? id = some branch → tree.Hangs owner? branch →
      arena.slot? id = some (branch.slot owner?) →
      (continuation (branch.slot owner?)).Tracks other (after branch) arena tree) :
    (slot id >>= continuation).Tracks other (EventSieve.Edit.branch id >>= after) arena tree := by
  rcases h.slot?_cases id with ⟨none, gone⟩ | ⟨branch, owner?, found, hangs, -, there⟩
  · exact .of_error (apply_bind_error (apply_slot_error gone) _)
      (EventSieve.Edit.apply_bind_error (EventSieve.Edit.apply_branch_error none) _) h
  · rw [Tracks, apply_bind_ok (apply_slot there),
      EventSieve.Edit.apply_bind_ok (EventSieve.Edit.apply_branch_ok found)]
    exact later found hangs there

/-! ## Nodes and flags -/

theorem tracks_copyFlag (h : arena.Represents tree) {branch : Branch}
    (found : tree.branch? id = some branch) (negated : Bool) :
    (copyFlag id negated).Tracks Eq (EventSieve.Edit.copyFlag id negated) arena tree := by
  rcases h.slot?_cases id with ⟨none, -⟩ | ⟨_, owner?, -, -, -, there⟩
  · rw [none] at found
    cases found
  · refine .of_ok (apply_change there _) rfl (h.modifyBranch found (Branch.ids_withNegated negated)
      (fun b => b.id_withNegated negated) ?_ (fun owner? => ?_) fun _ => rfl) rfl
    · exact branch.children_withNegated negated
    · simp [Branch.slot]

theorem follows_setNegated (id : NodeId) (negated : Bool) :
    Follows Eq (setNegated id negated) (EventSieve.Edit.setNegated id negated) := by
  intro arena tree h
  refine .slot_bind h fun {branch owner?} found _ _ => ?_
  by_cases able : branch.node.kind.canNegate = true
  · have able' : (branch.slot owner?).node.kind.canNegate = true := able
    simp only [able, able', if_true]
    exact tracks_copyFlag h found negated
  · have able' : ¬(branch.slot owner?).node.kind.canNegate = true := able
    simp only [if_neg able, if_neg able']
    exact Follows.pure rfl h

theorem follows_toggleNegated (id : NodeId) :
    Follows Eq (toggleNegated id) (EventSieve.Edit.toggleNegated id) := by
  intro arena tree h
  exact .slot_bind h fun {branch _} _ _ _ => follows_setNegated id (!branch.negated) h

theorem follows_setNode (id : NodeId) (node : Node) :
    Follows Eq (setNode id node) (EventSieve.Edit.setNode id node) := by
  intro arena tree h
  rcases h.slot?_cases id with ⟨none, gone⟩ | ⟨branch, owner?, found, -, -, there⟩
  · exact .of_error (apply_change_error gone _) (EventSieve.Edit.apply_bind_error
      (EventSieve.Edit.apply_discard_error (EventSieve.Edit.apply_branch_error none)) _) h
  · refine .of_ok (apply_change there _) (EventSieve.Edit.apply_bind_ok
      (EventSieve.Edit.apply_discard_ok (EventSieve.Edit.apply_branch_ok found)) _)
      (h.modifyBranch found (Branch.ids_withNode node) (fun b => b.id_withNode node) ?_
        (fun owner? => ?_) fun _ => rfl) rfl
    · exact branch.children_withNode node
    · simp [Branch.slot]

/-! ## New nodes -/

/-- A new node gets the identity that the tree allocates. -/
theorem apply_allocate (h : arena.Represents tree) (parent : NodeId) (node : Node) :
    ∃ next, (allocate { node, parent? := some parent }).apply arena =
        some (.ok tree.allocate.1, next) ∧ arena.Allocated tree parent node next := by
  rw [allocate, apply_get_bind, h.accounts.free_eq]
  cases free : tree.free with
  | nil =>
    refine ⟨_, ?_, h.allocated_new free parent node⟩
    rw [FilterTree.allocate_nil free, ← h.accounts.length_eq]
    rfl
  | cons index rest =>
    obtain ⟨slot, there, -⟩ := h.accounts.detached index (free ▸ List.mem_cons_self)
    obtain ⟨same, allocated⟩ := h.allocated_again free there parent node
    refine ⟨_, ?_, allocated⟩
    rw [same]
    simp only [there]
    rfl

/-- A new node is put in its place and listed by its parent. -/
theorem tracks_insert (h : arena.Represents tree) {old : Branch} {owner? : Option NodeId}
    (found : tree.branch? parent = some old) (hangs : tree.Hangs owner? old) {index : Nat}
    (fits : index ≤ old.children.length) (node : Node) :
    (do
      let id ← allocate { node, parent? := some parent }
      change parent fun old => { old with children := old.children.insertIdx index id }
      return id : Arena.Edit NodeId).Tracks Eq (do
        let (id, tree) := (← get).allocate
        let new := Branch.mk id node false []
        set (tree.modifyBranch parent fun old =>
          old.withChildren (old.children.insertIdx index new))
        return id : EventSieve.Edit NodeId) arena tree := by
  obtain ⟨next, run, allocated⟩ := apply_allocate h parent node
  have there : next.slot? parent = some (old.slot owner?) := by
    obtain ⟨-, rfl⟩ := (FilterTree.branch?_eq_some_iff h.wellFormed).mp found
    have there := slot?_eq_some_iff.mp (h.slot?_of_hangs hangs)
    rw [← h.getElem?_allocated allocated hangs.id_mem_ids] at there
    exact slot?_eq_some_iff.mpr there
  refine .of_ok ?_ rfl (h.insertIdx found fits allocated) rfl
  rw [apply_bind_ok run, apply_bind_ok (apply_change there _)]
  rfl

theorem follows_insertChild (parent : NodeId) (index : Nat) (node : Node) :
    Follows Eq (insertChild parent index node)
      (EventSieve.Edit.insertChild parent index node) := by
  intro arena tree h
  rw [insertChild, EventSieve.Edit.insertChild]
  by_cases nested : node.kind = .root
  · rw [if_pos nested, if_pos nested]
    exact Follows.throw _ h
  rw [if_neg nested, if_neg nested]
  refine .slot_bind h fun {old owner?} found hangs there => ?_
  have count : (old.slot owner?).children.length = old.children.length := List.length_map _
  have kind : (old.slot owner?).node.kind = old.node.kind := rfl
  simp only [count, kind]
  have place (fits : index ≤ old.children.length) := tracks_insert h found hangs fits node
  cases hmax : old.node.kind.maxChildren? with
  | none =>
    by_cases fits : old.children.length < index
    · simp only [if_pos fits]
      exact Follows.throw _ h
    · simp only [if_neg fits]
      exact place (Nat.le_of_not_lt fits)
  | some limit =>
    by_cases full : limit ≤ old.children.length
    · simp only [if_pos full]
      exact Follows.throw _ h
    · by_cases fits : old.children.length < index
      · simp only [if_neg full, if_pos fits]
        exact Follows.throw _ h
      · simp only [if_neg full, if_neg fits]
        exact place (Nat.le_of_not_lt fits)

theorem follows_addChild (parent : NodeId) (node : Node) :
    Follows Eq (addChild parent node) (EventSieve.Edit.addChild parent node) := by
  intro arena tree h
  refine .slot_bind h fun {old owner?} _ _ _ => ?_
  rw [show (old.slot owner?).children.length = old.children.length from List.length_map _]
  exact follows_insertChild parent old.children.length node h

/-! ## Copies -/

/-- Copies that follow copies, one after the other. -/
theorem follows_graftAll {source : Arena} {branches : List Branch}
    (each : ∀ b ∈ branches,
      Follows Eq (source.copyBelow parent b.id) (EventSieve.Edit.graftBranch parent b)) :
    Follows Eq ((branches.map (·.id)).forM fun child => do
        let _ ← source.copyBelow parent child
        return : Arena.Edit Unit)
      (EventSieve.Edit.graftAll parent branches) := by
  induction branches with
  | nil => exact .pure rfl
  | cons b rest ih =>
    obtain ⟨first, later⟩ := List.forall_mem_cons.mp each
    have here : Follows Eq (do let _ ← source.copyBelow parent b.id; return)
        (discard (EventSieve.Edit.graftBranch parent b)) := first.discard
    rw [EventSieve.Edit.graftAll, List.map_cons]
    exact here.bind fun _ _ _ => ih later

/-- A copy of what an arena shows follows a copy of the branch. -/
theorem follows_copyBelow {source : Arena} {branch : Branch} (shown : source.Shows branch)
    (parent : NodeId) :
    Follows Eq (source.copyBelow parent branch.id)
      (EventSieve.Edit.graftBranch parent branch) := by
  induction branch using Branch.induction generalizing parent with
  | mk id node negated children ih =>
    intro arena tree h
    obtain ⟨owner?, there⟩ := shown.self
    rw [copyBelow, there, EventSieve.Edit.graftBranch]
    refine (follows_addChild parent node h).bind fun {value new next last} run represents same => ?_
    obtain rfl : value = new := same
    -- the flag is set under the identity that the addition has given out
    have brought := EventSieve.Edit.brings_addChild parent node tree value h.wellFormed
    rw [run] at brought
    obtain ⟨found, known⟩ := (FilterTree.mem_ids_iff represents.wellFormed).mp (brought rfl).1
    refine (tracks_copyFlag represents known negated).bind fun _ represents _ => ?_
    exact (follows_graftAll fun b mem => ih b mem (shown.child mem) _).bind
      (fun _ _ _ => .pure rfl) represents

theorem follows_graft {other : Arena} {source : FilterTree} (h : other.Represents source)
    (parent : NodeId) :
    Follows Eq (graft parent other) (EventSieve.Edit.graft parent source) := by
  rw [graft, h.root, ← h.top_id]
  exact follows_copyBelow h.shows_top parent

/-- A branch is a tree of its own if its children can be copied below its top. -/
theorem ofBranch_eq {branch : Branch} {result : Except EditError Unit} {last : FilterTree}
    (run : (EventSieve.Edit.graftAll FilterTree.rootId branch.children).apply
      ((FilterTree.withTop branch.node).modifyBranch FilterTree.rootId
        (·.withNegated branch.negated)) = (result, last)) :
    FilterTree.ofBranch branch = result.map fun _ => last := by
  have run : (EventSieve.Edit.graftAll FilterTree.rootId branch.children).run.run
      { FilterTree.withTop branch.node with
        top := (FilterTree.withTop branch.node).top.withNegated branch.negated } =
      (result, last) := run
  simp only [FilterTree.ofBranch, run]
  cases result <;> rfl

/-- A branch that an arena shows becomes an arena of its own, as the branch becomes a tree. -/
theorem subtree_agree {branch : Branch} (shown : arena.Shows branch) :
    ∃ result, arena.subtree branch.id = some result ∧
      Agree Arena.Represents result (FilterTree.ofBranch branch) := by
  obtain ⟨owner?, there⟩ := shown.self
  obtain ⟨result, part, run, represents, agree⟩ :=
    follows_graftAll (fun b mem => follows_copyBelow (shown.child mem) FilterTree.rootId)
      (Represents.withTop_flag branch.node branch.negated)
  refine ⟨result.map fun _ => part, ?_, ?_⟩
  · rw [Arena.subtree, there]
    refine (congrArg (Option.bind · _) run).trans ?_
    cases result <;> rfl
  · cases run' : (EventSieve.Edit.graftAll FilterTree.rootId branch.children).apply _ with
    | mk result' last =>
      rw [run'] at represents agree
      rw [ofBranch_eq run']
      cases agree with
      | ok => exact .ok represents
      | error fault => exact .error fault

/-! ## Removals -/

theorem tracks_subtree (h : arena.Represents tree) {branch : Branch} (shown : arena.Shows branch) :
    (subtree branch.id).Tracks Arena.Represents (FilterTree.ofBranch branch) arena tree := by
  obtain ⟨result, run, agree⟩ := subtree_agree shown
  have step : (subtree branch.id).apply arena = some (result, arena) := by
    rw [subtree, apply_get_bind, run]
    cases result <;> rfl
  exact ⟨result, arena, step, h, agree⟩

/-- The places of a branch that was cut off are given up in the order of a walk. -/
theorem tracks_release (h : arena.Represents tree) {owner : NodeId} {child : Branch}
    {rest : List (NodeId × Branch)} (strays : tree.strays = (owner, child) :: rest) :
    (release child.id).Tracks Eq (modify fun tree => tree.release child) arena tree := by
  have shown : arena.Shows child := h.shows (.stray (strays ▸ List.mem_cons_self))
  refine .of_ok ?_ rfl (h.release strays) rfl
  rw [release, apply_get_bind, shown.descendants_eq]
  rfl

theorem follows_removeChild (parent : NodeId) (index : Nat) :
    Follows Arena.Represents (removeChild parent index)
      (EventSieve.Edit.removeChild parent index) := by
  intro arena tree h
  refine .slot_bind h fun {old owner?} found hangs there => ?_
  have children : (old.slot owner?).children[index]? =
      old.children[index]?.map (·.id) := List.getElem?_map
  have count : (old.slot owner?).children.length = old.children.length := List.length_map _
  rw [children, count]
  cases nth : old.children[index]? with
  | none => exact Follows.throw _ h
  | some child =>
    have cut : (change parent fun old =>
          { old with children := old.children.eraseIdx index }).Tracks Eq
        (modify fun tree => tree.cut parent index child) arena tree :=
      .of_ok (apply_change there _) rfl (h.cut found nth) rfl
    refine cut.bind fun run represents _ => ?_
    cases run
    -- what was cut off is a stray now, so the arena still shows it
    have copied := tracks_subtree represents (represents.shows (.stray List.mem_cons_self))
    refine copied.bind fun {_ _ _ last} run represents same => ?_
    obtain rfl : tree.cut parent index child = last := congrArg Prod.snd run
    exact (tracks_release represents rfl).bind fun _ represents _ =>
      Follows.pure same represents

theorem follows_replaceChild (parent : NodeId) (index : Nat) (node : Node) :
    Follows Eq (replaceChild parent index node)
      (EventSieve.Edit.replaceChild parent index node) := by
  rw [replaceChild, EventSieve.Edit.replaceChild]
  by_cases nested : node.kind = .root
  · rw [if_pos nested, if_pos nested]
    exact .throw _
  · rw [if_neg nested, if_neg nested]
    exact (follows_removeChild parent index).discard.bind fun _ _ _ =>
      follows_insertChild parent index node

end Arena.Edit

/-! ## Generated nodes -/

namespace Generator

open Arena.Edit (Follows follows_addChild follows_setNegated)

theorem follows_buildNode (parent : NodeId) (node : Node) (negated : Bool) :
    Follows Eq (buildNode parent node negated) (addNode parent node negated) :=
  (follows_addChild parent node).bind fun id _ same => same ▸
    (follows_setNegated id negated).bind fun _ _ _ => .pure rfl

theorem follows_buildMatches (generator : Generator) (parent : NodeId) (pattern : String)
    (aspects : List Aspect) :
    Follows Eq (generator.buildMatches parent pattern aspects)
      (generator.addMatches parent pattern aspects) := by
  induction aspects with
  | nil => exact .pure rfl
  | cons aspect rest ih => exact (follows_addChild parent _).discard.bind fun _ _ _ => ih

theorem follows_buildComparison (generator : Generator) (parent : NodeId)
    (comparison : Comparison) (negated : Bool) :
    Follows Eq (generator.buildComparison parent comparison negated)
      (generator.addComparison parent comparison negated) := by
  unfold addComparison buildComparison
  by_cases anywhere : comparison.isAnywhere = true
  · simp only [anywhere, if_true]
    exact (follows_buildNode _ _ _).bind fun id _ same => same ▸
      (generator.follows_buildMatches id _ _).bind fun _ _ _ => .pure rfl
  · simp only [if_neg anywhere]
    exact follows_buildNode _ _ _

theorem follows_buildClause (generator : Generator) (parent : NodeId) (clause : Clause) :
    Follows Eq (generator.buildClause parent clause) (generator.addClause parent clause) := by
  unfold addClause buildClause
  cases clause with
  | single => exact generator.follows_buildComparison _ _ _
  | joined =>
    exact (follows_buildNode _ _ _).bind fun id _ same => same ▸
      (generator.follows_buildComparison id _ _).discard.bind fun _ _ _ =>
        (generator.follows_buildComparison id _ _).discard.bind fun _ _ _ => .pure rfl

theorem follows_buildClauses (generator : Generator) (parent : NodeId) (clauses : List Clause) :
    Follows Eq (generator.buildClauses parent clauses)
      (generator.addClauses parent clauses) := by
  induction clauses with
  | nil => exact .pure rfl
  | cons clause rest ih =>
    exact (generator.follows_buildClause parent clause).discard.bind fun _ _ _ => ih

/-- A generator builds in an arena what it builds in a tree. -/
theorem follows_buildFilter (generator : Generator) (parent : NodeId) (filter : Filter) :
    Follows Eq (generator.buildFilter parent filter) (generator.addFilter parent filter) := by
  unfold addFilter buildFilter
  split
  · exact generator.follows_buildClause _ _
  · exact (follows_buildNode _ _ _).bind fun id _ same => same ▸
      (generator.follows_buildClauses id _).bind fun _ _ _ => .pure rfl

end Generator
end EventSieve
