import EventSieve.Proofs.Calls
import Mathlib.Algebra.Group.Nat.Defs
import Mathlib.Data.List.InsertIdx

/-!
# What edits do to places

A run of edits of a well-formed tree leaves a well-formed tree. It keeps the nodes that it does not
remove, and it counts the generation of a place up once for every node that it removes there. Edits
that only add nodes and change flags remove nothing, and the identities that they return are new.

## Main definitions

* `FilterTree.Turnover` — a tree, the identities removed from it, and the tree afterwards
* `Edit.Brings` — an edit that returns the identity of a new node

## Main statements

* `FilterTree.Turnover.trans` — the turnover of one run after another
* `FilterTree.Turnover.stale` — an identity that was removed does not come back
* `Edit.growing_keeps` — additions and flags remove nothing
* `Edit.brings_graft`, `Generator.brings_addFilter` — the identities of copies and of generated
  nodes are new
-/
namespace EventSieve

open EventSieve.Tree (Node NodeKind NodeId Branch)

/-! ## Children that come and go -/

namespace Tree.Branch

/-- A branch among the children of another one brings its identities. -/
theorem ids_insertIdx_perm (old new : Branch) {index : Nat}
    (inside : index ≤ old.children.length) :
    ((old.withChildren (old.children.insertIdx index new)).ids ++ []).Perm
      (old.ids ++ new.ids) := by
  obtain ⟨id, node, negated, children⟩ := old
  rw [withChildren, ids_mk, ids_mk, List.append_nil, List.cons_append]
  refine .cons _ (((List.perm_insertIdx new children inside).flatMap_right ids).trans ?_)
  rw [List.flatMap_cons]
  exact List.perm_append_comm

/-- A branch that goes from the children of another one takes its identities away. -/
theorem ids_eraseIdx_perm {old child : Branch} {index : Nat}
    (there : old.children[index]? = some child) :
    ((old.withChildren (old.children.eraseIdx index)).ids ++ child.ids).Perm (old.ids ++ []) := by
  obtain ⟨id, node, negated, children⟩ := old
  obtain ⟨inside, rfl⟩ := List.getElem?_eq_some_iff.mp there
  rw [withChildren, ids_mk, ids_mk, List.append_nil, List.cons_append]
  refine .cons _ (List.perm_append_comm.trans ?_)
  rw [← List.flatMap_cons]
  exact (List.getElem_cons_eraseIdx_perm inside).flatMap_right ids

end Tree.Branch

namespace FilterTree

/-! ## Turnover -/

/-- How many of some identities are of a place. -/
def countAt (ids : List NodeId) (index : Nat) : Nat :=
  (ids.map NodeId.index).count index

theorem countAt_append (one other : List NodeId) (index : Nat) :
    countAt (one ++ other) index = countAt one index + countAt other index := by
  rw [countAt, List.map_append, List.count_append, countAt, countAt]

theorem countAt_cons (id : NodeId) (ids : List NodeId) (index : Nat) :
    countAt (id :: ids) index = countAt ids index + if id.index = index then 1 else 0 := by
  rw [countAt, List.map_cons, List.count_cons, countAt]
  simp

theorem countAt_pos {ids : List NodeId} {id : NodeId} (h : id ∈ ids) : 0 < countAt ids id.index :=
  List.count_pos_iff.mpr (List.mem_map_of_mem h)

/-- What becomes of a well-formed tree when some of its nodes are removed, and others may come. -/
structure Turnover (tree : FilterTree) (removed : List NodeId) (next : FilterTree) : Prop where
  wellFormed : next.WellFormed
  generation : ∀ index generation, tree.generations[index]? = some generation →
    next.generations[index]? = some (generation + UInt32.ofNat (countAt removed index))
  kept : ∀ id ∈ tree.ids, id ∉ removed → id ∈ next.ids

namespace Turnover

variable {tree next last : FilterTree} {removed more : List NodeId}

theorem refl (wf : tree.WellFormed) : Turnover tree [] tree where
  wellFormed := wf
  generation index generation h := by simpa [countAt] using h
  kept id mem _ := mem

theorem trans (h : Turnover tree removed next) (later : Turnover next more last) :
    Turnover tree (removed ++ more) last where
  wellFormed := later.wellFormed
  generation index generation found := by
    rw [later.generation _ _ (h.generation _ _ found), countAt_append, UInt32.ofNat_add,
      UInt32.add_assoc]
  kept id mem stays := by
    rw [List.mem_append, not_or] at stays
    exact later.kept id (h.kept id mem stays.1) stays.2

/-- Where the places stay as they are and no identity goes, nothing is removed. -/
theorem of_subset (wf : next.WellFormed) (generations : tree.generations <+: next.generations)
    (ids : tree.ids ⊆ next.ids) : Turnover tree [] next where
  wellFormed := wf
  generation index generation found := by
    obtain ⟨added, extended⟩ := generations
    obtain ⟨inside, -⟩ := List.getElem?_eq_some_iff.mp found
    rw [← extended, List.getElem?_append_left inside, found]
    simp [countAt]
  kept id mem _ := ids mem

/-- An identity that was removed is not one of the tree again, unless its place has been given up so
often that its generations begin anew. -/
theorem stale (h : Turnover tree removed next) (wf : tree.WellFormed) {id : NodeId}
    (known : id ∈ tree.ids) (gone : id ∈ removed) (few : countAt removed id.index < 2 ^ 32) :
    id ∉ next.ids := by
  intro back
  have before := h.generation _ _ (wf.current id known)
  rw [h.wellFormed.current id back, Option.some.injEq, eq_comm] at before
  have none : UInt32.ofNat (countAt removed id.index) = 0 := by
    simpa using before
  have zero := congrArg UInt32.toNat none
  rw [UInt32.toNat_ofNat_of_lt' few] at zero
  have some := countAt_pos gone
  rw [zero] at some
  exact absurd some (by decide)

end Turnover

/-! ## Additions and flags -/

/-- A tree with the same identities and the same places is as well formed. -/
theorem WellFormed.of_perm {tree next : FilterTree} (h : tree.WellFormed)
    (perm : next.ids.Perm tree.ids) (generations : next.generations = tree.generations)
    (free : next.free = tree.free) : next.WellFormed where
  distinct := (perm.map NodeId.index).nodup_iff.mpr h.distinct
  current id mem := by
    rw [generations]
    exact h.current id (perm.mem_iff.mp mem)
  free_nodup := by
    rw [free]
    exact h.free_nodup
  mem_free index := by
    rw [free, generations, (perm.map NodeId.index).mem_iff]
    exact h.mem_free index

/-- A change of a node takes away and brings the identities that it does there. -/
theorem flatMap_modify_perm {tree : FilterTree} (wf : tree.WellFormed) {target : NodeId}
    {old : Branch} (found : tree.branch? target = some old) (change : Branch → Branch)
    (minus plus : List NodeId) (here : ((change old).ids ++ minus).Perm (old.ids ++ plus)) :
    ((tree.branches.map (·.modify target change)).flatMap Branch.ids ++ minus).Perm
      (tree.ids ++ plus) := by
  refine Branch.flatMap_ids_modify_perm_of (fun b hb distinct mem => ?_) wf.ids_nodup
    (mem_ids_of_branch? wf found)
  refine Branch.ids_modify_perm_of (fun part hpart hid => ?_) distinct mem
  have unique := (branch?_eq_some_iff wf).mpr ⟨List.mem_flatMap.mpr ⟨b, hb, hpart⟩, hid⟩
  rw [found] at unique
  cases unique
  exact here

/-- A change that keeps all identities removes nothing. -/
theorem Turnover.modifyBranch {tree : FilterTree} (wf : tree.WellFormed) (id : NodeId)
    {change : Branch → Branch} (keeps : ∀ b, (change b).ids = b.ids) :
    Turnover tree [] (tree.modifyBranch id change) := by
  refine .of_subset (wf.modifyBranch id keeps) (List.prefix_refl _) fun other mem => ?_
  rw [ids, branches_modifyBranch, List.flatMap_map]
  rwa [List.flatMap_congr fun b _ => Branch.ids_modify keeps b]

/-- A new node among the children of another one removes nothing, and its identity is new. -/
theorem insert_turnover {tree : FilterTree} (wf : tree.WellFormed) {parent : NodeId} {old : Branch}
    (found : tree.branch? parent = some old) (node : Node) {index : Nat}
    (inside : index ≤ old.children.length) :
    let next := tree.allocate.2.modifyBranch parent fun b =>
      b.withChildren (b.children.insertIdx index (.mk tree.allocate.1 node false []))
    Turnover tree [] next ∧ tree.allocate.1 ∈ next.ids ∧ tree.allocate.1 ∉ tree.ids := by
  intro next
  have perm : next.ids.Perm (tree.ids ++ [tree.allocate.1]) := by
    have grown := flatMap_modify_perm wf found
      (fun b => b.withChildren (b.children.insertIdx index (.mk tree.allocate.1 node false [])))
      [] _ (Branch.ids_insertIdx_perm old (.mk tree.allocate.1 node false []) inside)
    rw [List.append_nil, Branch.ids_mk] at grown
    rw [ids, branches_modifyBranch, allocate_branches]
    exact grown
  have wf' : next.WellFormed := wf.of_allocate perm rfl rfl
  refine ⟨.of_subset wf' ?_ fun id mem => ?_, ?_, fun mem => ?_⟩
  · show tree.generations <+: tree.allocate.2.generations
    cases free : tree.free with
    | nil =>
      rw [allocate_nil free]
      exact List.prefix_append _ _
    | cons index rest =>
      exact ⟨[], by rw [allocate_cons free, List.append_nil]⟩
  · exact perm.mem_iff.mpr (List.mem_append_left _ mem)
  · exact perm.mem_iff.mpr (List.mem_append_right _ (List.mem_singleton_self _))
  · exact allocate_fresh wf (List.mem_map_of_mem mem)

end FilterTree

namespace Edit

open FilterTree (Turnover)

/-- A node that may have no more children gets none. -/
theorem apply_insertChild_full {tree : FilterTree} {parent : NodeId} {old : Branch} {limit : Nat}
    (found : tree.branch? parent = some old) (hmax : old.node.kind.maxChildren? = some limit)
    (full : limit ≤ old.children.length) (index : Nat) {node : Node} (nested : node.kind ≠ .root) :
    (insertChild parent index node).apply tree =
      (.error (.tooManyChildren old.node.kind limit), tree) := by
  rw [insertChild, if_neg nested]
  show (branch parent >>= _).apply tree = _
  rw [apply_bind_ok (apply_branch_ok found)]
  simp only [hmax, if_pos full]
  rfl

/-- A node is added where there is room for it, and otherwise the tree stays as it is. -/
theorem insertChild_cases (tree : FilterTree) (parent : NodeId) (index : Nat) (node : Node) :
    (∃ fault, (insertChild parent index node).apply tree = (.error fault, tree)) ∨
      ∃ old, tree.branch? parent = some old ∧ old.HasRoom ∧ node.kind ≠ .root ∧
        index ≤ old.children.length := by
  by_cases nested : node.kind = .root
  · refine .inl ⟨.nestedRoot, ?_⟩
    rw [insertChild, if_pos nested]
    rfl
  cases found : tree.branch? parent with
  | none =>
    refine .inl ⟨.unknownNode parent, ?_⟩
    rw [insertChild, if_neg nested]
    show (branch parent >>= _).apply tree = _
    exact apply_bind_error (apply_branch_error found) _
  | some old =>
    by_cases room : old.HasRoom
    · by_cases inside : index ≤ old.children.length
      · exact .inr ⟨old, rfl, room, nested, inside⟩
      · refine .inl ⟨.indexOutOfBounds index old.children.length, ?_⟩
        rw [insertChild, if_neg nested]
        show (branch parent >>= _).apply tree = _
        rw [apply_bind_ok (apply_branch_ok found)]
        cases hmax : old.node.kind.maxChildren? with
        | none =>
          simp only [if_pos (Nat.lt_of_not_le inside)]
          rfl
        | some limit =>
          simp only [if_neg (Nat.not_le.mpr (room limit hmax)), if_pos (Nat.lt_of_not_le inside)]
          rfl
    · simp only [Branch.HasRoom, not_forall] at room
      obtain ⟨limit, hmax, full⟩ := room
      exact .inl ⟨_, apply_insertChild_full found hmax (Nat.le_of_not_lt full) index nested⟩

/-- A node is added after the children of another one if there is room for it, and otherwise the
tree stays as it is. -/
theorem addChild_cases (tree : FilterTree) (parent : NodeId) (node : Node) :
    (∃ fault, (addChild parent node).apply tree = (.error fault, tree)) ∨
      ∃ old, tree.branch? parent = some old ∧ old.HasRoom ∧ node.kind ≠ .root := by
  cases found : tree.branch? parent with
  | none =>
    refine .inl ⟨.unknownNode parent, ?_⟩
    rw [addChild, apply_bind_error (apply_branch_error found)]
  | some old =>
    rw [addChild, apply_bind_ok (apply_branch_ok found)]
    rcases insertChild_cases tree parent old.children.length node with failed |
      ⟨_, same, room, nested, -⟩
    · exact .inl failed
    · rw [found] at same
      cases same
      exact .inr ⟨old, rfl, room, nested⟩

/-- What an edit of a well-formed tree leads to, if it removes nothing. -/
def Keeps (tree next : FilterTree) : Prop :=
  tree.WellFormed → Turnover tree [] next

theorem stepwise_keeps : Stepwise Keeps where
  refl _ := Turnover.refl
  trans _ _ _ one two wf := by
    have first := one wf
    simpa using first.trans (two first.wellFormed)

/-- An addition removes nothing, and the identity that it returns is new. -/
theorem insertChild_turnover {tree : FilterTree} (wf : tree.WellFormed) (parent : NodeId)
    (index : Nat) (node : Node) :
    Turnover tree [] ((insertChild parent index node).apply tree).2 ∧
      ∀ id, ((insertChild parent index node).apply tree).1 = .ok id →
        id ∈ ((insertChild parent index node).apply tree).2.ids ∧ id ∉ tree.ids := by
  rcases insertChild_cases tree parent index node with ⟨fault, failed⟩ |
    ⟨old, found, room, nested, inside⟩
  · rw [failed]
    exact ⟨.refl wf, nofun⟩
  · rw [apply_insertChild found room nested inside]
    obtain ⟨turnover, there, new⟩ := FilterTree.insert_turnover wf found node inside
    refine ⟨turnover, fun id same => ?_⟩
    cases same
    exact ⟨there, new⟩

theorem insertChild_keeps (parent : NodeId) (index : Nat) (node : Node) :
    (insertChild parent index node).Within Keeps :=
  fun _ wf => (insertChild_turnover wf parent index node).1

theorem setNegated_keeps (id : NodeId) (negated : Bool) : (setNegated id negated).Within Keeps := by
  refine stepwise_keeps.bind (stepwise_keeps.branch id) fun old => ?_
  split
  · exact fun tree wf => .modifyBranch wf id (Branch.ids_withNegated negated)
  · exact stepwise_keeps.pure _

theorem growing_keeps : Growing Keeps where
  toStepwise := stepwise_keeps
  add parent node := stepwise_keeps.bind (stepwise_keeps.branch parent) fun old =>
    insertChild_keeps parent old.children.length node
  flag := setNegated_keeps

theorem copyFlag_keeps (id : NodeId) (negated : Bool) : (copyFlag id negated).Within Keeps :=
  fun _ wf => .modifyBranch wf id (Branch.ids_withNegated negated)

theorem graftBranch_keeps (parent : NodeId) (branch : Branch) :
    (graftBranch parent branch).Within Keeps :=
  growing_keeps.graftBranch copyFlag_keeps branch parent

/-! ## Identities that edits return -/

/-- An edit that returns the identity of a new node. -/
def Brings (edit : Edit NodeId) : Prop :=
  ∀ tree id, tree.WellFormed → (edit.apply tree).1 = .ok id →
    id ∈ (edit.apply tree).2.ids ∧ id ∉ tree.ids

/-- An edit that returns a certain identity, if it returns one. -/
def Returns (id : NodeId) (edit : Edit NodeId) : Prop :=
  ∀ tree other, (edit.apply tree).1 = .ok other → other = id

variable {α : Type} {id : NodeId}

theorem returns_pure (id : NodeId) : (pure id : Edit NodeId).Returns id := by
  intro tree other same
  exact (Except.ok.inj same).symm

theorem returns_bind {edit : Edit α} {continuation : α → Edit NodeId}
    (h : ∀ value, (continuation value).Returns id) : (edit >>= continuation).Returns id := by
  intro tree other same
  rw [apply_bind] at same
  cases run : edit.apply tree with
  | mk result next =>
    rw [run] at same
    cases result with
    | ok value => exact h value next other same
    | error fault => cases same

/-- A new node is still there after what removes nothing. -/
theorem Brings.bind {edit : Edit NodeId} {continuation : NodeId → Edit NodeId}
    (first : edit.Brings) (keeps : edit.Within Keeps)
    (later : ∀ id, (continuation id).Within Keeps) (same : ∀ id, (continuation id).Returns id) :
    (edit >>= continuation).Brings := by
  intro tree id wf returned
  rw [apply_bind] at returned ⊢
  have kept := keeps tree wf
  have brought := first tree
  cases run : edit.apply tree with
  | mk result next =>
    rw [run] at returned kept brought
    cases result with
    | error fault => cases returned
    | ok new =>
      cases same new next id returned
      obtain ⟨there, isNew⟩ := brought id wf rfl
      have turnover := later id next kept.wellFormed
      exact ⟨turnover.kept id there List.not_mem_nil, isNew⟩

theorem brings_insertChild (parent : NodeId) (index : Nat) (node : Node) :
    (insertChild parent index node).Brings :=
  fun _ id wf returned => (insertChild_turnover wf parent index node).2 id returned

theorem brings_addChild (parent : NodeId) (node : Node) : (addChild parent node).Brings := by
  intro tree id wf returned
  rw [addChild, apply_bind] at returned ⊢
  cases found : tree.branch? parent with
  | none =>
    rw [apply_branch_error found] at returned
    cases returned
  | some old =>
    rw [apply_branch_ok found] at returned ⊢
    exact brings_insertChild parent old.children.length node tree id wf returned

theorem brings_graft (parent : NodeId) (other : FilterTree) : (graft parent other).Brings := by
  obtain ⟨⟨id, node, negated, children⟩, -, -, -⟩ := other
  rw [graft, graftBranch]
  refine (brings_addChild parent node).bind (growing_keeps.add parent node) (fun new => ?_)
    fun new => returns_bind fun _ => returns_bind fun _ => returns_pure new
  refine stepwise_keeps.bind (copyFlag_keeps new negated) fun _ => ?_
  refine stepwise_keeps.bind ?_ fun _ => stepwise_keeps.pure new
  exact stepwise_keeps.graftAll fun b _ => graftBranch_keeps new b

end Edit

namespace Generator

open Edit (Brings growing_keeps stepwise_keeps returns_bind returns_pure)

theorem brings_addNode (parent : NodeId) (node : Node) (negated : Bool) :
    (addNode parent node negated).Brings :=
  (Edit.brings_addChild parent node).bind (growing_keeps.add parent node)
    (fun id => stepwise_keeps.bind (growing_keeps.flag id negated) fun _ => stepwise_keeps.pure id)
    fun id => returns_bind fun _ => returns_pure id

theorem brings_addComparison (generator : Generator) (parent : NodeId) (comparison : Comparison)
    (negated : Bool) : (generator.addComparison parent comparison negated).Brings := by
  unfold addComparison buildComparison
  by_cases anywhere : comparison.isAnywhere = true
  · simp only [anywhere, if_true]
    refine (brings_addNode _ _ _).bind (within_addNode growing_keeps _ _ _) (fun id => ?_)
      fun id => returns_bind fun _ => returns_pure id
    exact stepwise_keeps.bind (within_addMatches growing_keeps generator id _ _) fun _ =>
      stepwise_keeps.pure id
  · simp only [if_neg anywhere]
    exact brings_addNode _ _ _

theorem brings_addClause (generator : Generator) (parent : NodeId) (clause : Clause) :
    (generator.addClause parent clause).Brings := by
  have keeps := within_addComparison growing_keeps generator
  unfold addClause buildClause
  split
  · refine (brings_addNode _ _ _).bind (within_addNode growing_keeps _ _ _) (fun id => ?_)
      fun id => returns_bind fun _ => returns_bind fun _ => returns_pure id
    refine stepwise_keeps.bind (keeps id _ _).discard fun _ => ?_
    exact stepwise_keeps.bind (keeps id _ _).discard fun _ => stepwise_keeps.pure id
  · exact generator.brings_addComparison _ _ _

/-- The identity of a generated node is new. -/
theorem brings_addFilter (generator : Generator) (parent : NodeId) (filter : Filter) :
    (generator.addFilter parent filter).Brings := by
  unfold addFilter buildFilter
  split
  · exact generator.brings_addClause _ _
  · refine (brings_addNode _ _ _).bind (within_addNode growing_keeps _ _ _) (fun id => ?_)
      fun id => returns_bind fun _ => returns_pure id
    exact stepwise_keeps.bind (within_addClauses growing_keeps generator id _) fun _ =>
      stepwise_keeps.pure id

end Generator

end EventSieve
