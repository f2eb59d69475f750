import EventSieve.Proofs.Turnover

/-!
# Removals

A removal first cuts a branch off, so that it is a stray. If the branch can be copied into a tree of
its own, the stray is released: its places are given up, and their generations count up by one.

## Main definitions

* `FilterTree.removedAt` — the identities that a removal takes out of a tree

## Main statements

* `FilterTree.giveUp_turnover` — what giving up places changes
* `FilterTree.cut_turnover`, `FilterTree.release_turnover` — the two halves of a removal
* `Edit.removeChild_cases` — the outcomes of a removal
* `Edit.removeChild_turnover` — a removal takes out a child and all below it, or nothing
-/
namespace EventSieve

open EventSieve.Tree (Node NodeKind NodeId Branch)

namespace FilterTree

/-! ## Giving up places -/

section
variable (gone : List NodeId) (tree : FilterTree)

/-- The branches stay when places are given up. -/
theorem foldl_giveUp_branches : (gone.foldl giveUp tree).top = tree.top ∧
    (gone.foldl giveUp tree).strays = tree.strays := by
  induction gone generalizing tree with
  | nil => exact ⟨rfl, rfl⟩
  | cons id gone ih => exact ih (tree.giveUp id)

/-- The places given up are free, the last one first. -/
theorem foldl_giveUp_free : (gone.foldl giveUp tree).free =
    (gone.map NodeId.index).reverse ++ tree.free := by
  induction gone generalizing tree with
  | nil => rfl
  | cons id gone ih =>
    rw [List.foldl_cons, ih, List.map_cons, List.reverse_cons, List.append_assoc]
    rfl

/-- The generation of a place counts up whenever the place is given up. -/
theorem foldl_giveUp_generations (index : Nat) :
    (gone.foldl giveUp tree).generations[index]? =
      tree.generations[index]?.map (· + UInt32.ofNat (countAt gone index)) := by
  induction gone generalizing tree with
  | nil => simp [countAt]
  | cons id gone ih =>
    rw [List.foldl_cons, ih, giveUp, List.getElem?_modify, countAt_cons]
    cases tree.generations[index]? with
    | none => rfl
    | some generation =>
      by_cases here : id.index = index
      · simp only [here, if_true, UInt32.ofNat_add]
        show some (generation + 1 + _) = some (generation + (_ + 1))
        rw [UInt32.add_assoc, UInt32.add_comm 1]
      · simp [here]

theorem foldl_giveUp_length :
    (gone.foldl giveUp tree).generations.length = tree.generations.length := by
  induction gone generalizing tree with
  | nil => rfl
  | cons id gone ih =>
    rw [List.foldl_cons, ih, giveUp, List.length_modify]

end

/-! ## Cutting off and releasing -/

variable {tree : FilterTree} {parent : NodeId} {old child : Branch} {index : Nat}

/-- A branch that is cut off stays part of the tree. -/
theorem cut_turnover (wf : tree.WellFormed) (found : tree.branch? parent = some old)
    (there : old.children[index]? = some child) :
    Turnover tree [] (tree.cut parent index child) := by
  have perm : (tree.cut parent index child).ids.Perm tree.ids := by
    have moved := flatMap_modify_perm wf found
      (fun b => b.withChildren (b.children.eraseIdx index)) _ [] (Branch.ids_eraseIdx_perm there)
    rw [List.append_nil] at moved
    refine List.Perm.trans ?_ moved
    have parts : (tree.cut parent index child).ids =
        (tree.top.modify parent fun b => b.withChildren (b.children.eraseIdx index)).ids ++
          (child.ids ++ (tree.strays.map fun stray => stray.2.modify parent fun b =>
            b.withChildren (b.children.eraseIdx index)).flatMap Branch.ids) := by
      simp only [ids, branches, cut, modifyBranch, List.flatMap_cons, List.map_cons, List.map_map]
      rfl
    rw [parts, branches, List.map_cons, List.flatMap_cons, List.map_map, List.append_assoc]
    exact List.perm_append_comm.append_left _
  have wf' : (tree.cut parent index child).WellFormed := wf.of_perm perm rfl rfl
  exact .of_subset wf' (List.prefix_refl _) fun id mem => perm.mem_iff.mpr mem

/-- Identities that are taken out of a well-formed tree and given up. -/
theorem giveUp_turnover {mid : FilterTree} {gone : List NodeId} (wf : tree.WellFormed)
    (perm : tree.ids.Perm (gone ++ mid.ids)) (generations : mid.generations = tree.generations)
    (free : mid.free = tree.free) : Turnover tree gone (gone.foldl giveUp mid) := by
  have stays : (gone.foldl giveUp mid).ids = mid.ids := by
    obtain ⟨top, strays⟩ := foldl_giveUp_branches gone mid
    rw [ids, branches, top, strays, ids, branches]
  have indices : (tree.ids.map NodeId.index).Perm
      (gone.map NodeId.index ++ mid.ids.map NodeId.index) := by
    simpa using perm.map NodeId.index
  have distinct := indices.nodup_iff.mp wf.distinct
  rw [List.nodup_append] at distinct
  obtain ⟨goneDistinct, midDistinct, apart⟩ := distinct
  have used (index : Nat) : index ∈ tree.ids.map NodeId.index ↔
      index ∈ gone.map NodeId.index ∨ index ∈ mid.ids.map NodeId.index := by
    rw [indices.mem_iff, List.mem_append]
  refine ⟨⟨?_, fun id mem => ?_, ?_, fun index => ?_⟩, fun index generation found => ?_,
    fun id mem stay => ?_⟩
  · rw [stays]
    exact midDistinct
  · rw [stays] at mem
    have known := wf.current id (perm.mem_iff.mpr (List.mem_append_right _ mem))
    have none : countAt gone id.index = 0 :=
      List.count_eq_zero.mpr fun here => apart _ here _ (List.mem_map_of_mem mem) rfl
    rw [foldl_giveUp_generations, generations, known, none]
    simp
  · rw [foldl_giveUp_free, free]
    refine (List.nodup_reverse.mpr goneDistinct).append wf.free_nodup fun index here unused => ?_
    exact ((wf.mem_free index).mp unused).2 ((used index).mpr (.inl (List.mem_reverse.mp here)))
  · rw [foldl_giveUp_free, free, foldl_giveUp_length, generations, stays, List.mem_append,
      List.mem_reverse, wf.mem_free, used]
    constructor
    · rintro (here | ⟨inside, unused⟩)
      · obtain ⟨id, mem, rfl⟩ := List.mem_map.mp here
        have known := wf.current id (perm.mem_iff.mpr (List.mem_append_left _ mem))
        obtain ⟨inside, -⟩ := List.getElem?_eq_some_iff.mp known
        exact ⟨inside, fun there => apart _ here _ there rfl⟩
      · exact ⟨inside, fun there => unused (.inr there)⟩
    · rintro ⟨inside, unused⟩
      by_cases here : index ∈ gone.map NodeId.index
      · exact .inl here
      · exact .inr ⟨inside, not_or.mpr ⟨here, unused⟩⟩
  · rw [foldl_giveUp_generations, generations, found]
    rfl
  · rw [stays]
    exact (List.mem_append.mp (perm.mem_iff.mp mem)).resolve_left stay

theorem walk_singleton (branch : Branch) : walk [branch] = branch.ids := by
  rw [walk_eq, Branch.preorderAll_eq, List.flatMap_singleton, Branch.ids]

/-- A branch that is released is no stray any more. -/
theorem release_parts (tree : FilterTree) (branch : Branch) :
    (tree.release branch).top = tree.top ∧
      (tree.release branch).strays = tree.strays.filter (·.2.id != branch.id) :=
  foldl_giveUp_branches _ _

/-- A stray that is released takes its identities away. -/
theorem release_turnover {owner : NodeId} {rest : List (NodeId × Branch)} (wf : tree.WellFormed)
    (child : Branch) (strays : tree.strays = (owner, child) :: rest) :
    Turnover tree child.ids (tree.release child) := by
  have parts : tree.ids =
      tree.top.ids ++ (child.ids ++ (rest.map Prod.snd).flatMap Branch.ids) := by
    rw [ids, branches, strays, List.map_cons, List.flatMap_cons, List.flatMap_cons]
  have distinct := wf.ids_nodup
  rw [parts] at distinct
  have apart := (List.nodup_append.mp (List.nodup_append.mp distinct).2.1).2.2
  have others : tree.strays.filter (·.2.id != child.id) = rest := by
    rw [strays, List.filter_cons_of_neg (by simp), List.filter_eq_self]
    intro stray mem
    refine bne_iff_ne.mpr fun same => ?_
    refine apart _ child.id_mem_ids _ ?_ same.symm
    exact List.mem_flatMap.mpr ⟨stray.2, List.mem_map_of_mem mem, stray.2.id_mem_ids⟩
  rw [release, others, walk_singleton]
  refine giveUp_turnover wf ?_ rfl rfl
  rw [parts]
  show List.Perm _ (child.ids ++ (tree.top.ids ++ (rest.map Prod.snd).flatMap Branch.ids))
  rw [← List.append_assoc, ← List.append_assoc]
  exact List.perm_append_comm.append_right _

/-! ## Nodes of the tree -/

theorem mem_ids_iff (wf : tree.WellFormed) {id : NodeId} :
    id ∈ tree.ids ↔ ∃ branch, tree.branch? id = some branch := by
  constructor
  · intro mem
    obtain ⟨top, htop, inside⟩ := List.mem_flatMap.mp mem
    obtain ⟨branch, hbranch, same⟩ := List.mem_map.mp inside
    exact ⟨branch, (branch?_eq_some_iff wf).mpr ⟨List.mem_flatMap.mpr ⟨top, htop, hbranch⟩, same⟩⟩
  · rintro ⟨branch, found⟩
    exact mem_ids_of_branch? wf found

/-- A present identity of a place that is not given up is one of a node. -/
theorem WellFormed.mem_ids_of_current (wf : tree.WellFormed) {id : NodeId}
    (current : tree.generations[id.index]? = some id.generation) (used : id.index ∉ tree.free) :
    id ∈ tree.ids := by
  obtain ⟨inside, -⟩ := List.getElem?_eq_some_iff.mp current
  rw [wf.mem_free, not_and, not_not] at used
  obtain ⟨other, known, same⟩ := List.mem_map.mp (used inside)
  have there := wf.current other known
  rw [same, current, Option.some.injEq] at there
  obtain ⟨index, generation⟩ := id
  obtain ⟨index', generation'⟩ := other
  cases same
  cases there
  exact known

theorem isLive_iff (wf : tree.WellFormed) {id : NodeId} :
    tree.isLive id = true ↔ id ∈ tree.ids := by
  rw [isLive, Option.isSome_iff_exists, mem_ids_iff wf]

/-- A child of a node is found under its own identity. -/
theorem branch?_child (wf : tree.WellFormed) (found : tree.branch? parent = some old)
    (mem : child ∈ old.children) : tree.branch? child.id = some child := by
  obtain ⟨there, -⟩ := (branch?_eq_some_iff wf).mp found
  obtain ⟨top, htop, hold⟩ := List.mem_flatMap.mp there
  refine (branch?_eq_some_iff wf).mpr ⟨List.mem_flatMap.mpr ⟨top, htop, ?_⟩, rfl⟩
  exact Branch.mem_preorder_trans (Branch.mem_preorder_of_mem_children mem) hold

theorem descendants_of_branch? {id : NodeId} {branch : Branch}
    (found : tree.branch? id = some branch) : tree.descendants id = branch.ids := by
  rw [descendants, found, Option.toList_some, walk_singleton]

theorem child?_of_branch? (found : tree.branch? parent = some old)
    (there : old.children[index]? = some child) : tree.child? parent index = some child.id := by
  rw [child?, children_of_branch? found, List.getElem?_map, there, Option.map_some]

theorem ids_subset_of_branch? (wf : tree.WellFormed) {id : NodeId} {branch : Branch}
    (found : tree.branch? id = some branch) : branch.ids ⊆ tree.ids := by
  obtain ⟨there, -⟩ := (branch?_eq_some_iff wf).mp found
  obtain ⟨top, htop, hbranch⟩ := List.mem_flatMap.mp there
  intro other mem
  exact List.mem_flatMap.mpr ⟨top, htop, Branch.ids_subset_of_mem_preorder hbranch mem⟩

theorem wellFormed_withTop_withNegated (node : Node) (negated : Bool) :
    ({ withTop node with
      top := (withTop node).top.withNegated negated } : FilterTree).WellFormed := by
  refine (wellFormed_withTop node).of_perm ?_ rfl rfl
  simp only [ids, branches, List.flatMap_cons, Branch.ids_withNegated]
  exact .rfl

/-- A branch as a tree of its own is well formed. -/
theorem wellFormed_of_ofBranch {branch : Branch} (h : ofBranch branch = .ok tree) :
    tree.WellFormed := by
  rw [ofBranch] at h
  have flagged := wellFormed_withTop_withNegated branch.node branch.negated
  have copied : (Edit.graftAll rootId branch.children).Within Edit.Keeps :=
    Edit.stepwise_keeps.graftAll fun b _ => Edit.graftBranch_keeps rootId b
  have keeps := copied _ flagged
  rw [Edit.apply] at keeps
  split at h
  · next made =>
    cases h
    rw [made] at keeps
    exact keeps.wellFormed
  · cases h

/-- The identities that a removal takes out of a tree: those of the child and of all below it,
unless the removal fails. -/
def removedAt (tree : FilterTree) (parent : NodeId) (index : Nat) : List NodeId :=
  match ((Edit.removeChild parent index).apply tree).1 with
  | .ok _ => ((tree.child? parent index).map tree.descendants).getD []
  | .error _ => []

end FilterTree

namespace Edit

open FilterTree (Turnover)

/-- A removal fails before it changes anything, or it cuts a child off, which stays as a stray if it
is no tree of its own and is released otherwise. -/
theorem removeChild_cases (tree : FilterTree) (parent : NodeId) (index : Nat) :
    (∃ fault, (removeChild parent index).apply tree = (.error fault, tree)) ∨
      ∃ old child, tree.branch? parent = some old ∧ old.children[index]? = some child ∧
        ((∃ fault, FilterTree.ofBranch child = .error fault ∧
            (removeChild parent index).apply tree = (.error fault, tree.cut parent index child)) ∨
          ∃ removed, FilterTree.ofBranch child = .ok removed ∧
            (removeChild parent index).apply tree =
              (.ok removed, (tree.cut parent index child).release child)) := by
  cases found : tree.branch? parent with
  | none =>
    refine .inl ⟨.unknownNode parent, ?_⟩
    rw [removeChild, apply_bind_error (apply_branch_error found)]
  | some old =>
    rw [removeChild, apply_bind_ok (apply_branch_ok found)]
    cases there : old.children[index]? with
    | none => exact .inl ⟨_, rfl⟩
    | some child =>
      refine .inr ⟨old, child, rfl, there, ?_⟩
      cases copy : FilterTree.ofBranch child with
      | error fault =>
        refine .inl ⟨fault, rfl, ?_⟩
        simp only [copy]
        rfl
      | ok removed =>
        refine .inr ⟨removed, rfl, ?_⟩
        simp only [copy]
        rfl

/-- A removal takes the child and all below it out of the tree, or nothing. -/
theorem removeChild_turnover {tree : FilterTree} (wf : tree.WellFormed) (parent : NodeId)
    (index : Nat) : Turnover tree (tree.removedAt parent index)
      ((removeChild parent index).apply tree).2 ∧ tree.removedAt parent index ⊆ tree.ids := by
  rw [FilterTree.removedAt]
  rcases removeChild_cases tree parent index with ⟨fault, run⟩ | ⟨old, child, found, there, cases⟩
  · rw [run]
    exact ⟨.refl wf, List.nil_subset _⟩
  · have cut := FilterTree.cut_turnover wf found there
    rcases cases with ⟨fault, -, run⟩ | ⟨removed, -, run⟩
    · rw [run]
      exact ⟨cut, List.nil_subset _⟩
    · have known := FilterTree.branch?_child wf found (List.mem_of_getElem? there)
      have released := FilterTree.release_turnover cut.wellFormed child rfl
      simp only [run, FilterTree.child?_of_branch? found there, Option.map_some, Option.getD_some,
        FilterTree.descendants_of_branch? known]
      exact ⟨by simpa using cut.trans released, FilterTree.ids_subset_of_branch? wf known⟩

/-- A new node in the place of a child is a removal and then an addition. -/
theorem apply_replaceChild (tree : FilterTree) (parent : NodeId) (index : Nat) {node : Node}
    (nested : node.kind ≠ .root) : (replaceChild parent index node).apply tree =
      match (removeChild parent index).apply tree with
      | (.ok _, next) => (insertChild parent index node).apply next
      | (.error fault, next) => (.error fault, next) := by
  rw [replaceChild, if_neg nested]
  show (discard (removeChild parent index) >>= _).apply tree = _
  cases run : (removeChild parent index).apply tree with
  | mk result next =>
    cases result with
    | ok removed => exact apply_bind_ok (apply_discard_ok run) _
    | error fault => exact apply_bind_error (apply_discard_error run) _

end Edit

end EventSieve
