import EventSieve.Proofs.Removal
import EventSieve.Proofs.Renderings
import EventSieve.Tree.Arena

/-!
# Arenas that represent trees

An arena represents a tree if every node of the tree is in its place, with the identities of its
parent and of its children, and if the generations and the places given up are the same. Following
identities through such an arena comes to an end, and comes to what the recursions on the branches
of the tree come to.

## Main definitions

* `FilterTree.Hangs` — a branch of a tree, and the node that it hangs below
* `Arena.Represents` — an arena has the nodes of a tree in its places

## Main statements

* `Arena.Represents.slot?_cases` — what is in the places of an arena that represents a tree
* `Arena.Represents.descendants_eq`, `Arena.Represents.acceptsFrom_eq` — what walks and tests of
  such an arena come to
-/
namespace EventSieve

open EventSieve.Tree (Node NodeKind NodeId Branch)

/-- What the top of a branch keeps in its place. -/
def Tree.Branch.slot (owner? : Option NodeId) (branch : Branch) : Slot where
  node := branch.node
  negated := branch.negated
  parent? := owner?
  children := branch.children.map (·.id)
  generation := branch.id.generation

namespace FilterTree

/-! ## Where branches hang -/

/-- A branch of a tree hangs below a node, or below none if it is the top. A stray still hangs below
the node that it was cut off from. -/
inductive Hangs (tree : FilterTree) : Option NodeId → Branch → Prop
  | top : tree.Hangs none tree.top
  | stray {owner : NodeId} {branch : Branch} (mem : (owner, branch) ∈ tree.strays) :
      tree.Hangs (some owner) branch
  | child {owner? : Option NodeId} {branch child : Branch} (h : tree.Hangs owner? branch)
      (mem : child ∈ branch.children) : tree.Hangs (some branch.id) child

variable {tree : FilterTree} {owner? : Option NodeId} {branch part : Branch} {id : NodeId}

theorem Hangs.mem (h : tree.Hangs owner? branch) :
    branch ∈ tree.branches.flatMap Branch.preorder := by
  induction h with
  | top => exact List.mem_flatMap.mpr ⟨tree.top, List.mem_cons_self, tree.top.mem_preorder_self⟩
  | @stray owner branch mem =>
    refine List.mem_flatMap.mpr ⟨branch, List.mem_cons_of_mem _ ?_, branch.mem_preorder_self⟩
    exact List.mem_map_of_mem (f := Prod.snd) mem
  | child _ mem ih =>
    obtain ⟨top, htop, inside⟩ := List.mem_flatMap.mp ih
    refine List.mem_flatMap.mpr ⟨top, htop, ?_⟩
    exact Branch.mem_preorder_trans (Branch.mem_preorder_of_mem_children mem) inside

theorem Hangs.branch?_eq (wf : tree.WellFormed) (h : tree.Hangs owner? branch) :
    tree.branch? branch.id = some branch :=
  (branch?_eq_some_iff wf).mpr ⟨h.mem, rfl⟩

theorem Hangs.id_mem_ids (h : tree.Hangs owner? branch) : branch.id ∈ tree.ids := by
  obtain ⟨top, htop, inside⟩ := List.mem_flatMap.mp h.mem
  exact List.mem_flatMap.mpr ⟨top, htop, List.mem_map_of_mem inside⟩

/-- What is in a branch that hangs hangs somewhere too. -/
theorem Hangs.of_mem_preorder (h : tree.Hangs owner? branch) (mem : part ∈ branch.preorder) :
    ∃ other?, tree.Hangs other? part := by
  induction branch using Branch.induction generalizing owner? with
  | mk id node negated children ih =>
    rw [Branch.preorder_mk, List.mem_cons] at mem
    rcases mem with rfl | mem
    · exact ⟨owner?, h⟩
    · obtain ⟨child, hchild, inside⟩ := List.mem_flatMap.mp mem
      exact ih child hchild (h.child hchild) inside

/-- Every branch that is found hangs somewhere. -/
theorem hangs_of_branch? (wf : tree.WellFormed) (found : tree.branch? id = some branch) :
    ∃ owner?, tree.Hangs owner? branch ∧ branch.id = id := by
  obtain ⟨mem, rfl⟩ := (branch?_eq_some_iff wf).mp found
  obtain ⟨top, htop, inside⟩ := List.mem_flatMap.mp mem
  have hangs : ∃ owner?, tree.Hangs owner? top := by
    rcases List.mem_cons.mp htop with rfl | htop
    · exact ⟨none, .top⟩
    · obtain ⟨stray, mem, rfl⟩ := List.mem_map.mp htop
      exact ⟨some stray.1, .stray mem⟩
  obtain ⟨owner?, hangs⟩ := hangs
  obtain ⟨other?, there⟩ := hangs.of_mem_preorder inside
  exact ⟨other?, there, rfl⟩

theorem exists_hangs_of_mem_ids (wf : tree.WellFormed) (known : id ∈ tree.ids) :
    ∃ owner? branch, tree.Hangs owner? branch ∧ branch.id = id := by
  obtain ⟨branch, found⟩ := (mem_ids_iff wf).mp known
  obtain ⟨owner?, hangs, same⟩ := hangs_of_branch? wf found
  exact ⟨owner?, branch, hangs, same⟩

/-- Different nodes of a tree are in different places. -/
theorem WellFormed.index_ne (wf : tree.WellFormed) {one two : NodeId} (hone : one ∈ tree.ids)
    (htwo : two ∈ tree.ids) (other : one ≠ two) : one.index ≠ two.index := fun same =>
  other (List.inj_on_of_nodup_map wf.distinct hone htwo same)

end FilterTree

namespace Arena

variable {arena : Arena} {tree : FilterTree} {owner? : Option NodeId} {branch part : Branch}
  {id : NodeId}

/-! ## Representation -/

/-- The places of an arena have certain generations, and some of them are given up. -/
structure Accounts (arena : Arena) (generations : List UInt32) (free : List Nat) : Prop where
  generation : ∀ index : Nat, arena.slots[index]?.map Slot.generation = generations[index]?
  free_eq : arena.free = free
  detached : ∀ index ∈ free, ∃ slot : Slot, arena.slots[index]? = some slot ∧
    slot.detached = true ∧ slot.children = []

/-- The nodes of a tree are in the places of an arena, and the other places are given up. -/
structure Represents (arena : Arena) (tree : FilterTree) : Prop where
  wellFormed : tree.WellFormed
  top_id : tree.top.id = FilterTree.rootId
  root : arena.root = FilterTree.rootId
  accounts : arena.Accounts tree.generations tree.free
  holds : ∀ ⦃owner? part⦄, tree.Hangs owner? part →
    arena.slots[part.id.index]? = some (part.slot owner?)

/-- Every node of a branch is in its place. -/
def Shows (arena : Arena) (branch : Branch) : Prop :=
  ∀ part ∈ branch.preorder, ∃ owner?, arena.slot? part.id = some (part.slot owner?)

theorem slot?_eq_some_iff {slot : Slot} :
    arena.slot? id = some slot ↔ arena.slots[id.index]? = some slot ∧ slot.detached = false ∧
      slot.generation = id.generation := by
  rw [slot?, Option.filter_eq_some_iff, Slot.isLive, Bool.and_eq_true, Bool.not_eq_true',
    beq_iff_eq]

/-- The arena of one node represents the tree of that node. -/
theorem represents_withTop (node : Node) : (withTop node).Represents (.withTop node) where
  wellFormed := FilterTree.wellFormed_withTop node
  top_id := rfl
  root := rfl
  accounts := ⟨fun index => by cases index <;> rfl, rfl, nofun⟩
  holds owner? part hangs := by
    cases hangs with
    | top => rfl
    | stray mem => cases mem
    | child hangs mem =>
      obtain ⟨top, htop, inside⟩ := List.mem_flatMap.mp hangs.mem
      cases List.mem_singleton.mp htop
      cases List.mem_singleton.mp inside
      cases mem

namespace Represents

variable (h : arena.Represents tree)

include h

theorem slot?_of_hangs (hangs : tree.Hangs owner? part) :
    arena.slot? part.id = some (part.slot owner?) :=
  slot?_eq_some_iff.mpr ⟨h.holds hangs, rfl, rfl⟩

/-- A place that is not given up is the place of a node. -/
theorem mem_ids_of_slot? {slot : Slot} (found : arena.slot? id = some slot) : id ∈ tree.ids := by
  obtain ⟨there, attached, same⟩ := slot?_eq_some_iff.mp found
  have current : tree.generations[id.index]? = some id.generation := by
    rw [← h.accounts.generation, there, Option.map_some, same]
  refine h.wellFormed.mem_ids_of_current current fun unused => ?_
  obtain ⟨slot', there', gone, -⟩ := h.accounts.detached id.index unused
  rw [there, Option.some.injEq] at there'
  rw [there', gone] at attached
  cases attached

/-- An identity has a place exactly if it has a branch, and the place keeps what the branch has at
its top. -/
theorem slot?_cases (id : NodeId) :
    (tree.branch? id = none ∧ arena.slot? id = none) ∨
      ∃ branch owner?, tree.branch? id = some branch ∧ tree.Hangs owner? branch ∧
        branch.id = id ∧ arena.slot? id = some (branch.slot owner?) := by
  cases found : tree.branch? id with
  | none =>
    refine .inl ⟨rfl, ?_⟩
    cases there : arena.slot? id with
    | none => rfl
    | some slot =>
      obtain ⟨branch, known⟩ :=
        (FilterTree.mem_ids_iff h.wellFormed).mp (h.mem_ids_of_slot? there)
      rw [found] at known
      cases known
  | some branch =>
    obtain ⟨owner?, hangs, rfl⟩ := FilterTree.hangs_of_branch? h.wellFormed found
    exact .inr ⟨branch, owner?, rfl, hangs, rfl, h.slot?_of_hangs hangs⟩

theorem shows (hangs : tree.Hangs owner? branch) : arena.Shows branch := by
  intro part mem
  obtain ⟨other?, there⟩ := hangs.of_mem_preorder mem
  exact ⟨other?, h.slot?_of_hangs there⟩

theorem isLive_eq (id : NodeId) : arena.isLive id = tree.isLive id := by
  rw [isLive, FilterTree.isLive]
  rcases h.slot?_cases id with ⟨none, gone⟩ | ⟨branch, owner?, found, -, -, there⟩
  · rw [none, gone, Option.isSome_none, Option.isSome_none]
  · rw [found, there, Option.isSome_some, Option.isSome_some]

theorem node?_eq (id : NodeId) : arena.node? id = tree.node? id := by
  rw [node?, FilterTree.node?]
  rcases h.slot?_cases id with ⟨none, gone⟩ | ⟨branch, owner?, found, -, -, there⟩
  · rw [none, gone, Option.map_none, Option.map_none]
  · rw [found, there]
    rfl

theorem isNegated_eq (id : NodeId) : arena.isNegated id = tree.isNegated id := by
  rw [isNegated, FilterTree.isNegated]
  rcases h.slot?_cases id with ⟨none, gone⟩ | ⟨branch, owner?, found, -, -, there⟩
  · rw [none, gone, Option.map_none, Option.map_none]
  · rw [found, there]
    rfl

theorem children_eq (id : NodeId) : arena.children id = tree.children id := by
  rw [children, FilterTree.children]
  rcases h.slot?_cases id with ⟨none, gone⟩ | ⟨branch, owner?, found, -, -, there⟩
  · rw [none, gone, Option.map_none, Option.map_none]
  · rw [found, there]
    rfl

end Represents

/-- A node keeps the identity of the one that lists it, or that it was cut off from. -/
theorem Represents.parent?_eq (h : arena.Represents tree) (id : NodeId) :
    arena.parent? id = tree.parent? id := by
  have kept {owner? : Option NodeId} {branch : Branch} (hangs : tree.Hangs owner? branch) :
      arena.parent? branch.id = owner? := by
    rw [parent?, h.slot?_of_hangs hangs]
    rfl
  rw [FilterTree.parent?]
  -- the tree looks for a node that lists the identity, and then among the strays
  cases listed : tree.branches.findSome? (·.parentOf? id) with
  | some owner =>
    obtain ⟨top, htop, there⟩ := List.exists_of_findSome?_eq_some listed
    have lists : owner.children.any (·.id == id) = true :=
      List.find?_some (p := fun candidate : Branch => candidate.children.any (·.id == id)) there
    obtain ⟨child, hchild, same⟩ := List.any_eq_true.mp lists
    obtain rfl := beq_iff_eq.mp same
    have found := (FilterTree.branch?_eq_some_iff h.wellFormed).mpr
      ⟨List.mem_flatMap.mpr ⟨top, htop, List.mem_of_find?_eq_some there⟩, rfl⟩
    obtain ⟨owner?, hangs, -⟩ := FilterTree.hangs_of_branch? h.wellFormed found
    exact kept (hangs.child hchild)
  | none =>
    cases strayed : tree.strays.find? (·.2.id == id) with
    | some stray =>
      have same : (stray.2.id == id) = true :=
        List.find?_some (p := fun stray : NodeId × Branch => stray.2.id == id) strayed
      obtain rfl := beq_iff_eq.mp same
      exact kept (.stray (List.mem_of_find?_eq_some strayed))
    | none =>
      rcases h.slot?_cases id with ⟨-, gone⟩ | ⟨branch, owner?, -, hangs, rfl, -⟩
      · rw [parent?, gone]
        rfl
      · rw [kept hangs]
        cases hangs with
        | top => rfl
        | stray mem =>
          have other := List.find?_eq_none.mp strayed _ mem
          simp at other
        | @child _ owner _ hangs mem =>
          obtain ⟨top, htop, inside⟩ := List.mem_flatMap.mp hangs.mem
          have other := List.find?_eq_none.mp (List.findSome?_eq_none_iff.mp listed top htop)
            owner inside
          exact absurd (List.any_eq_true.mpr ⟨branch, mem, beq_self_eq_true branch.id⟩) other

/-! ## Following identities -/

namespace Shows

theorem self (h : arena.Shows branch) :
    ∃ owner?, arena.slot? branch.id = some (branch.slot owner?) :=
  h branch branch.mem_preorder_self

theorem child {child : Branch} (h : arena.Shows branch) (mem : child ∈ branch.children) :
    arena.Shows child := fun part inside =>
  h part (Branch.mem_preorder_below mem inside)

end Shows

/-- A walk from the tops of branches lists their identities, from the top down. -/
theorem walk_eq {stack : List Branch} (shown : ∀ b ∈ stack, arena.Shows b)
    (listed : List NodeId) :
    arena.walk listed (stack.map (·.id)) = some (listed ++ FilterTree.walk stack) := by
  induction stack using FilterTree.walk.induct generalizing listed with
  | case1 => rw [List.map_nil, walk, FilterTree.walk, List.append_nil]
  | case2 id node negated children rest ih =>
    obtain ⟨first, later⟩ := List.forall_mem_cons.mp shown
    obtain ⟨owner?, there⟩ := first.self
    have below : ∀ b ∈ children ++ rest, arena.Shows b := by
      intro b mem
      rcases List.mem_append.mp mem with mem | mem
      · exact first.child mem
      · exact later b mem
    have there : arena.slot? id = some ((Branch.mk id node negated children).slot owner?) := there
    rw [List.map_cons, walk]
    simp only [Branch.id, there]
    show arena.walk (listed ++ [id]) (children.map (·.id) ++ rest.map (·.id)) = _
    rw [← List.map_append, ih below, FilterTree.walk, List.append_assoc]
    rfl

theorem Shows.descendants_eq (h : arena.Shows branch) :
    arena.descendants branch.id = some branch.ids := by
  have shown : ∀ b ∈ [branch], arena.Shows b := fun b mem => List.mem_singleton.mp mem ▸ h
  rw [← FilterTree.walk_singleton]
  exact walk_eq shown []

section Loops

variable {branches : List Branch}

theorem allM_eq {test : NodeId → Option Bool} {outcome : Branch → Bool}
    (each : ∀ b ∈ branches, test b.id = some (outcome b)) :
    (branches.map (·.id)).allM test = some (branches.all outcome) := by
  induction branches with
  | nil => rfl
  | cons b rest ih =>
    obtain ⟨first, later⟩ := List.forall_mem_cons.mp each
    rw [List.map_cons, List.allM, first, List.all_cons, ih later]
    cases outcome b <;> rfl

theorem anyM_eq {test : NodeId → Option Bool} {outcome : Branch → Bool}
    (each : ∀ b ∈ branches, test b.id = some (outcome b)) :
    (branches.map (·.id)).anyM test = some (branches.any outcome) := by
  induction branches with
  | nil => rfl
  | cons b rest ih =>
    obtain ⟨first, later⟩ := List.forall_mem_cons.mp each
    rw [List.map_cons, List.anyM, first, List.any_cons, ih later]
    cases outcome b <;> rfl

theorem mapM_eq {α : Type} {make : NodeId → Option α} {outcome : Branch → α}
    (each : ∀ b ∈ branches, make b.id = some (outcome b)) :
    (branches.map (·.id)).mapM make = some (branches.map outcome) := by
  induction branches with
  | nil => rfl
  | cons b rest ih =>
    obtain ⟨first, later⟩ := List.forall_mem_cons.mp each
    rw [List.map_cons, List.mapM_cons, first, ih later]
    rfl

end Loops

/-- A test of a branch comes to what the branch accepts. -/
theorem evaluate_eq (shown : arena.Shows branch) (event : Event) :
    arena.evaluate event branch.id = some (branch.accepts event) := by
  induction branch using Branch.induction with
  | mk id node negated children ih =>
    obtain ⟨owner?, there⟩ := shown.self
    have each : ∀ b ∈ children, arena.evaluate event b.id = some (b.accepts event) :=
      fun b mem => ih b mem (shown.child mem)
    have all := allM_eq each
    have any := anyM_eq each
    rw [← Branch.allAccept_eq] at all
    rw [← Branch.anyAccepts_eq] at any
    have there : arena.slots[id.index]? = some ((Branch.mk id node negated children).slot owner?) :=
      (slot?_eq_some_iff.mp there).1
    rw [evaluate, Branch.id, there, Option.bind_eq_bind, Option.bind_some]
    cases node with
    | root => exact all
    | namedFilter => exact all
    | and =>
      show ((children.map (·.id)).allM (arena.evaluate event)).bind (some <| · ^^ negated) = _
      rw [all]
      rfl
    | or =>
      show ((children.map (·.id)).anyM (arena.evaluate event)).bind (some <| · ^^ negated) = _
      rw [any]
      rfl
    | traceTypeGate traceType =>
      show (if ((event.traceType == traceType) ^^ negated) = true then
        (children.map (·.id)).allM (arena.evaluate event) else some false) = _
      rw [all, Branch.accepts]
      cases (event.traceType == traceType) ^^ negated <;> rfl
    | objectWrapper test =>
      cases test with
      | none => exact all
      | some test => rfl
    | _ => rfl

theorem outlineAll_eq_join (depth : Nat) (branches : List Branch) :
    Branch.outlineAll depth branches = String.join (branches.map (Branch.outline depth)) := by
  induction branches with
  | nil => rfl
  | cons b rest ih => rw [Branch.outlineAll, ih, List.map_cons, String.join_cons]

/-- The lines of a branch are read off its places. -/
theorem outlineFrom_eq (shown : arena.Shows branch) (depth : Nat) :
    arena.outlineFrom depth branch.id = some (branch.outline depth) := by
  induction branch using Branch.induction generalizing depth with
  | mk id node negated children ih =>
    obtain ⟨owner?, there⟩ := shown.self
    have below := mapM_eq fun b mem => ih b mem (shown.child mem) (depth + 1)
    rw [outlineFrom, there]
    show ((children.map (·.id)).mapM (arena.outlineFrom (depth + 1))).bind
      (fun below => some (Branch.line depth node negated ++ String.join below)) = _
    rw [below, Branch.outline, outlineAll_eq_join]
    rfl

/-- The objects of a branch are read off its places. -/
theorem jsonFrom_eq (shown : arena.Shows branch) :
    arena.jsonFrom branch.id = some branch.toJson := by
  induction branch using Branch.induction with
  | mk id node negated children ih =>
    obtain ⟨owner?, there⟩ := shown.self
    have below := mapM_eq fun b mem => ih b mem (shown.child mem)
    rw [jsonFrom, there, Branch.toJson, Branch.toJsonAll_eq]
    show ((children.map (·.id)).mapM arena.jsonFrom).bind _ = _
    rw [below]
    cases children <;> rfl

namespace Represents

variable (h : arena.Represents tree)

include h

theorem shows_top : arena.Shows tree.top :=
  h.shows .top

/-- A walk comes to the nodes that the branch of its identity has. -/
theorem descendants_eq (id : NodeId) : arena.descendants id = some (tree.descendants id) := by
  rw [descendants, FilterTree.descendants]
  rcases h.slot?_cases id with ⟨none, gone⟩ | ⟨branch, owner?, found, hangs, rfl, -⟩
  · rw [none, walk, gone, walk, Option.toList_none, FilterTree.walk]
  · rw [found, Option.toList_some, FilterTree.walk_singleton]
    exact (h.shows hangs).descendants_eq

theorem size_eq : arena.size = some tree.size := by
  rw [size, h.root, h.descendants_eq, FilterTree.size, Option.map_some]

/-- A test of a node never comes to an index that is out of range. -/
theorem acceptsFrom_eq (id : NodeId) (event : Event) :
    arena.acceptsFrom id event = some (tree.acceptsFrom id event) := by
  rw [acceptsFrom, isLive, FilterTree.acceptsFrom]
  rcases h.slot?_cases id with ⟨none, gone⟩ | ⟨branch, owner?, found, hangs, rfl, there⟩
  · rw [none, gone]
    rfl
  · rw [found, there, evaluate_eq (h.shows hangs)]
    rfl

theorem accepts_eq (event : Event) : arena.accepts event = some (tree.accepts event) := by
  rw [accepts, h.root, h.acceptsFrom_eq, FilterTree.accepts]

theorem outline_eq : arena.outline = some tree.outline := by
  rw [outline, h.root, ← h.top_id, outlineFrom_eq h.shows_top, FilterTree.outline]

theorem toJson_eq : arena.toJson = some tree.toJson := by
  rw [toJson, h.root, ← h.top_id, jsonFrom_eq h.shows_top, FilterTree.toJson]

end Represents

end Arena
end EventSieve
