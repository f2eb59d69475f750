import EventSieve.Tree.Branch

/-!
# Filter trees

A filter tree is an editable tree of nodes. Every node has an identity, which stays the same
while the node is part of the tree. The place of a node that is given up is used again, the
last one given up first, and counts its generations, so that an old identity does not reach a
new node.

The nodes are nested as branches here. An `Arena` keeps the places of a tree one beside the other,
and nests the nodes by their identities only.

A branch that was cut off from its parent, but could not be taken out as a tree of its own,
stays in the tree as a stray.

## Main definitions

* `FilterTree` — a tree with its places
* `FilterTree.branch?` — the branch of an identity
* `FilterTree.descendants` — the identities of a branch, from the top down
* `FilterTree.accepts`, `FilterTree.acceptsFrom` — whether a tree, or a branch, accepts an event
-/
namespace EventSieve

open EventSieve.Tree (Node NodeKind NodeId Branch)

/-- A tree with its places. -/
structure FilterTree where
  top : Branch
  /-- Branches that were cut off, each with the identity of its parent. -/
  strays : List (NodeId × Branch) := []
  /-- The generation of every place. -/
  generations : List UInt32
  /-- The places given up, the last one first. -/
  free : List Nat := []

namespace FilterTree

/-- The identity of the node at the top of a tree. -/
def rootId : NodeId := ⟨0, 0⟩

/-- The tree that has one node. -/
def withTop (node : Node) : FilterTree where
  top := .mk rootId node false []
  generations := [0]

/-- The tree that accepts everything. -/
def empty : FilterTree :=
  withTop .root

/-- The tree at the top, and all strays. -/
def branches (tree : FilterTree) : List Branch :=
  tree.top :: tree.strays.map Prod.snd

/-- The branch of an identity. -/
def branch? (tree : FilterTree) (id : NodeId) : Option Branch :=
  tree.branches.findSome? (·.find? id)

/-- Whether an identity is one of a node of the tree. -/
def isLive (tree : FilterTree) (id : NodeId) : Bool :=
  (tree.branch? id).isSome

/-- The node of an identity. -/
def node? (tree : FilterTree) (id : NodeId) : Option Node :=
  (tree.branch? id).map (·.node)

/-- Whether the node of an identity is negated. -/
def isNegated (tree : FilterTree) (id : NodeId) : Bool :=
  ((tree.branch? id).map (·.negated)).getD false

/-- The identity of the parent of a node. -/
def parent? (tree : FilterTree) (id : NodeId) : Option NodeId :=
  match tree.branches.findSome? (·.parentOf? id) with
  | some parent => some parent.id
  | none => (tree.strays.find? (·.2.id == id)).map Prod.fst

/-- The identities of the children of a node. -/
def children (tree : FilterTree) (id : NodeId) : List NodeId :=
  ((tree.branch? id).map fun branch => branch.children.map (·.id)).getD []

/-- The identity of a child of a node. -/
def child? (tree : FilterTree) (id : NodeId) (index : Nat) : Option NodeId :=
  (tree.children id)[index]?

/-- The identities of some branches and of all below them: the first is listed, and its children
come before the others. -/
def walk : List Branch → List NodeId
  | [] => []
  | .mk id _ _ children :: rest => id :: walk (children ++ rest)
termination_by stack => Branch.sizeAll stack
decreasing_by
  simp only [Branch.sizeAll_append, Branch.sizeAll, Branch.size]
  omega

/-- The identities of a walk are those from the top down, branch after branch. -/
theorem walk_eq (stack : List Branch) : walk stack = (Branch.preorderAll stack).map (·.id) := by
  induction stack using walk.induct with
  | case1 => rw [walk, Branch.preorderAll, List.map_nil]
  | case2 id node negated children rest ih =>
    rw [walk, ih, Branch.preorderAll_append, Branch.preorderAll, Branch.preorder]
    rfl

/-- The identities of the nodes of a branch, from the top down. -/
def descendants (tree : FilterTree) (id : NodeId) : List NodeId :=
  walk (tree.branch? id).toList

/-- The number of nodes at and below the top. -/
def size (tree : FilterTree) : Nat :=
  (tree.descendants rootId).length

/-- Whether nothing is below the top. -/
def isEmpty (tree : FilterTree) : Bool :=
  (tree.children rootId).isEmpty

/-- Whether the branch of an identity accepts an event. -/
def acceptsFrom (tree : FilterTree) (id : NodeId) (event : Event) : Bool :=
  ((tree.branch? id).map (·.accepts event)).getD false

/-- Whether a tree accepts an event. -/
def accepts (tree : FilterTree) (event : Event) : Bool :=
  tree.acceptsFrom rootId event

end FilterTree
end EventSieve
