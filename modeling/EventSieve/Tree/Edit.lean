import EventSieve.Tree.Basic

/-!
# Edits of filter trees

An edit changes a tree and may fail. What an edit has changed before it fails stays changed.

## Main definitions

* `EditError` — why an edit fails
* `Edit` — a change that may fail
* `Edit.insertChild`, `Edit.removeChild`, `Edit.replaceChild` — edits of the children of a node
* `Edit.graft` — a copy of a tree below a node
* `FilterTree.subtree` — a branch as a tree of its own
-/
namespace EventSieve

open EventSieve.Tree (Node NodeKind NodeId Branch)

/-- Why an edit fails. -/
inductive EditError where
  | unknownNode (id : NodeId)
  | tooManyChildren (kind : NodeKind) (limit : Nat)
  | nestedRoot
  | indexOutOfBounds (index size : Nat)
deriving DecidableEq, Repr

/-- The wording of an error. -/
def EditError.message : EditError → String
  | unknownNode id => "Node " ++ id.text ++ " is not part of this tree"
  | tooManyChildren kind limit =>
    kind.name ++ " nodes accept at most " ++ Number.intText limit ++ " children"
  | nestedRoot => "A root node cannot be nested inside another node"
  | indexOutOfBounds index size =>
    "Child index " ++ Number.intText index ++ " is out of bounds for a node with " ++
      Number.intText size ++ " children"

/-- A change of a tree that may fail. -/
abbrev Edit := ExceptT EditError (StateM FilterTree)

namespace FilterTree

/-- The tree with a change made to the branch of an identity. -/
def modifyBranch (tree : FilterTree) (id : NodeId) (change : Branch → Branch) : FilterTree :=
  { tree with
    top := tree.top.modify id change
    strays := tree.strays.map fun (parent, branch) => (parent, branch.modify id change) }

/-- A new identity: the place given up last, or else a new place. -/
def allocate (tree : FilterTree) : NodeId × FilterTree :=
  match tree.free with
  | index :: rest => (⟨index, tree.generations.getD index 0⟩, { tree with free := rest })
  | [] => (⟨tree.generations.length, 0⟩, { tree with generations := tree.generations ++ [0] })

/-- The tree with the place of an identity given up. -/
def giveUp (tree : FilterTree) (id : NodeId) : FilterTree :=
  { tree with
    generations := tree.generations.modify id.index (· + 1)
    free := id.index :: tree.free }

/-- The tree with the child at a place cut off from its parent. -/
def cut (tree : FilterTree) (parent : NodeId) (index : Nat) (branch : Branch) : FilterTree :=
  let tree := tree.modifyBranch parent fun old => old.withChildren (old.children.eraseIdx index)
  { tree with strays := (parent, branch) :: tree.strays }

/-- The tree without a stray, whose places are given up from the top down. -/
def release (tree : FilterTree) (branch : Branch) : FilterTree :=
  let tree := { tree with strays := tree.strays.filter (·.2.id != branch.id) }
  (walk [branch]).foldl giveUp tree

end FilterTree

namespace Edit

/-- The branch of an identity. -/
def branch (id : NodeId) : Edit Branch := do
  match (← get).branch? id with
  | some branch => return branch
  | none => throw (.unknownNode id)

/-- Changes the node of an identity. -/
def setNode (id : NodeId) (node : Node) : Edit Unit := do
  discard (branch id)
  modify fun tree => tree.modifyBranch id (·.withNode node)

/-- Sets the flag of a node, if nodes of its kind can have it. -/
def setNegated (id : NodeId) (negated : Bool) : Edit Unit := do
  let old ← branch id
  if old.node.kind.canNegate then
    modify fun tree => tree.modifyBranch id (·.withNegated negated)

/-- Toggles the flag of a node, if nodes of its kind can have it. -/
def toggleNegated (id : NodeId) : Edit Unit := do
  setNegated id (!(← branch id).negated)

/-- A new node below another one, at a place among its children. -/
def insertChild (parent : NodeId) (index : Nat) (node : Node) : Edit NodeId := do
  if node.kind = .root then throw .nestedRoot
  let old ← branch parent
  let count := old.children.length
  match old.node.kind.maxChildren? with
  | some limit => if limit ≤ count then throw (.tooManyChildren old.node.kind limit)
  | none => pure ()
  if count < index then throw (.indexOutOfBounds index count)
  let (id, tree) := (← get).allocate
  let new := Branch.mk id node false []
  set (tree.modifyBranch parent fun old => old.withChildren (old.children.insertIdx index new))
  return id

/-- A new node below another one, after its children. -/
def addChild (parent : NodeId) (node : Node) : Edit NodeId := do
  insertChild parent (← branch parent).children.length node

/-- Sets the flag of a node of any kind. -/
def copyFlag (id : NodeId) (negated : Bool) : Edit Unit :=
  modify fun tree => tree.modifyBranch id (·.withNegated negated)

mutual

/-- A copy of a branch below a node. -/
def graftBranch (parent : NodeId) : Branch → Edit NodeId
  | .mk _ node negated children => do
    let id ← addChild parent node
    copyFlag id negated
    graftAll id children
    return id

/-- Copies of branches below a node. -/
def graftAll (parent : NodeId) : List Branch → Edit Unit
  | [] => return
  | branch :: rest => do
    discard (graftBranch parent branch)
    graftAll parent rest

end

/-- A copy of a tree below a node. -/
def graft (parent : NodeId) (other : FilterTree) : Edit NodeId :=
  graftBranch parent other.top

end Edit

namespace FilterTree

/-- A branch as a tree of its own. -/
def ofBranch (branch : Branch) : Except EditError FilterTree :=
  let start := withTop branch.node
  let start := { start with top := start.top.withNegated branch.negated }
  match (Edit.graftAll rootId branch.children).run.run start with
  | (.ok (), tree) => .ok tree
  | (.error fault, _) => .error fault

/-- The branch of an identity as a tree of its own. -/
def subtree (tree : FilterTree) (id : NodeId) : Except EditError FilterTree :=
  match tree.branch? id with
  | some branch => ofBranch branch
  | none => .error (.unknownNode id)

end FilterTree

namespace Edit

/-- Takes the child at a place out of a tree, as a tree of its own. The child is cut off first,
so it stays as a stray if it is no tree. -/
def removeChild (parent : NodeId) (index : Nat) : Edit FilterTree := do
  let old ← branch parent
  match old.children[index]? with
  | none => throw (.indexOutOfBounds index old.children.length)
  | some child =>
    modify fun tree => tree.cut parent index child
    let removed ← (FilterTree.ofBranch child : Except EditError FilterTree)
    modify fun tree => tree.release child
    return removed

/-- A new node in the place of a child and everything below it. -/
def replaceChild (parent : NodeId) (index : Nat) (node : Node) : Edit NodeId := do
  if node.kind = .root then throw .nestedRoot
  discard (removeChild parent index)
  insertChild parent index node

/-- The outcome of an edit, and the tree after it. -/
def apply {α : Type} (edit : Edit α) (tree : FilterTree) : Except EditError α × FilterTree :=
  edit.run.run tree

end Edit
end EventSieve
