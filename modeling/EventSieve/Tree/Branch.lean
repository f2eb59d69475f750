import EventSieve.Tree.Node

/-!
# Branches of filter trees

A branch is a node with its identity, its flag and the branches below it. It says by itself
which events it accepts.

## Main definitions

* `NodeId` — the identity of a node in a tree
* `Branch` — a node with everything below it
* `Branch.preorder` — a branch and all branches below it, from the top down
* `Branch.accepts` — whether a branch accepts an event
* `Branch.find?`, `Branch.modify` — the branch with an identity, and a change of it
-/
namespace EventSieve.Tree

/-- The identity of a node: its place, and how often the place had been given up before. -/
structure NodeId where
  index : Nat
  generation : UInt32
deriving DecidableEq, Repr

/-- The text of an identity. -/
def NodeId.text (id : NodeId) : String :=
  "NodeId \x7b index: " ++ Number.intText id.index ++ ", generation: " ++
    Number.intText id.generation.toNat ++ " \x7d"

/-- A node with everything below it. -/
inductive Branch where
  | mk (id : NodeId) (node : Node) (negated : Bool) (children : List Branch)

namespace Branch

/-- The identity of the node at the top. -/
def id : Branch → NodeId
  | mk id _ _ _ => id

/-- The node at the top. -/
def node : Branch → Node
  | mk _ node _ _ => node

/-- The flag of the node at the top. -/
def negated : Branch → Bool
  | mk _ _ negated _ => negated

/-- The branches directly below the top. -/
def children : Branch → List Branch
  | mk _ _ _ children => children

/-- The branch with another node at the top. -/
def withNode (node : Node) : Branch → Branch
  | mk id _ negated children => mk id node negated children

/-- The branch with another flag. -/
def withNegated (negated : Bool) : Branch → Branch
  | mk id node _ children => mk id node negated children

/-- The branch with other branches below the top. -/
def withChildren (children : List Branch) : Branch → Branch
  | mk id node negated _ => mk id node negated children

/-! A change of one part of a branch leaves the other parts as they are. -/

section
variable (branch : Branch) (node : Node) (negated : Bool) (children : List Branch)

@[simp] theorem id_withNode : (branch.withNode node).id = branch.id := by
  cases branch; rfl

@[simp] theorem node_withNode : (branch.withNode node).node = node := by
  cases branch; rfl

@[simp] theorem negated_withNode : (branch.withNode node).negated = branch.negated := by
  cases branch; rfl

@[simp] theorem children_withNode : (branch.withNode node).children = branch.children := by
  cases branch; rfl

@[simp] theorem id_withNegated : (branch.withNegated negated).id = branch.id := by
  cases branch; rfl

@[simp] theorem node_withNegated : (branch.withNegated negated).node = branch.node := by
  cases branch; rfl

@[simp] theorem negated_withNegated : (branch.withNegated negated).negated = negated := by
  cases branch; rfl

@[simp] theorem children_withNegated :
    (branch.withNegated negated).children = branch.children := by
  cases branch; rfl

@[simp] theorem id_withChildren : (branch.withChildren children).id = branch.id := by
  cases branch; rfl

@[simp] theorem node_withChildren : (branch.withChildren children).node = branch.node := by
  cases branch; rfl

@[simp] theorem negated_withChildren :
    (branch.withChildren children).negated = branch.negated := by
  cases branch; rfl

@[simp] theorem children_withChildren : (branch.withChildren children).children = children := by
  cases branch; rfl

end

mutual

/-- A branch and all branches below it, from the top down. -/
def preorder : Branch → List Branch
  | mk id node negated children => mk id node negated children :: preorderAll children

/-- Branches and all branches below them, one after the other. -/
def preorderAll : List Branch → List Branch
  | [] => []
  | branch :: rest => preorder branch ++ preorderAll rest

end

mutual

/-- The number of nodes of a branch. -/
def size : Branch → Nat
  | mk _ _ _ children => sizeAll children + 1

/-- The number of nodes of some branches. -/
def sizeAll : List Branch → Nat
  | [] => 0
  | branch :: rest => size branch + sizeAll rest

end

@[simp] theorem sizeAll_append (one other : List Branch) :
    sizeAll (one ++ other) = sizeAll one + sizeAll other := by
  induction one with
  | nil => simp [sizeAll]
  | cons branch rest ih => simp [sizeAll, ih, Nat.add_assoc]

@[simp] theorem preorderAll_append (one other : List Branch) :
    preorderAll (one ++ other) = preorderAll one ++ preorderAll other := by
  induction one with
  | nil => rfl
  | cons branch rest ih => simp [preorderAll, ih]

/-- The branch with an identity, itself or below. -/
def find? (id : NodeId) (branch : Branch) : Option Branch :=
  branch.preorder.find? (·.id == id)

/-- The branch that has a branch with an identity directly below its top. -/
def parentOf? (id : NodeId) (branch : Branch) : Option Branch :=
  branch.preorder.find? fun candidate => candidate.children.any (·.id == id)

mutual

/-- The branch with a change made to the branch of an identity. -/
def modify (target : NodeId) (change : Branch → Branch) : Branch → Branch
  | mk id node negated children =>
    if id = target then change (mk id node negated children)
    else mk id node negated (modifyAll target change children)

/-- Branches with a change made to the branch of an identity. -/
def modifyAll (target : NodeId) (change : Branch → Branch) : List Branch → List Branch
  | [] => []
  | branch :: rest => modify target change branch :: modifyAll target change rest

end

mutual

/-- Whether a branch accepts an event. -/
def accepts (event : Event) : Branch → Bool
  | mk _ node negated children =>
    match node with
    | .root | .namedFilter _ => allAccept event children
    | .and => allAccept event children ^^ negated
    | .or => anyAccepts event children ^^ negated
    | .traceTypeGate traceType =>
      ((event.traceType == traceType) ^^ negated) && allAccept event children
    | .objectWrapper (some test) => test event ^^ negated
    | .objectWrapper none => allAccept event children
    | leaf => leaf.leafAccepts event ^^ negated

/-- Whether all of some branches accept an event. -/
def allAccept (event : Event) : List Branch → Bool
  | [] => true
  | branch :: rest => accepts event branch && allAccept event rest

/-- Whether any of some branches accepts an event. -/
def anyAccepts (event : Event) : List Branch → Bool
  | [] => false
  | branch :: rest => accepts event branch || anyAccepts event rest

end

end Branch
end EventSieve.Tree
