import EventSieve.Tree.Generate
import EventSieve.Tree.Outline

/-!
# Arenas

The nodes of a filter tree as they lie in a list of places. A place keeps its node, the identity of
the node above it and the identities of the nodes below it, so that all nesting is by identities. A
place that is given up is detached, and its generation counts up; it is used again, the last one
given up first.

Whatever follows identities has no outcome if it does not end, or if it comes to an index that is
out of range.

## Main definitions

* `Slot` — a place and what it keeps
* `Arena` — the places of a tree
* `Arena.walk` — the identities at and below others, by a stack
* `Arena.evaluate` — whether the node at an index accepts an event
* `Arena.Edit` — a change of an arena that may fail
* `Arena.Edit.insertChild`, `Arena.Edit.removeChild`, `Arena.Edit.graft` — edits of arenas
* `Arena.subtree` — a node and everything below it as an arena of its own
-/
namespace EventSieve

open EventSieve.Tree (Node NodeKind NodeId Branch)

/-- A place and what it keeps. -/
structure Slot where
  node : Node
  negated : Bool := false
  parent? : Option NodeId
  children : List NodeId := []
  generation : UInt32 := 0
  detached : Bool := false

/-- Whether an identity is the one of the node in a place. -/
def Slot.isLive (slot : Slot) (id : NodeId) : Bool :=
  !slot.detached && slot.generation == id.generation

/-- The places of a tree. -/
structure Arena where
  slots : List Slot
  /-- The indices of the places given up, the last one first. -/
  free : List Nat := []
  root : NodeId := FilterTree.rootId

namespace Arena

/-- The arena that has one node. -/
def withTop (node : Node) : Arena where
  slots := [{ node, parent? := none }]

/-- The arena of the tree that accepts everything. -/
def empty : Arena :=
  withTop .root

/-- The place of a node. -/
def slot? (arena : Arena) (id : NodeId) : Option Slot :=
  arena.slots[id.index]?.filter (·.isLive id)

/-- Whether an identity is one of a node of the arena. -/
def isLive (arena : Arena) (id : NodeId) : Bool :=
  (arena.slot? id).isSome

/-- The node of an identity. -/
def node? (arena : Arena) (id : NodeId) : Option Node :=
  (arena.slot? id).map (·.node)

/-- Whether the node of an identity is negated. -/
def isNegated (arena : Arena) (id : NodeId) : Bool :=
  ((arena.slot? id).map (·.negated)).getD false

/-- The identity of the parent of a node. -/
def parent? (arena : Arena) (id : NodeId) : Option NodeId :=
  (arena.slot? id).bind (·.parent?)

/-- The identities of the children of a node. -/
def children (arena : Arena) (id : NodeId) : List NodeId :=
  ((arena.slot? id).map (·.children)).getD []

/-- The identity of a child of a node. -/
def child? (arena : Arena) (id : NodeId) (index : Nat) : Option NodeId :=
  (arena.children id)[index]?

/-- Whether nothing is below the top. -/
def isEmpty (arena : Arena) : Bool :=
  (arena.children arena.root).isEmpty

/-! ## Following identities -/

/-- The identities listed so far, and then those that are pending, each followed by all below it.
Identities of no node are passed over. -/
def walk (arena : Arena) (listed pending : List NodeId) : Option (List NodeId) :=
  match pending with
  | [] => some listed
  | id :: rest =>
    match arena.slot? id with
    | none => arena |>.walk listed rest
    | some slot => arena |>.walk (listed ++ [id]) (slot.children ++ rest)
partial_fixpoint

/-- The identities of a node and of all below it, from the top down. -/
def descendants (arena : Arena) (id : NodeId) : Option (List NodeId) :=
  arena.walk [] [id]

/-- The number of nodes at and below the top. -/
def size (arena : Arena) : Option Nat :=
  (arena.descendants arena.root).map List.length

/-- Whether the node at the index of an identity accepts an event. Its generation is not looked
at. -/
def evaluate (arena : Arena) (event : Event) (id : NodeId) : Option Bool := do
  let slot ← arena.slots[id.index]?
  match slot.node with
  | .root | .namedFilter _ => slot.children.allM (arena |>.evaluate event)
  | .and => return (← slot.children.allM (arena |>.evaluate event)) ^^ slot.negated
  | .or => return (← slot.children.anyM (arena |>.evaluate event)) ^^ slot.negated
  | .traceTypeGate traceType =>
    if (event.traceType == traceType) ^^ slot.negated then
      slot.children.allM (arena |>.evaluate event)
    else return false
  | .objectWrapper (some test) => return test event ^^ slot.negated
  | .objectWrapper none => slot.children.allM (arena |>.evaluate event)
  | leaf => return leaf.leafAccepts event ^^ slot.negated
partial_fixpoint

/-- Whether a node accepts an event. -/
def acceptsFrom (arena : Arena) (id : NodeId) (event : Event) : Option Bool :=
  if arena.isLive id then arena.evaluate event id else some false

/-- Whether the top accepts an event. -/
def accepts (arena : Arena) (event : Event) : Option Bool :=
  arena.acceptsFrom arena.root event

/-- The lines of a node and of all below it, at a depth. -/
def outlineFrom (arena : Arena) (depth : Nat) (id : NodeId) : Option String :=
  match arena.slot? id with
  | none => some ""
  | some slot => do
    let below ← slot.children.mapM (arena |>.outlineFrom (depth + 1))
    return Branch.line depth slot.node slot.negated ++ String.join below
partial_fixpoint

/-- The lines of a tree. -/
def outline (arena : Arena) : Option String :=
  arena.outlineFrom 0 arena.root

/-- A node and everything below it in JSON. -/
def jsonFrom (arena : Arena) (id : NodeId) : Option Json :=
  match arena.slot? id with
  | none => some .null
  | some slot => do
    let items ← slot.children.mapM (arena |>.jsonFrom)
    let below := if slot.children.isEmpty then [] else [("children", Json.array items)]
    return .ofMembers <|
      [("kind", .string slot.node.kind.name), ("negate", .boolean slot.negated)] ++
        slot.node.members ++ below
partial_fixpoint

/-- A tree in JSON. -/
def toJson (arena : Arena) : Option Json :=
  arena.jsonFrom arena.root

/-! ## Edits -/

/-- A change of an arena that may fail, and may have no outcome. -/
abbrev Edit := ExceptT EditError (StateT Arena Option)

/-- The arena with a change made to the place at an index. -/
def modifySlot (arena : Arena) (index : Nat) (change : Slot → Slot) : Arena :=
  { arena with slots := arena.slots.modify index change }

/-- The arena with a place given up. -/
def giveUp (arena : Arena) (id : NodeId) : Arena :=
  let gone (slot : Slot) : Slot :=
    { slot with
      node := .and, children := [], generation := slot.generation + 1, detached := true }
  { arena.modifySlot id.index gone with free := id.index :: arena.free }

namespace Edit

/-- The place of a node. -/
def slot (id : NodeId) : Arena.Edit Slot := do
  match (← get).slot? id with
  | some slot => return slot
  | none => throw (.unknownNode id)

/-- Changes the place of a node. -/
def change (id : NodeId) (f : Slot → Slot) : Arena.Edit Unit := do
  discard (slot id)
  modify fun arena => arena.modifySlot id.index f

/-- Changes the node of an identity. -/
def setNode (id : NodeId) (node : Node) : Arena.Edit Unit :=
  change id ({ · with node })

/-- Sets the flag of a node of any kind. -/
def copyFlag (id : NodeId) (negated : Bool) : Arena.Edit Unit :=
  change id ({ · with negated })

/-- Sets the flag of a node, if nodes of its kind can have it. -/
def setNegated (id : NodeId) (negated : Bool) : Arena.Edit Unit := do
  if (← slot id).node.kind.canNegate then copyFlag id negated

/-- Toggles the flag of a node, if nodes of its kind can have it. -/
def toggleNegated (id : NodeId) : Arena.Edit Unit := do
  setNegated id (!(← slot id).negated)

/-- Puts a new node in a place: the one given up last, or else a new one. -/
def allocate (slot : Slot) : Arena.Edit NodeId := do
  let arena ← get
  match arena.free with
  | index :: rest =>
    let old ← arena.slots[index]?
    let slot := { slot with generation := old.generation }
    set { arena with slots := arena.slots.set index slot, free := rest }
    return ⟨index, old.generation⟩
  | [] =>
    set { arena with slots := arena.slots ++ [slot] }
    return ⟨arena.slots.length, 0⟩

/-- A new node below another one, at a place among its children. -/
def insertChild (parent : NodeId) (index : Nat) (node : Node) : Arena.Edit NodeId := do
  if node.kind = .root then throw .nestedRoot
  let old ← slot parent
  let count := old.children.length
  match old.node.kind.maxChildren? with
  | some limit => if limit ≤ count then throw (.tooManyChildren old.node.kind limit)
  | none => pure ()
  if count < index then throw (.indexOutOfBounds index count)
  let id ← allocate { node, parent? := some parent }
  change parent fun old => { old with children := old.children.insertIdx index id }
  return id

/-- A new node below another one, after its children. -/
def addChild (parent : NodeId) (node : Node) : Arena.Edit NodeId := do
  insertChild parent (← slot parent).children.length node

/-- Gives up the places of a node and of all below it, from the top down. -/
def release (id : NodeId) : Arena.Edit Unit := do
  let gone ← (← get).descendants id
  modify fun arena => gone.foldl giveUp arena

/-- The outcome of an edit and the arena after it. -/
def apply {α : Type} (edit : Arena.Edit α) (arena : Arena) :
    Option (Except EditError α × Arena) :=
  edit.run.run arena

end Edit

/-- A copy of a node of an arena, and of all below it, below a node of the arena that is edited. -/
def copyBelow (arena : Arena) (parent id : NodeId) : Arena.Edit NodeId := do
  match arena.slot? id with
  | none => throw (.unknownNode id)
  | some slot =>
    let new ← Edit.addChild parent slot.node
    Edit.copyFlag new slot.negated
    slot.children.forM fun child => do
      let _ ← arena |>.copyBelow new child
      return
    return new
partial_fixpoint

/-- A node and everything below it as an arena of its own. -/
def subtree (arena : Arena) (id : NodeId) : Option (Except EditError Arena) :=
  match arena.slot? id with
  | none => some (.error (.unknownNode id))
  | some slot => do
    let start : Arena := {
      slots := [{ node := slot.node, negated := slot.negated, parent? := none }] }
    let copies : Arena.Edit Unit := slot.children.forM fun child => do
      let _ ← arena.copyBelow start.root child
      return
    match ← copies.apply start with
    | (.ok (), part) => some (.ok part)
    | (.error fault, _) => some (.error fault)

namespace Edit

/-- A copy of an arena below a node. -/
def graft (parent : NodeId) (other : Arena) : Arena.Edit NodeId :=
  other.copyBelow parent other.root

/-- A node and everything below it as an arena of its own. -/
def subtree (id : NodeId) : Arena.Edit Arena := do
  match ← (← get).subtree id with
  | .ok part => return part
  | .error fault => throw fault

/-- Takes the child at a place out of an arena, as an arena of its own. The child is cut off first,
so it stays, without a parent that lists it, if it cannot be copied. -/
def removeChild (parent : NodeId) (index : Nat) : Arena.Edit Arena := do
  let old ← slot parent
  match old.children[index]? with
  | none => throw (.indexOutOfBounds index old.children.length)
  | some child =>
    change parent fun old => { old with children := old.children.eraseIdx index }
    let part ← subtree child
    release child
    return part

/-- A new node in the place of a child and everything below it. -/
def replaceChild (parent : NodeId) (index : Nat) (node : Node) : Arena.Edit NodeId := do
  if node.kind = .root then throw .nestedRoot
  discard (removeChild parent index)
  insertChild parent index node

end Edit

/-- Arenas are built by their own edits. -/
instance : Builds Arena.Edit where
  addChild := Edit.addChild
  setNegated := Edit.setNegated

end Arena
end EventSieve
