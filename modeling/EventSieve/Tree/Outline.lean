import EventSieve.Json.Basic
import EventSieve.Tree.Basic

/-!
# Outlines of filter trees

A tree as text, one line for each node, and as JSON.

## Main definitions

* `FilterTree.outline` — the lines of a tree, indented by depth
* `FilterTree.toJson` — the tree with the kind, the flag and the payload of every node
-/
namespace EventSieve
namespace Tree.Branch

/-- The line of a node at a depth. -/
def line (depth : Nat) (node : Node) (negated : Bool) : String :=
  String.ofList (List.replicate (2 * depth) ' ') ++ (if negated then "NOT " else "") ++
    node.text ++ "\n"

mutual

/-- The lines of a branch at a depth. -/
def outline (depth : Nat) : Branch → String
  | mk _ node negated children => line depth node negated ++ outlineAll (depth + 1) children

/-- The lines of some branches at a depth. -/
def outlineAll (depth : Nat) : List Branch → String
  | [] => ""
  | branch :: rest => outline depth branch ++ outlineAll depth rest

end

end Tree.Branch

namespace Tree.Node

/-- The members of a node in JSON that depend on its kind. -/
def members : Node → List (String × Json)
  | equals leaf =>
    [("aspect", .string leaf.aspect.name), ("value", .string leaf.value.text),
      ("ignore_case", .boolean leaf.ignoreCase)]
  | contains leaf =>
    [("aspect", .string leaf.aspect.name), ("value", .string leaf.value),
      ("ignore_case", .boolean leaf.ignoreCase)]
  | «matches» leaf =>
    [("aspect", .string leaf.aspect.name), ("pattern", .string leaf.pattern.text)]
  | compare leaf =>
    [("aspect", .string leaf.aspect.name), ("value", .string leaf.value.text),
      ("result", .integer leaf.result), ("type", .string leaf.type.name)]
  | traceTypeGate traceType => [("trace_type", .string traceType)]
  | namedFilter name => [("name", .string name)]
  | root | and | or | objectWrapper _ => []

end Tree.Node

namespace Tree.Branch

mutual

/-- A branch in JSON. -/
def toJson : Branch → Json
  | mk _ node negated children =>
    let below :=
      if children.isEmpty then [] else [("children", Json.array (toJsonAll children))]
    .ofMembers <|
      [("kind", .string node.kind.name), ("negate", .boolean negated)] ++ node.members ++ below

/-- Branches in JSON. -/
def toJsonAll : List Branch → List Json
  | [] => []
  | branch :: rest => toJson branch :: toJsonAll rest

end

end Tree.Branch

namespace FilterTree

/-- The lines of a tree. -/
def outline (tree : FilterTree) : String :=
  tree.top.outline 0

/-- A tree in JSON. -/
def toJson (tree : FilterTree) : Json :=
  tree.top.toJson

end FilterTree
end EventSieve
