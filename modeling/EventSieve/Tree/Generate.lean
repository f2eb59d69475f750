import EventSieve.Filter.Basic
import EventSieve.Tree.Edit

/-!
# Filter trees of filters

A generator turns filters into trees over the aspects of a registry. A comparison of a field is
a leaf; a comparison of any field is an `or` with a leaf for every aspect. Negations end up as
flags of nodes.

## Main definitions

* `Generator` — the registry and the rules
* `Builds` — the edits that nodes are built by
* `Generator.buildFilter` — a filter as one node below another, by any such edits
* `Generator.addFilter` — a filter as one node below another in a filter tree
* `Generator.tree` — the tree of a filter
-/
namespace EventSieve

open EventSieve.Tree (Node NodeId EqualsLeaf ContainsLeaf MatchesLeaf CompareLeaf)

/-- The registry and the rules by which filters become trees. -/
structure Generator where
  registry : Registry := .builtin
  coercion : Coercion := {}
  ignoreCase : Bool := false
deriving Repr

/-- Edits that can add nodes and set their flags. -/
class Builds (m : Type → Type) where
  /-- A new node below another one, after its children. -/
  addChild (parent : NodeId) (node : Node) : m NodeId
  /-- Sets the flag of a node, if nodes of its kind can have it. -/
  setNegated (id : NodeId) (negated : Bool) : m Unit

instance : Builds Edit where
  addChild := Edit.addChild
  setNegated := Edit.setNegated

namespace Generator

/-- The leaf of an aspect for an operator and a text. Inequality has the leaf of equality, and
presence that of a pattern that everything matches. -/
def leaf (generator : Generator) (aspect : Aspect) (operator : Operator) (value : String) :
    Node :=
  match operator with
  | .equals | .notEquals =>
    .equals { EqualsLeaf.make aspect value generator.coercion with
      ignoreCase := generator.ignoreCase }
  | .contains => .contains { aspect, value, ignoreCase := generator.ignoreCase }
  | .matches => .matches (.make aspect value generator.coercion)
  | .present => .matches (.make aspect MatchesLeaf.anything generator.coercion)
  | .greaterThan => .compare (.make aspect value 1 generator.coercion)
  | .lessThan => .compare (.make aspect value (-1) generator.coercion)

/-- Whether the negation of an operator is kept in the flag of its node. -/
def isInverse (operator : Operator) : Bool :=
  operator == .notEquals

/-- The node of a connective. -/
def connectiveNode : Connective → Node
  | .and => .and
  | .or => .or

section
variable {m : Type → Type} [Monad m] [Builds m]

/-- A new node with a flag, after the children of a node. -/
def buildNode (parent : NodeId) (node : Node) (negated : Bool) : m NodeId := do
  let id ← Builds.addChild parent node
  Builds.setNegated id negated
  return id

/-- Match leaves for some aspects, below a node. -/
def buildMatches (generator : Generator) (parent : NodeId) (pattern : String) :
    List Aspect → m Unit
  | [] => return
  | aspect :: rest => do
    discard (Builds.addChild parent (.matches (.make aspect pattern generator.coercion)))
    buildMatches generator parent pattern rest

/-- A comparison as one node below another; `negated` negates it once more. -/
def buildComparison (generator : Generator) (parent : NodeId) (comparison : Comparison)
    (negated : Bool) : m NodeId := do
  let operator := comparison.operator
  let value := comparison.value.getD ""
  let flag := negated ^^ comparison.negated ^^ isInverse operator
  if comparison.isAnywhere then
    let pattern := if operator = .present then MatchesLeaf.anything else value
    let id ← buildNode parent .or flag
    generator.buildMatches id pattern generator.registry.aspects
    return id
  else
    let aspect := generator.registry.resolveOrField comparison.field
    buildNode parent (generator.leaf aspect operator value) flag

/-- A clause as one node below another. -/
def buildClause (generator : Generator) (parent : NodeId) (clause : Clause) : m NodeId := do
  match clause.connective, clause.right with
  | some connective, some right =>
    let id ← buildNode parent (connectiveNode connective) clause.negated
    discard (generator.buildComparison id clause.left false)
    discard (generator.buildComparison id right false)
    return id
  | _, _ => generator.buildComparison parent clause.left clause.negated

/-- Clauses as nodes below another. -/
def buildClauses (generator : Generator) (parent : NodeId) : List Clause → m Unit
  | [] => return
  | clause :: rest => do
    discard (generator.buildClause parent clause)
    buildClauses generator parent rest

/-- A filter as one node below another. Unless it is a single clause, an `and` holds its clauses
and its negation. -/
def buildFilter (generator : Generator) (parent : NodeId) (filter : Filter) : m NodeId := do
  match filter.clauses, filter.negated with
  | [clause], false => generator.buildClause parent clause
  | clauses, negated =>
    let id ← buildNode parent .and negated
    generator.buildClauses id clauses
    return id

end

/-! Filter trees are built by their own edits. -/

@[inherit_doc buildNode]
abbrev addNode (parent : NodeId) (node : Node) (negated : Bool) : Edit NodeId :=
  buildNode parent node negated

theorem addNode_eq (parent : NodeId) (node : Node) (negated : Bool) :
    addNode parent node negated = (do
      let id ← Edit.addChild parent node
      Edit.setNegated id negated
      return id) := rfl

@[inherit_doc buildMatches]
abbrev addMatches (generator : Generator) (parent : NodeId) (pattern : String)
    (aspects : List Aspect) : Edit Unit :=
  generator.buildMatches parent pattern aspects

@[inherit_doc buildComparison]
abbrev addComparison (generator : Generator) (parent : NodeId) (comparison : Comparison)
    (negated : Bool) : Edit NodeId :=
  generator.buildComparison parent comparison negated

@[inherit_doc buildClause]
abbrev addClause (generator : Generator) (parent : NodeId) (clause : Clause) : Edit NodeId :=
  generator.buildClause parent clause

@[inherit_doc buildClauses]
abbrev addClauses (generator : Generator) (parent : NodeId) (clauses : List Clause) : Edit Unit :=
  generator.buildClauses parent clauses

@[inherit_doc buildFilter]
abbrev addFilter (generator : Generator) (parent : NodeId) (filter : Filter) : Edit NodeId :=
  generator.buildFilter parent filter

/-- A filter below the top of a tree: its clauses, or one node if it is negated. -/
def addToRoot (generator : Generator) (filter : Filter) : Edit Unit := do
  if filter.negated then discard (generator.addFilter FilterTree.rootId filter)
  else generator.addClauses FilterTree.rootId filter.clauses

/-- The tree of a filter. -/
def tree (generator : Generator) (filter : Filter) : FilterTree :=
  ((generator.addToRoot filter).apply .empty).2

end Generator
end EventSieve
