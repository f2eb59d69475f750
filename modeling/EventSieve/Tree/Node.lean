import EventSieve.Event.Aspect
import EventSieve.Operator

/-!
# Nodes of filter trees

The payloads of nodes: connectives, four kinds of leaves that compare the values of an aspect,
a gate for one type of traces, a name for a filter, and a wrapper of a test from outside. A leaf
keeps its value prepared, and prepares it anew whenever the value is set.

## Main definitions

* `Node`, `NodeKind` — a payload and its kind
* `NodeKind.maxChildren?`, `NodeKind.canNegate` — what a node may have
* `EqualsLeaf`, `ContainsLeaf`, `MatchesLeaf`, `CompareLeaf` — the leaves
* `Node.leafAccepts` — the outcome of a leaf for an event
-/
namespace EventSieve.Tree

/-- The kinds of nodes. -/
inductive NodeKind where
  | root | and | or | equals | contains | «matches» | compare
  | traceTypeGate | namedFilter | objectWrapper
deriving DecidableEq, Repr

namespace NodeKind

/-- The name of a kind. -/
def name : NodeKind → String
  | root => "Root"
  | and => "And"
  | or => "Or"
  | equals => "Equals"
  | contains => "Contains"
  | «matches» => "Matches"
  | compare => "Compare"
  | traceTypeGate => "TraceTypeGate"
  | namedFilter => "NamedFilter"
  | objectWrapper => "ObjectWrapper"

/-- How many children a node may have; none says that there is no limit. -/
def maxChildren? : NodeKind → Option Nat
  | root | and | or => none
  | equals | contains | «matches» | compare => some 0
  | traceTypeGate | namedFilter | objectWrapper => some 1

/-- Whether a node may be negated. -/
def canNegate : NodeKind → Bool
  | root | namedFilter => false
  | _ => true

end NodeKind

/-! ## Leaves -/

/-- A leaf for values that are equal to a text. -/
structure EqualsLeaf where
  aspect : Aspect
  value : Prepared
  ignoreCase : Bool := false
  coercion : Coercion := {}
deriving Repr

namespace EqualsLeaf

/-- The leaf of an aspect and a text. -/
def make (aspect : Aspect) (value : String) (coercion : Coercion := {}) : EqualsLeaf where
  aspect := aspect
  value := coercion.prepare value false
  coercion := coercion

/-- The leaf with another text. -/
def setValue (leaf : EqualsLeaf) (value : String) (coercion : Coercion) : EqualsLeaf :=
  { leaf with value := coercion.prepare value false, coercion := coercion }

/-- Whether some value of the aspect is equal to the text. -/
def accepts (leaf : EqualsLeaf) (event : Event) : Bool :=
  (leaf.aspect.resolveAll event).any fun value =>
    valuesEqual value leaf.value leaf.ignoreCase leaf.coercion

end EqualsLeaf

/-- A leaf for values whose text contains another. -/
structure ContainsLeaf where
  aspect : Aspect
  value : String
  ignoreCase : Bool := false
deriving Repr

/-- Whether the text of some value of the aspect contains the text. -/
def ContainsLeaf.accepts (leaf : ContainsLeaf) (event : Event) : Bool :=
  (leaf.aspect.resolveAll event).any fun value => containsText value leaf.value leaf.ignoreCase

/-- A leaf for values that match a pattern. -/
structure MatchesLeaf where
  aspect : Aspect
  pattern : Prepared
  coercion : Coercion := {}
deriving Repr

namespace MatchesLeaf

/-- The pattern that every value matches. -/
def anything : String := ".*"

/-- The leaf of an aspect and a pattern. -/
def make (aspect : Aspect) (pattern : String) (coercion : Coercion := {}) : MatchesLeaf where
  aspect := aspect
  pattern := coercion.prepare pattern true
  coercion := coercion

/-- The leaf with another pattern. -/
def setPattern (leaf : MatchesLeaf) (pattern : String) (coercion : Coercion) : MatchesLeaf :=
  { leaf with pattern := coercion.prepare pattern true, coercion := coercion }

/-- Whether some value of the aspect matches. -/
def accepts (leaf : MatchesLeaf) (event : Event) : Bool :=
  (leaf.aspect.resolveAll event).any fun value =>
    matchesPattern value leaf.pattern leaf.coercion

end MatchesLeaf

/-- The orders that a value can be compared in. -/
inductive CompareType where
  /-- By number, and by text where a number is missing. -/
  | num
  /-- By text. -/
  | alpha
  /-- By instant. -/
  | timestamp
deriving DecidableEq, Repr

namespace CompareType

/-- The name of an order. -/
def name : CompareType → String
  | num => "num"
  | alpha => "alpha"
  | timestamp => "timestamp"

/-- The order with a name. -/
def ofName? (name : String) : Option CompareType :=
  [num, alpha, timestamp].find? (·.name == name)

end CompareType

/-- A leaf for values that stand above, at or below a text. -/
structure CompareLeaf where
  aspect : Aspect
  value : Prepared
  instant : Option Int64
  type : CompareType := .num
  /-- The sign of the wanted difference between a value and the text. -/
  result : Int
  coercion : Coercion := {}
deriving Repr

namespace CompareLeaf

/-- The leaf of an aspect, a text and the wanted sign. -/
def make (aspect : Aspect) (value : String) (result : Int) (coercion : Coercion := {}) :
    CompareLeaf where
  aspect := aspect
  value := coercion.prepare value false
  instant := coercion.instant? value
  result := result.sign
  coercion := coercion

/-- The leaf with another text. -/
def setValue (leaf : CompareLeaf) (value : String) (coercion : Coercion) : CompareLeaf :=
  { leaf with
    value := coercion.prepare value false
    instant := coercion.instant? value
    coercion := coercion }

/-- The leaf with another wanted sign. -/
def setResult (leaf : CompareLeaf) (result : Int) : CompareLeaf :=
  { leaf with result := result.sign }

/-- The sign of an order. -/
def symbol (leaf : CompareLeaf) : String :=
  if leaf.result = 1 then ">" else if leaf.result = -1 then "<" else "=="

/-- The order that is wanted. -/
def wanted (leaf : CompareLeaf) : Ordering :=
  if leaf.result = 1 then .gt else if leaf.result = -1 then .lt else .eq

/-- The order of a value and the text. -/
def order? (leaf : CompareLeaf) (value : Value) : Option Ordering :=
  match leaf.type with
  | .num => compareValues? value leaf.value leaf.coercion
  | .alpha => some (compareText value leaf.value.text)
  | .timestamp => leaf.instant.bind fun instant => compareInstants? value instant leaf.coercion

/-- Whether some value of the aspect stands in the wanted order. -/
def accepts (leaf : CompareLeaf) (event : Event) : Bool :=
  (leaf.aspect.resolveAll event).any fun value => leaf.order? value == some leaf.wanted

end CompareLeaf

/-! ## Nodes -/

/-- The payload of a node. -/
inductive Node where
  | root
  | and
  | or
  | equals (leaf : EqualsLeaf)
  | contains (leaf : ContainsLeaf)
  | «matches» (leaf : MatchesLeaf)
  | compare (leaf : CompareLeaf)
  /-- Only events of one type of traces pass. -/
  | traceTypeGate (traceType : String)
  | namedFilter (name : String)
  /-- A test from outside the tree. Without one the children decide. -/
  | objectWrapper (test : Option (Event → Bool))

namespace Node

/-- The kind of a node. -/
def kind : Node → NodeKind
  | root => .root
  | and => .and
  | or => .or
  | equals _ => .equals
  | contains _ => .contains
  | «matches» _ => .matches
  | compare _ => .compare
  | traceTypeGate _ => .traceTypeGate
  | namedFilter _ => .namedFilter
  | objectWrapper _ => .objectWrapper

/-- The aspect of a leaf. -/
def aspect? : Node → Option Aspect
  | equals leaf => some leaf.aspect
  | contains leaf => some leaf.aspect
  | «matches» leaf => some leaf.aspect
  | compare leaf => some leaf.aspect
  | _ => none

/-- The text that a leaf compares with, as it was written. -/
def value? : Node → Option String
  | equals leaf => some leaf.value.text
  | contains leaf => some leaf.value
  | «matches» leaf => some leaf.pattern.text
  | compare leaf => some leaf.value.text
  | _ => none

/-- A leaf with another text; nodes that are no leaves have none. -/
def setValue? (value : String) (coercion : Coercion) : Node → Option Node
  | equals leaf => some (equals (leaf.setValue value coercion))
  | contains leaf => some (contains { leaf with value := value })
  | «matches» leaf => some («matches» (leaf.setPattern value coercion))
  | compare leaf => some (compare (leaf.setValue value coercion))
  | _ => none

/-- A leaf with another aspect. -/
def setAspect? (aspect : Aspect) : Node → Option Node
  | equals leaf => some (equals { leaf with aspect := aspect })
  | contains leaf => some (contains { leaf with aspect := aspect })
  | «matches» leaf => some («matches» { leaf with aspect := aspect })
  | compare leaf => some (compare { leaf with aspect := aspect })
  | _ => none

/-- A leaf that ignores case, or does not; only two kinds can. -/
def setIgnoreCase? (ignoreCase : Bool) : Node → Option Node
  | equals leaf => some (equals { leaf with ignoreCase := ignoreCase })
  | contains leaf => some (contains { leaf with ignoreCase := ignoreCase })
  | _ => none

/-- A leaf that compares in another order; only one kind can. -/
def setType? (type : CompareType) : Node → Option Node
  | compare leaf => some (compare { leaf with type := type })
  | _ => none

/-- A leaf with another wanted sign; only one kind can. -/
def setResult? (result : Int) : Node → Option Node
  | compare leaf => some (compare (leaf.setResult result))
  | _ => none

/-- The outcome of a leaf for an event; other nodes accept nothing by themselves. -/
def leafAccepts (node : Node) (event : Event) : Bool :=
  match node with
  | equals leaf => leaf.accepts event
  | contains leaf => leaf.accepts event
  | «matches» leaf => leaf.accepts event
  | compare leaf => leaf.accepts event
  | _ => false

/-- What the text of a leaf ends in if it ignores case. -/
def caseNote (ignoreCase : Bool) : String :=
  if ignoreCase then " (ignore case)" else ""

/-- What the text of a leaf ends in if it does not compare numbers. -/
def orderNote : CompareType → String
  | .num => ""
  | .alpha => " (Alpha)"
  | .timestamp => " (Timestamp)"

/-- The text of a leaf: its kind, its aspect, and what it compares with. -/
def leafText (kind : NodeKind) (aspect : Aspect) (operator value : String) : String :=
  kind.name ++ " [" ++ aspect.name ++ "] " ++ operator ++ " \"" ++ value ++ "\""

/-- The text of a node. -/
def text : Node → String
  | root => "Root"
  | and => "And"
  | or => "Or"
  | equals leaf => leafText .equals leaf.aspect "==" leaf.value.text ++ caseNote leaf.ignoreCase
  | contains leaf =>
    leafText .contains leaf.aspect "contains" leaf.value ++ caseNote leaf.ignoreCase
  | «matches» leaf => leafText .matches leaf.aspect "matches" leaf.pattern.text
  | compare leaf =>
    leafText .compare leaf.aspect leaf.symbol leaf.value.text ++ orderNote leaf.type
  | traceTypeGate traceType => "TraceType " ++ traceType
  | namedFilter name => "Filter \"" ++ name ++ "\""
  | objectWrapper test => if test.isSome then "Object <predicate>" else "Object"

end Node
end EventSieve.Tree
