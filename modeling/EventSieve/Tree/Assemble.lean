import EventSieve.Config.Basic
import EventSieve.Filter.Compile
import EventSieve.Tree.Generate

/-!
# Trees of several filters

The trees that the program tests events with: a filter and saved filters side by side, behind a
gate if only one type of traces is wanted, and all saved filters of a configuration.

## Main definitions

* `Generator.ofConfig` — the generator by the rules of a configuration
* `Generator.eventTree` — the tree of a filter and of saved filters
* `FilterTree.ofSavedFilters` — the tree of the saved filters of a configuration
-/
namespace EventSieve

open EventSieve.Tree (Node NodeId)

namespace Generator

/-- The generator by the rules of a configuration. -/
def ofConfig (config : Config) (registry : Registry) : Generator where
  registry := registry
  coercion := config.coercion
  ignoreCase := config.matching.ignoreCase

/-- A named node below another, with a filter below it. -/
def addNamed (generator : Generator) (parent : NodeId) (name : String) (filter : Filter) :
    Edit Unit := do
  let id ← Edit.addChild parent (.namedFilter name)
  discard (generator.addFilter id filter)

/-- Named filters below a node. -/
def addAllNamed (generator : Generator) (parent : NodeId) :
    List (String × Filter) → Edit Unit
  | [] => return
  | (name, filter) :: rest => do
    generator.addNamed parent name filter
    addAllNamed generator parent rest

/-- The node that holds the filters: the top, or an `and` behind a gate. -/
def addGate : Option String → Edit NodeId
  | none => return FilterTree.rootId
  | some traceType => do
    let gate ← Edit.addChild FilterTree.rootId (.traceTypeGate traceType)
    Edit.addChild gate .and

/-- The edits that make a tree of a filter and of named filters. -/
def assemble (generator : Generator) (filter : Option Filter) (saved : List (String × Filter))
    (traceType : Option String) : Edit Unit := do
  let parent ← addGate traceType
  match filter with
  | some filter => discard (generator.addFilter parent filter)
  | none => pure ()
  generator.addAllNamed parent saved

/-- The tree of a filter and of named filters, behind a gate if a type of traces is given. -/
def eventTree (generator : Generator) (filter : Option Filter) (saved : List (String × Filter))
    (traceType : Option String) : Except EditError FilterTree :=
  match (generator.assemble filter saved traceType).apply .empty with
  | (.ok (), tree) => .ok tree
  | (.error fault, _) => .error fault

end Generator

/-- The enabled saved filters of a configuration that have a meaning, with their names. -/
def Config.usableFilters (config : Config) : List (String × Filter) :=
  (config.savedFilters.filter (·.enabled)).filterMap fun saved =>
    (Filter.compile? saved.expression).map fun filter => (saved.name, filter)

/-- The tree of the saved filters of a configuration. One that cannot be added is passed over. -/
def FilterTree.ofSavedFilters (config : Config) (registry : Registry) : FilterTree :=
  let generator := Generator.ofConfig config registry
  config.usableFilters.foldl
    (fun tree (name, filter) =>
      ((generator.addNamed FilterTree.rootId name filter).apply tree).2) .empty

end EventSieve
