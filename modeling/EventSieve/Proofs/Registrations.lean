import EventSieve.Proofs.GeneratedShapes
import EventSieve.Proofs.Placement
import Mathlib.Data.List.Induction

/-!
# Registrations of aspects

A registry is an ordered map. An aspect that is registered takes the place of the one with its name,
or stands at the end. So names differ and stand in the order in which they were registered first,
and a name leads to the aspect that was registered last under it. A comparison of any field has one
leaf for each name, in that order.

## Main definitions

* `Registry.registerAll` — a registry after some registrations
* `Registry.lastNamed?` — the last of some aspects with a name
* `Registry.IsMapOf` — a registry as the ordered map of some registrations
* `Generator.Spreads` — comparisons of any field have a leaf for each of some names

## Main statements

* `Registry.find?_register`, `Registry.names_register` — what one registration changes
* `Registry.isMapOf_registerAll` — registrations make an ordered map
* `Generator.spreads` — comparisons of any field have a leaf for each name of a registry
* `Registry.ordered_registerAll` — both, for registries that a caller can make
-/
namespace EventSieve

open EventSieve.Tree (Node NodeKind NodeId Branch MatchesLeaf)

namespace Registry

/-- The names of the aspects of a registry. -/
def names (registry : Registry) : List String :=
  registry.aspects.map Aspect.name

/-- A registry after some registrations. -/
def registerAll (registry : Registry) (registrations : List Aspect) : Registry :=
  registrations.foldl register registry

/-- The last of some aspects with a name. -/
def lastNamed? (name : String) (aspects : List Aspect) : Option Aspect :=
  aspects.reverse.find? (·.name == name)

/-- A registry is the ordered map of some registrations: names are different and stand in the order
of their first registration, and each leads to its last one. Any other name leads to fields. -/
structure IsMapOf (registry : Registry) (registrations : List Aspect) : Prop where
  distinct : registry.names.Nodup
  ordered : registry.names = (registrations.map Aspect.name).eraseDups
  find? : ∀ name, registry.find? name = lastNamed? name registrations
  resolve : ∀ name,
    registry.resolveOrField name = (lastNamed? name registrations).getD (.field name)

variable {aspect other : Aspect} {registry : Registry}

/-! ## One registration -/

theorem same_iff : other.same aspect = true ↔ other.name = aspect.name := by
  rw [Aspect.same, beq_iff_eq]

theorem find?_cons_name (aspect : Aspect) (aspects : List Aspect) (name : String) :
    (aspect :: aspects).find? (·.name == name) =
      if aspect.name = name then some aspect else aspects.find? (·.name == name) := by
  by_cases here : aspect.name = name
  · simp [here]
  · simp [here, beq_eq_false_iff_ne.mpr here]

/-- The aspect that is registered is found under its name, and every other one as before. -/
theorem find?_register (registry : Registry) (aspect : Aspect) (name : String) :
    (registry.register aspect).find? name =
      if aspect.name = name then some aspect else registry.find? name := by
  obtain ⟨aspects⟩ := registry
  simp only [register, find?]
  induction aspects with
  | nil => exact find?_cons_name aspect [] name
  | cons other rest ih =>
    by_cases replaced : other.name = aspect.name
    · by_cases here : aspect.name = name <;>
        simp [put, same_iff, replaced, here]
    · by_cases here : aspect.name = name
      · have differ : other.name ≠ name := here ▸ replaced
        simp [put, same_iff, here, ih, differ]
      · simp [put, same_iff, find?_cons_name, replaced, here, ih]

/-- A name that is there already keeps its place, and a new one stands at the end. -/
theorem names_register (registry : Registry) (aspect : Aspect) :
    (registry.register aspect).names =
      if aspect.name ∈ registry.names then registry.names else registry.names ++ [aspect.name] := by
  obtain ⟨aspects⟩ := registry
  simp only [register, names]
  induction aspects with
  | nil => simp [put]
  | cons other rest ih =>
    by_cases replaced : other.name = aspect.name
    · simp [put, same_iff, replaced]
    · by_cases later : aspect.name ∈ rest.map Aspect.name
      · simp [put, same_iff, replaced, ih, later]
      · simp [put, same_iff, replaced, ih, later, Ne.symm replaced]

/-! ## All registrations -/

theorem registerAll_concat (registry : Registry) (registrations : List Aspect) (aspect : Aspect) :
    registry.registerAll (registrations ++ [aspect]) =
      (registry.registerAll registrations).register aspect := by
  rw [registerAll, List.foldl_concat, registerAll]

theorem lastNamed?_concat (name : String) (registrations : List Aspect) (aspect : Aspect) :
    lastNamed? name (registrations ++ [aspect]) =
      if aspect.name = name then some aspect else lastNamed? name registrations := by
  rw [lastNamed?, List.reverse_concat, find?_cons_name, lastNamed?]

theorem eraseDups_concat (items : List String) (item : String) :
    (items ++ [item]).eraseDups =
      if item ∈ items then items.eraseDups else items.eraseDups ++ [item] := by
  rw [List.eraseDups_append]
  by_cases known : item ∈ items <;> simp [List.removeAll, List.eraseDups_cons, known]

/-- One more registration on both sides. -/
theorem IsMapOf.register {registrations : List Aspect} (h : registry.IsMapOf registrations)
    (aspect : Aspect) : (registry.register aspect).IsMapOf (registrations ++ [aspect]) := by
  have found (name : String) : (registry.register aspect).find? name =
      lastNamed? name (registrations ++ [aspect]) := by
    rw [find?_register, lastNamed?_concat, h.find?]
  refine ⟨?_, ?_, found, fun name => by rw [resolveOrField, found]⟩
  · rw [names_register]
    by_cases known : aspect.name ∈ registry.names
    · rw [if_pos known]
      exact h.distinct
    · rw [if_neg known]
      exact h.distinct.append (List.nodup_singleton _) (by simpa using known)
  · rw [names_register, List.map_append, List.map_singleton, eraseDups_concat, h.ordered]
    simp only [List.mem_eraseDups]

/-- Registrations make an ordered map. -/
theorem isMapOf_registerAll (registrations : List Aspect) :
    (registerAll {} registrations).IsMapOf registrations := by
  induction registrations using List.reverseRecOn with
  | nil => exact ⟨List.nodup_nil, rfl, fun _ => rfl, fun _ => rfl⟩
  | append_singleton registrations aspect ih =>
    rw [registerAll_concat]
    exact ih.register aspect

/-- The aspects that every event has are registered one after the other. -/
theorem registerAll_builtin : registerAll {} Aspect.builtin = builtin := rfl

end Registry

/-! ## Comparisons of any field -/

namespace Generator

/-- A branch that stands for a comparison of any field: an `or` with one leaf for each of some
names, in their order, which looks at the aspect that the name leads to. -/
structure StandsForAny (generator : Generator) (comparison : Comparison) (names : List String)
    (branch : Branch) : Prop where
  isOr : branch.node = .or
  leaves : List.Forall₂ (fun leaf name => ∃ aspect, generator.registry.find? name = some aspect ∧
    leaf.node = generator.anywhereLeaf comparison aspect ∧ leaf.negated = false ∧
    leaf.children = []) branch.children names

/-- Filters become branches of their shapes, in which every comparison of any field stands as an
`or` with one leaf for each of some names. -/
structure Spreads (generator : Generator) (names : List String) : Prop where
  tree : ∀ filter, (generator.tree filter).top.unnamed = (generator.treeShape filter).unnamed
  placed : ∀ (mayBecome : NodeKind → NodeKind → Prop) (tree : FilterTree) (parent : NodeId) filter,
    tree.Reachable mayBecome → tree.isLive parent = true → ¬tree.IsFull parent →
      (generator.addFilter parent filter).Copies tree parent (generator.filterShape filter)
  anywhere : ∀ comparison negated, comparison.isAnywhere = true →
    generator.StandsForAny comparison names (generator.comparisonShape comparison negated)

variable {generator : Generator}

/-- The branch of a comparison of any field has a leaf for every name of the registry. -/
theorem standsForAny (distinct : generator.registry.names.Nodup) {comparison : Comparison}
    (anywhere : comparison.isAnywhere = true) (negated : Bool) :
    generator.StandsForAny comparison generator.registry.names
      (generator.comparisonShape comparison negated) := by
  rw [comparisonShape, if_pos anywhere]
  refine ⟨rfl, ?_⟩
  rw [Branch.children, Registry.names, List.forall₂_map_left_iff, List.forall₂_map_right_iff,
    List.forall₂_same]
  intro aspect mem
  exact ⟨aspect, (find?_key_eq_some_iff distinct).mpr ⟨mem, rfl⟩, rfl, rfl, rfl⟩

/-- Comparisons of any field have a leaf for each name of a registry with different names. -/
theorem spreads (distinct : generator.registry.names.Nodup) :
    generator.Spreads generator.registry.names where
  tree := generator.unnamed_tree
  placed mayBecome tree parent filter reached live room := by
    obtain ⟨old, found⟩ := FilterTree.exists_branch?_of_isLive live
    rw [FilterTree.isFull_iff found, not_not] at room
    exact generator.addFilter_copies filter reached.wellFormed found room
  anywhere _ negated anywhere := standsForAny distinct anywhere negated

end Generator

/-- Whatever is registered from the empty registry or from the aspects that every event has, it makes
an ordered map, and comparisons of any field have a leaf for each of its names, in their order. -/
theorem Registry.ordered_registerAll {start : Registry} (isStart : start = {} ∨ start = builtin)
    (registrations : List Aspect) :
    let registry := start.registerAll registrations
    registry.IsMapOf (start.aspects ++ registrations) ∧
      ∀ generator : Generator, generator.registry = registry →
        generator.Spreads registry.names := by
  have isMap : (start.registerAll registrations).IsMapOf (start.aspects ++ registrations) := by
    rcases isStart with rfl | rfl
    · exact isMapOf_registerAll registrations
    · rw [← registerAll_builtin, registerAll, registerAll, ← List.foldl_append]
      exact isMapOf_registerAll (Aspect.builtin ++ registrations)
  refine ⟨isMap, fun generator same => ?_⟩
  rw [← same] at isMap ⊢
  exact Generator.spreads isMap.distinct

/-- A field takes the place of an aspect that every event has, and is replaced in its own place. -/
theorem Registry.ordered_registerAll_replaced :
    let process := Aspect.custom "pid" (fun event => some (.string event.contents)) fun _ => []
    let registrations := [.field "pid", .field contentsName, process]
    let registry := builtin.registerAll registrations
    let generator : Generator := { registry := registry }
    registry.IsMapOf (builtin.aspects ++ registrations) ∧
      registry.names =
        [timestampName, eventTypeName, contentsName, traceTypeName, payloadName, "pid"] ∧
      registry.find? "pid" = some process ∧ registry.find? contentsName = some (.field contentsName) ∧
      registry.resolveOrField "tid" = .field "tid" ∧
      generator.Spreads registry.names := by
  intro process registrations registry generator
  obtain ⟨isMap, spread⟩ := ordered_registerAll (.inr rfl) registrations
  exact ⟨isMap, rfl, rfl, rfl, rfl, spread generator rfl⟩

end EventSieve
