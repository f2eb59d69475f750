import EventSieve.Proofs.Anything
import EventSieve.Proofs.Generation
import EventSieve.Proofs.Headers
import EventSieve.Tree.Assemble

/-!
# Predicates and trees agree

An event is tested as a record by a predicate, or through its aspects by a tree. Both come to the
same outcome for a filter, as long as every comparison finds the same values on either way.

## Main definitions

* `Event.SameValues` — a field with the same values in the record and among the aspects
* `Comparison.ReadsAlike` — a comparison that finds the same values on either way

## Main statements

* `Event.valuesFor_toRecord` — the record and the aspects have the same values for such a field
* `Generator.test_eq` — a comparison has the same outcome on either way
* `Config.acceptsEvent_eq_accepts_tree` — the predicate and the tree of a filter agree
-/
namespace EventSieve

open EventSieve.Tree (MatchesLeaf CompareLeaf)

/-! ## Values -/

/-- A comparison of any field looks at all entries. -/
theorem Record.valuesFor_anyField (record : Record) (aliasMark : String) :
    record.valuesFor anyField aliasMark = record.entries.map Prod.snd := by
  have all : record.entries.filter (concerns aliasMark anyField ·.1) = record.entries :=
    List.filter_eq_self.mpr fun entry _ => by rw [concerns, beq_self_eq_true]; rfl
  rw [valuesFor, all]

namespace Event

/-- A field that no derived entry stands for and, if it names a part of the header, no entry of
the event hides. -/
structure SameValues (event : Event) (aliasMark field : String) : Prop where
  notAny : field ≠ anyField
  notPayload : field ≠ payloadName
  notDerived : aliasMark ≠ "" → ∀ entry ∈ event.toRecord.entries, entry.1 ≠ aliasMark ++ field
  notHidden : field ∈ [timestampName, eventTypeName, traceTypeName, contentsName] →
    ∀ entry ∈ event.fields, entry.1 ≠ field

variable {event : Event} {aliasMark field : String}

/-- A comparison of such a field looks at the entries with its name only. -/
theorem SameValues.concerns_eq (h : event.SameValues aliasMark field) {entry : Entry}
    (mem : entry ∈ event.toRecord.entries) :
    Record.concerns aliasMark field entry.1 = (entry.1 == field) := by
  have notAny : (field == anyField) = false := beq_eq_false_iff_ne.mpr h.notAny
  have notDerived : (!aliasMark.isEmpty && entry.1 == aliasMark ++ field) = false := by
    by_cases empty : aliasMark = ""
    · rw [empty]
      rfl
    · rw [beq_eq_false_iff_ne.mpr (h.notDerived empty entry mem), Bool.and_false]
  rw [Record.concerns, notAny, notDerived, Bool.false_or, Bool.or_false]

theorem SameValues.valuesFor_eq (h : event.SameValues aliasMark field) :
    event.toRecord.valuesFor field aliasMark =
      (event.toRecord.entries.filter (·.1 == field)).map Prod.snd := by
  rw [Record.valuesFor, List.filter_congr fun entry mem => h.concerns_eq mem]

/-- An entry of the header is the only value of its name if no field has that name. -/
theorem SameValues.fieldsNamed_eq_nil (h : event.SameValues aliasMark field)
    (header : field ∈ [timestampName, eventTypeName, traceTypeName, contentsName]) :
    event.fieldsNamed field = [] := by
  rw [fieldsNamed, List.map_eq_nil_iff, List.filter_eq_nil_iff]
  intro entry mem
  rw [beq_iff_eq]
  exact h.notHidden header entry mem

/-- Only fields have a name that is none of the header. -/
theorem map_filter_toRecord (event : Event)
    (notHeader : field ∉ [timestampName, eventTypeName, traceTypeName, contentsName]) :
    (event.toRecord.entries.filter (·.1 == field)).map Prod.snd = event.fieldsNamed field := by
  have unwanted : ∀ name ∈ [timestampName, eventTypeName, traceTypeName, contentsName],
      (name == field) = false := by
    intro name header
    rw [beq_eq_false_iff_ne]
    rintro rfl
    exact notHeader header
  rw [event.filter_toRecord unwanted, fieldsNamed]

/-- The record of an event has the values of its aspects. -/
theorem valuesFor_toRecord (h : event.SameValues aliasMark field) :
    event.toRecord.valuesFor field aliasMark =
      (Registry.builtin.resolveOrField field).resolveAll event := by
  rw [h.valuesFor_eq]
  by_cases header : field ∈ [timestampName, eventTypeName, traceTypeName, contentsName]
  · have none : (event.fields.filter (·.1 == field)).map Prod.snd = [] :=
      h.fieldsNamed_eq_nil header
    simp only [List.mem_cons, List.not_mem_nil, or_false] at header
    rcases header with rfl | rfl | rfl | rfl
    · exact congrArg (Value.timestamp event.timestamp :: ·) none
    · exact congrArg (Value.string event.eventType :: ·) none
    · exact congrArg (Value.string event.traceType :: ·) none
    · exact congrArg (Value.string event.contents :: ·) none
  · have unknown : Registry.builtin.find? field = none := by
      rw [Registry.find?, List.find?_eq_none]
      intro aspect mem
      simp only [List.mem_cons, List.not_mem_nil, or_false, not_or] at header
      obtain ⟨notTimestamp, notEventType, notTraceType, notContents⟩ := header
      simp only [Registry.builtin, Aspect.builtin, List.mem_cons, List.not_mem_nil, or_false] at mem
      rw [beq_iff_eq]
      rcases mem with rfl | rfl | rfl | rfl | rfl
      · exact Ne.symm notTimestamp
      · exact Ne.symm notEventType
      · exact Ne.symm notContents
      · exact Ne.symm notTraceType
      · exact Ne.symm h.notPayload
    rw [Registry.resolveOrField, unknown]
    exact map_filter_toRecord event header

/-- The record of an event has all values of its aspects, in another order. -/
theorem any_valuesFor_anyField (event : Event) (aliasMark : String) (test : Value → Bool) :
    (event.toRecord.valuesFor anyField aliasMark).any test =
      Registry.builtin.aspects.any fun aspect => (aspect.resolveAll event).any test := by
  rw [Record.valuesFor_anyField, toRecord]
  simp only [Registry.builtin, Aspect.builtin, Aspect.resolveAll, Aspect.resolve?,
    Option.toList_some, List.map_cons, List.any_cons, List.any_nil, Bool.or_false]
  rw [Bool.or_left_comm (test (.string event.traceType))]

end Event

/-! ## Comparisons -/

/-- A comparison that finds the same values in the record of an event and among its aspects:
a match or a presence test of any field, or a comparison of a field with the same values. -/
def Comparison.ReadsAlike (comparison : Comparison) (aliasMark : String) (event : Event) : Prop :=
  (comparison.field = anyField ∧
    (comparison.operator = .matches ∨ comparison.operator = .present)) ∨
  event.SameValues aliasMark comparison.field

namespace Comparator

/-- The flag of a comparator counts once more for inequality. -/
theorem testAny_bind (operator : Operator) (raw : Option String) (coercion : Coercion)
    (ignoreCase negated : Bool) (values : List Value) :
    (bind operator raw coercion ignoreCase negated).testAny values =
      (values.any (bind operator raw coercion ignoreCase false).accepts ^^
        (negated ^^ Generator.isInverse operator)) := by
  cases operator with
  | notEquals =>
    show (_ ^^ !negated) = (_ ^^ (negated ^^ true))
    rw [Bool.xor_true]
    rfl
  | _ =>
    show (_ ^^ negated) = (_ ^^ (negated ^^ false))
    rw [Bool.xor_false]
    rfl

end Comparator

namespace Generator

variable (generator : Generator) (event : Event)

/-- A leaf accepts an event if a comparator accepts some value of its aspect. -/
theorem leafAccepts_leaf (aspect : Aspect) (operator : Operator) (raw : Option String) :
    (generator.leaf aspect operator (raw.getD "")).leafAccepts event =
      (aspect.resolveAll event).any
        (Comparator.bind operator raw generator.coercion generator.ignoreCase false).accepts := by
  cases operator with
  | equals => exact List.any_congr rfl fun value => rfl
  | notEquals => exact List.any_congr rfl fun value => rfl
  | «matches» => exact List.any_congr rfl fun value => rfl
  | contains =>
    refine List.any_congr rfl fun value => ?_
    show containsText value (raw.getD "") generator.ignoreCase =
      containsText value (generator.coercion.preparePlain (raw.getD "")).text generator.ignoreCase
    rw [Coercion.text_preparePlain]
  | present => exact List.any_congr rfl fun value => matchesPattern_anything _ value
  | greaterThan => exact List.any_congr rfl fun value => rfl
  | lessThan => exact List.any_congr rfl fun value => rfl

/-- The leaf of an aspect in a comparison of any field accepts an event if a comparator accepts some
value of the aspect. -/
theorem accepts_anywherePattern {comparison : Comparison} (aspect : Aspect)
    (h : comparison.operator = .matches ∨ comparison.operator = .present) :
    (MatchesLeaf.make aspect (anywherePattern comparison) generator.coercion).accepts event =
      (aspect.resolveAll event).any (Comparator.bind comparison.operator comparison.value
        generator.coercion generator.ignoreCase false).accepts := by
  rw [← leafAccepts_leaf, anywherePattern]
  rcases h with h | h <;> rw [h] <;> rfl

/-- A comparison has the same outcome for an event and for its record. -/
theorem test_eq (config : Config) {comparison : Comparison}
    (h : comparison.ReadsAlike config.matching.derivedMark event) :
    Predicate.test config.coercion config.matching event.toRecord comparison =
      (ofConfig config .builtin).test event comparison := by
  rw [Predicate.test, FieldTest.accepts, FieldTest.ofComparison, Comparator.testAny_bind]
  rcases h with ⟨anywhere, operator⟩ | same
  · have anywhere' : comparison.isAnywhere = true := beq_iff_eq.mpr anywhere
    rw [test_anywhere _ _ anywhere', anywhere, Event.any_valuesFor_anyField]
    simp only [accepts_anywherePattern _ _ _ operator]
    rfl
  · have named : ¬comparison.isAnywhere = true := fun anywhere =>
      same.notAny (beq_iff_eq.mp anywhere)
    rw [test_named _ _ named, leafAccepts_leaf, Event.valuesFor_toRecord same]
    rfl

end Generator

/-- The predicate and the tree of a filter agree on an event for which every comparison finds the
same values on either way. -/
theorem Config.acceptsEvent_eq_accepts_tree (config : Config) (filter : Filter) (event : Event)
    (h : ∀ comparison ∈ filter.comparisons,
      comparison.ReadsAlike config.matching.derivedMark event) :
    (Predicate.ofFilter config.coercion config.matching filter).acceptsEvent event =
      ((Generator.ofConfig config .builtin).tree filter).accepts event := by
  rw [Predicate.acceptsEvent, Predicate.accepts_ofFilter, Generator.accepts_tree]
  exact Filter.outcome_congr fun comparison mem =>
    Generator.test_eq event config (h comparison mem)

/-- A presence test of any field and an inequality of a payload field, for an event with that
field. -/
theorem Config.acceptsEvent_eq_accepts_tree_switch :
    let config : Config := {}
    let filter : Filter := {
      clauses := [
        { left := { field := "*", operator := .present, value := none }
          connective := some .and
          right := some { field := "prio", operator := .notEquals, value := some "0x7" } }],
      negated := true }
    let event : Event := {
      traceType := "kernel", eventType := "switch", timestamp := 5
      fields := [("prio", .integer 8)] }
    (∀ comparison ∈ filter.comparisons,
      comparison.ReadsAlike config.matching.derivedMark event) ∧
    (Predicate.ofFilter config.coercion config.matching filter).acceptsEvent event =
      ((Generator.ofConfig config .builtin).tree filter).accepts event := by
  intro config filter event
  have h : ∀ comparison ∈ filter.comparisons,
      comparison.ReadsAlike config.matching.derivedMark event := by
    intro comparison mem
    have mem : comparison ∈ [
        ({ field := "*", operator := .present, value := none } : Comparison),
        { field := "prio", operator := .notEquals, value := some "0x7" }] := mem
    rw [List.mem_cons, List.mem_singleton] at mem
    rcases mem with rfl | rfl
    · exact .inl ⟨rfl, .inr rfl⟩
    · refine .inr ⟨by decide, by decide, fun _ => ?_, fun header => ?_⟩
      · decide
      · exact absurd header (by decide)
  exact ⟨h, config.acceptsEvent_eq_accepts_tree filter event h⟩

end EventSieve
