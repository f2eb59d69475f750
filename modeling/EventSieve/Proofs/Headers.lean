import EventSieve.Proofs.Outcome

/-!
# Headers in records

The record of an event has entries for its header before those of its fields. A comparison that
looks at none of them sees the fields alone. So it makes no difference for it whether a JSON object
is read as an event or as a plain record, whatever keys the header is read from.

## Main definitions

* `Event.headerEntries` — what the record of an event has before the fields
* `Comparison.PassesHeader` — comparisons that look at no entry of the header

## Main statements

* `Event.filter_toRecord` — only fields are found under a name that the header does not have
* `Event.valuesFor_toRecord_of_passes` — such a comparison looks at the values of the fields
* `Predicate.acceptsEvent_eq_accepts_fields` — a filter of such comparisons tests the fields
* `Predicate.acceptsEvent_ofJson` — it has the same outcome for an object on either way
-/
namespace EventSieve

/-- The entries of the header and of the contents, which stand before the fields. -/
def Event.headerEntries (event : Event) : List Entry :=
  [(timestampName, .timestamp event.timestamp), (eventTypeName, .string event.eventType),
    (traceTypeName, .string event.traceType), (contentsName, .string event.contents)]

theorem Event.entries_toRecord (event : Event) :
    event.toRecord.entries = event.headerEntries ++ event.fields := rfl

theorem Event.names_headerEntries (event : Event) :
    event.headerEntries.map Prod.fst =
      [timestampName, eventTypeName, traceTypeName, contentsName] := rfl

/-- Only fields have names that are wanted, if none of the header is. -/
theorem Event.filter_toRecord (event : Event) {wanted : String → Bool}
    (unwanted : ∀ name ∈ [timestampName, eventTypeName, traceTypeName, contentsName],
      wanted name = false) :
    event.toRecord.entries.filter (wanted ·.1) = event.fields.filter (wanted ·.1) := by
  have header : event.headerEntries.filter (wanted ·.1) = [] := by
    rw [List.filter_eq_nil_iff]
    intro entry mem
    have name := List.mem_map_of_mem (f := Prod.fst) mem
    rw [event.names_headerEntries] at name
    rw [unwanted entry.1 name]
    exact Bool.false_ne_true
  rw [event.entries_toRecord, List.filter_append, header, List.nil_append]

/-- A comparison of one field that is no name in the header, and that the mark of derived entries
makes none either. -/
structure Comparison.PassesHeader (comparison : Comparison) (aliasMark : String) : Prop where
  notAny : comparison.field ≠ anyField
  notHeader : comparison.field ∉ [timestampName, eventTypeName, traceTypeName, contentsName]
  notDerived : aliasMark ≠ "" →
    aliasMark ++ comparison.field ∉ [timestampName, eventTypeName, traceTypeName, contentsName]

instance (comparison : Comparison) (aliasMark : String) :
    Decidable (comparison.PassesHeader aliasMark) :=
  decidable_of_iff (comparison.field ≠ anyField ∧
      comparison.field ∉ [timestampName, eventTypeName, traceTypeName, contentsName] ∧
      (aliasMark ≠ "" → aliasMark ++ comparison.field ∉
        [timestampName, eventTypeName, traceTypeName, contentsName]))
    ⟨fun ⟨h1, h2, h3⟩ => ⟨h1, h2, h3⟩, fun ⟨h1, h2, h3⟩ => ⟨h1, h2, h3⟩⟩

section

variable {comparison : Comparison} {aliasMark : String}

/-- A comparison looks at entries with the name of its field and at those with its alias. -/
theorem Record.concerns_eq_true_iff {field name : String} :
    concerns aliasMark field name = true ↔
      field = anyField ∨ name = field ∨ aliasMark ≠ "" ∧ name = aliasMark ++ field := by
  simp [concerns, or_assoc]

theorem Comparison.PassesHeader.concerns_eq_false (h : comparison.PassesHeader aliasMark)
    {name : String} (header : name ∈ [timestampName, eventTypeName, traceTypeName, contentsName]) :
    Record.concerns aliasMark comparison.field name = false := by
  rw [Bool.eq_false_iff, Ne, Record.concerns_eq_true_iff]
  rintro (any | rfl | ⟨marked, rfl⟩)
  · exact h.notAny any
  · exact h.notHeader header
  · exact h.notDerived marked header

/-- What looks at no entry of the header looks at the values of the fields. -/
theorem Event.valuesFor_toRecord_of_passes (h : comparison.PassesHeader aliasMark)
    (event : Event) :
    event.toRecord.valuesFor comparison.field aliasMark =
      Record.valuesFor ⟨event.fields⟩ comparison.field aliasMark := by
  rw [Record.valuesFor, event.filter_toRecord fun name header => h.concerns_eq_false header]
  rfl

end

namespace Predicate

variable {filter : Filter} {rules : MatchRules}

/-- A filter whose comparisons look at no entry of the header tests the fields of an event. -/
theorem acceptsEvent_eq_accepts_fields
    (passes : ∀ comparison ∈ filter.comparisons, comparison.PassesHeader rules.derivedMark)
    (coercion : Coercion) (event : Event) :
    (ofFilter coercion rules filter).acceptsEvent event =
      (ofFilter coercion rules filter).accepts ⟨event.fields⟩ := by
  rw [acceptsEvent, accepts_ofFilter, accepts_ofFilter]
  refine Filter.outcome_congr ?_
  intro comparison mem
  have values := event.valuesFor_toRecord_of_passes (passes comparison mem)
  exact congrArg (FieldTest.ofComparison coercion rules comparison).comparator.testAny values

/-- A filter whose comparisons look at no entry of the header has the same outcome for a JSON object
as an event, whatever its header is read from, and as a plain record. -/
theorem acceptsEvent_ofJson
    (passes : ∀ comparison ∈ filter.comparisons, comparison.PassesHeader rules.derivedMark)
    (coercion : Coercion) (keys : HeaderKeys) (value : Json) :
    (ofFilter coercion rules filter).acceptsEvent (Event.ofJson keys value) =
      (ofFilter coercion rules filter).accepts (Record.ofJson value) :=
  acceptsEvent_eq_accepts_fields passes coercion (Event.ofJson keys value)

/-- The key that the header is read from stays a field, which is compared alike. -/
theorem acceptsEvent_ofJson_type :
    let filter : Filter :=
      { clauses := [{ left := { field := "type", operator := .equals, value := some "foo" } }] }
    let value : Json := .object [("pid", .integer 5), ("type", .string "foo")]
    (∀ comparison ∈ filter.comparisons, comparison.PassesHeader defaultAlias) ∧
      (ofFilter {} {} filter).acceptsEvent (Event.ofJson {} value) = true := by
  intro filter value
  have passes : ∀ comparison ∈ filter.comparisons, comparison.PassesHeader defaultAlias := by
    decide +kernel
  refine ⟨passes, ?_⟩
  rw [acceptsEvent_ofJson passes {} {} value]
  decide +kernel

/-- With another mark the type of the event stands for a derived entry, which a record lacks. -/
example :
    let predicate := ofFilter {} { derivedMark := "Event " }
      { clauses := [{ left := { field := "type", operator := .present, value := none } }] }
    predicate.acceptsEvent (Event.ofJson {} (.object [])) = true ∧
      predicate.accepts (Record.ofJson (.object [])) = false := by
  decide +kernel

end Predicate
end EventSieve
