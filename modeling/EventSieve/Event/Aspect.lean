import EventSieve.Event.Basic

/-!
# Aspects

An aspect reads one thing off an event: a part of its header, its contents, or fields. A caller
can add aspects of its own. A registry lists the aspects of a kind of trace, each name once.

## Main definitions

* `Aspect` — the aspects, with their names
* `Aspect.resolve?`, `Aspect.resolveAll` — the first value and all values of an aspect
* `Registry` — aspects with different names, in the order in which they were registered first
-/
namespace EventSieve

/-- What can be read off an event. -/
inductive Aspect where
  | timestamp
  | eventType
  | contents
  | traceType
  /-- All fields, each by itself. -/
  | payload
  /-- The fields with a name. -/
  | field (name : String)
  /-- What a caller reads off an event, with its first value and all of them. -/
  | custom (name : String) (first? : Event → Option Value) (all : Event → List Value)

namespace Aspect

/-- The name of an aspect. -/
def name : Aspect → String
  | timestamp => timestampName
  | eventType => eventTypeName
  | contents => contentsName
  | traceType => traceTypeName
  | payload => payloadName
  | field name => name
  | custom name _ _ => name

/-- An aspect is shown by its name. -/
instance : Repr Aspect :=
  ⟨fun aspect _ => aspect.name⟩

/-- The first value of an aspect of an event. -/
def resolve? (aspect : Aspect) (event : Event) : Option Value :=
  match aspect with
  | timestamp => some (.timestamp event.timestamp)
  | eventType => some (.string event.eventType)
  | contents => some (.string event.contents)
  | traceType => some (.string event.traceType)
  | payload => event.fields.head?.map Prod.snd
  | field name => event.field? name
  | custom _ first? _ => first? event

/-- All values of an aspect of an event. -/
def resolveAll (aspect : Aspect) (event : Event) : List Value :=
  match aspect with
  | payload => event.fields.map Prod.snd
  | field name => event.fieldsNamed name
  | custom _ _ all => all event
  | aspect => (aspect.resolve? event).toList

/-- Whether two aspects have the same name. -/
def same (a b : Aspect) : Bool :=
  a.name == b.name

/-- The aspects that every event has. -/
def builtin : List Aspect :=
  [timestamp, eventType, contents, traceType, payload]

/-- The aspect with a name that every event has. -/
def builtin? (name : String) : Option Aspect :=
  builtin.find? (·.name == name)

end Aspect

/-- Aspects with different names, in the order in which they were registered first. -/
structure Registry where
  aspects : List Aspect := []
deriving Repr

namespace Registry

/-- The aspects that every event has. -/
def builtin : Registry :=
  ⟨Aspect.builtin⟩

/-- Aspects with one more, in the place of one with the same name if there is one. -/
def put (aspect : Aspect) : List Aspect → List Aspect
  | [] => [aspect]
  | other :: rest => if other.same aspect then aspect :: rest else other :: put aspect rest

/-- The registry with one more aspect. -/
def register (registry : Registry) (aspect : Aspect) : Registry :=
  ⟨put aspect registry.aspects⟩

/-- The registered aspect with a name. -/
def find? (registry : Registry) (name : String) : Option Aspect :=
  registry.aspects.find? (·.name == name)

/-- The registered aspect with a name, or that of the fields with this name. -/
def resolveOrField (registry : Registry) (name : String) : Aspect :=
  (registry.find? name).getD (.field name)

end Registry
end EventSieve
