import EventSieve.Coercion.Basic
import EventSieve.Record

/-!
# Trace events

A trace event has a header, which is the type of its trace, its own type and its timestamp, and
fields. As a record it has an entry for each part of the header, one for all fields as a text,
and one for each field.

## Main definitions

* `Event` — a trace event
* `Event.contents` — the fields as one text
* `Event.toRecord` — the event as a record
* `Event.ofJson` — the event of a JSON object
-/
namespace EventSieve

/-- A trace event. The timestamp counts nanoseconds from the start of 1970. -/
structure Event where
  traceType : String := ""
  eventType : String := ""
  timestamp : Int64 := 0
  fields : List Entry := []
deriving DecidableEq, Repr

/-- The keys of JSON objects that hold the header of an event. -/
structure HeaderKeys where
  eventType : String := "type"
  timestamp : String := "timestamp"
  traceType : String := "trace_type"
deriving DecidableEq, Repr

/-- The name of the timestamp of an event. -/
def timestampName : String := "Timestamp"

/-- The name of the type of an event. -/
def eventTypeName : String := "Event type"

/-- The name of the type of the trace of an event. -/
def traceTypeName : String := "Trace type"

/-- The name of all fields of an event as one text. -/
def contentsName : String := "Contents"

/-- The name of all fields of an event, each by itself. -/
def payloadName : String := "Fields"

namespace Event

/-- The first value of a field. -/
def field? (event : Event) (name : String) : Option Value :=
  event.fields.lookup name

/-- All values of a field. -/
def fieldsNamed (event : Event) (name : String) : List Value :=
  (event.fields.filter fun field => field.1 == name).map Prod.snd

/-- The fields as one text. -/
def contents (event : Event) : String :=
  ", ".intercalate (event.fields.map fun (name, value) => name ++ "=" ++ value.text)

/-- The event as a record: the header, the contents, and the fields. -/
def toRecord (event : Event) : Record :=
  ⟨(timestampName, .timestamp event.timestamp) :: (eventTypeName, .string event.eventType) ::
    (traceTypeName, .string event.traceType) :: (contentsName, .string event.contents) ::
    event.fields⟩

/-- An event whose header also takes what an entry says, if a key of the header names it. -/
def readHeader (keys : HeaderKeys) (event : Event) (entry : Entry) : Event :=
  let (name, value) := entry
  if name = keys.traceType then { event with traceType := value.text }
  else if name = keys.eventType then { event with eventType := value.text }
  else if name = keys.timestamp then { event with timestamp := value.instant?.getD 0 }
  else event

/-- The event of some entries. They all are fields, also those that the header takes. -/
def ofEntries (keys : HeaderKeys) (entries : List Entry) : Event :=
  { entries.foldl (readHeader keys) {} with fields := entries }

/-- The event of a JSON object. -/
def ofJson (keys : HeaderKeys) (value : Json) : Event :=
  ofEntries keys (Record.ofJson value).entries

end Event
end EventSieve
