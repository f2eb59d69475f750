import EventSieve.Command.Run
import EventSieve.Proofs.DefaultTemplates
import EventSieve.Proofs.Flattening

/-!
# Instants in headers

A filter value and the text of a field are read by the rules of the configuration. The timestamp in
the header of an event is read by the default rules, and is the start of 1970 where these read
nothing. Texts in the form of RFC 3339 are the same instant by all rules. With other texts it
depends on the templates whether the two agree.

## Main statements

* `Coercion.instant?_of_rfc3339` — a text in the form of RFC 3339 is the same instant by all rules
* `Coercion.instant?_of_prefix` — more templates at the end only read more texts
* `Event.timestamp_ofJson` — the timestamp of an event is that of the last entry under its key
* `Command.RecordLine.timestamp_event_eq_iff` — when it is the instant that the configuration names
-/
namespace EventSieve

/-! ## Rules that read alike -/

namespace Coercion

variable {a b : Coercion} {raw : String}

/-- The templates only count for a text that is not in the form of RFC 3339. -/
theorem instant?_of_rfc3339 (written : Instant.readTimestamp? raw ≠ none) :
    a.instant? raw = b.instant? raw := by
  cases read : Instant.readTimestamp? raw with
  | none => exact absurd read written
  | some nanos =>
    rw [instant?, instant?, read]
    rfl

/-- The separators do not count. -/
theorem instant?_of_formats (formats : a.timestampFormats = b.timestampFormats) :
    a.instant? raw = b.instant? raw := by
  rw [instant?, instant?, formats]

/-- What the first templates name an instant is the same instant with others behind them. -/
theorem instant?_of_prefix (first : a.timestampFormats <+: b.timestampFormats) {t : Int64}
    (read : a.instant? raw = some t) : b.instant? raw = some t := by
  obtain ⟨more, formats⟩ := first
  rw [instant?] at read ⊢
  rw [← formats, List.findSome?_append]
  cases form : Instant.readTimestamp? raw with
  | some nanos =>
    rw [form] at read
    exact read
  | none =>
    rw [form] at read
    cases taken : a.timestampFormats.findSome? (byTemplate? raw) with
    | none =>
      rw [taken] at read
      cases read
    | some nanos =>
      rw [taken] at read
      exact read

end Coercion

/-! ## The timestamp of an event -/

namespace Event

variable {keys : HeaderKeys}

theorem timestamp_readHeader (notTrace : keys.timestamp ≠ keys.traceType)
    (notType : keys.timestamp ≠ keys.eventType) (event : Event) (entry : Entry) :
    (readHeader keys event entry).timestamp =
      if entry.1 = keys.timestamp then entry.2.instant?.getD 0 else event.timestamp := by
  rw [readHeader]
  by_cases same : entry.1 = keys.timestamp
  · have other : entry.1 ≠ keys.traceType := same ▸ notTrace
    have another : entry.1 ≠ keys.eventType := same ▸ notType
    rw [if_neg other, if_neg another, if_pos same, if_pos same]
  · rw [if_neg same, if_neg same]
    split_ifs <;> rfl

/-- The timestamp of an event is the instant of the last entry under its key by the default rules,
or the start of 1970. -/
theorem timestamp_ofJson (notTrace : keys.timestamp ≠ keys.traceType)
    (notType : keys.timestamp ≠ keys.eventType) (value : Json) :
    (ofJson keys value).timestamp =
      (((Record.ofJson value).last? keys.timestamp).bind Value.instant?).getD 0 := by
  have folded := @foldl_readHeader keys Int64 Event.timestamp keys.timestamp
    (fun value => value.instant?.getD 0) (timestamp_readHeader notTrace notType)
  refine (folded (Record.ofJson value).entries {}).trans ?_
  rw [Record.last?]
  cases (Record.ofJson value).entries.reverse.lookup keys.timestamp <;> rfl

end Event

namespace Command.RecordLine

section
variable {config : Config} {record : RecordLine} {text : String} {t : Int64}
  (distinct : [config.records.traceType, config.records.eventType, config.records.timestamp].Nodup)
  (last : (Record.ofJson record.value).last? config.records.timestamp = some (.string text))

include distinct last

/-- The configuration tells where the timestamp is, but not how it is read. -/
theorem timestamp_event :
    (event config record).timestamp = (({} : Coercion).instant? text).getD 0 := by
  have notTrace : config.records.timestamp ≠ config.records.traceType := by
    intro same
    simp [same] at distinct
  have notType : config.records.timestamp ≠ config.records.eventType := by
    intro same
    simp [same] at distinct
  rw [event, Event.timestamp_ofJson notTrace notType, last]
  rfl

/-- The timestamp of the event that a record is filtered as, where the last entry under its key is a
text that the rules of the configuration read as an instant. It is this instant if and only if the
default rules read it, too, or they read nothing and it is the start of 1970. It is for texts in the
form of RFC 3339 and with the default templates. With templates behind these it is the start of 1970
or this instant. -/
theorem timestamp_event_eq_iff (read : config.coercion.instantOf? (.string text) = some t) :
    ((event config record).timestamp = t ↔ ({} : Coercion).instant? text = some t ∨
      t = 0 ∧ ({} : Coercion).instant? text = none) ∧
    (Instant.readTimestamp? text ≠ none ∨
        config.coercion.timestampFormats = ({} : Coercion).timestampFormats →
      (event config record).timestamp = t) ∧
    (({} : Coercion).timestampFormats <+: config.coercion.timestampFormats →
      (event config record).timestamp = t ∨ (event config record).timestamp = 0) := by
  have configured : config.coercion.instant? text = some t := read
  rw [timestamp_event distinct last]
  refine ⟨?_, ?_, ?_⟩
  · cases ({} : Coercion).instant? text with
    | none => simp [eq_comm]
    | some own => simp
  · intro alike
    have same : ({} : Coercion).instant? text = config.coercion.instant? text := by
      cases alike with
      | inl written => exact Coercion.instant?_of_rfc3339 written
      | inr formats => exact Coercion.instant?_of_formats formats.symm
    rw [same, configured]
    rfl
  · intro first
    cases default : ({} : Coercion).instant? text with
    | none => exact .inr rfl
    | some own =>
      have same := Coercion.instant?_of_prefix first default
      rw [configured] at same
      exact .inl (Option.some.inj same).symm

end

/-- A text in the form of RFC 3339, for which the only template does not count. -/
theorem timestamp_event_eq_iff_rfc3339 :
    let config : Config := { coercion := { timestampFormats := ["%d/%m/%Y"] } }
    let record : RecordLine := ⟨1, "", .object [("timestamp", .string "1970-01-02T00:00:00Z")]⟩
    config.coercion.instantOf? (.string "1970-01-02T00:00:00Z") = some 86400000000000 ∧
      (event config record).timestamp = 86400000000000 := by
  intro config record
  have read : config.coercion.instantOf? (.string "1970-01-02T00:00:00Z") =
      some 86400000000000 := by
    decide +kernel
  have last : (Record.ofJson record.value).last? config.records.timestamp =
      some (.string "1970-01-02T00:00:00Z") := by
    decide +kernel
  have written : Instant.readTimestamp? "1970-01-02T00:00:00Z" ≠ none := by decide +kernel
  exact ⟨read, (timestamp_event_eq_iff (by decide) last read).2.1 (.inl written)⟩

/-- By the template of the configuration both texts are the second day of 1970. No default template
takes the first one, and a default template takes the month of the other one for the day. -/
theorem timestamp_event_ne :
    let days : Config := { coercion := { timestampFormats := ["%d/%m/%Y"] } }
    let record : RecordLine := ⟨1, "", .object [("timestamp", .string "02/01/1970")]⟩
    let swapped : Config := { coercion := { timestampFormats := ["%Y-%d-%m"] } }
    let other : RecordLine := ⟨1, "", .object [("timestamp", .string "1970-02-01")]⟩
    [days.records.traceType, days.records.eventType, days.records.timestamp].Nodup ∧
      (Record.ofJson record.value).last? days.records.timestamp = some (.string "02/01/1970") ∧
      days.coercion.instantOf? (.string "02/01/1970") = some 86400000000000 ∧
      (event days record).timestamp = 0 ∧
      swapped.coercion.instantOf? (.string "1970-02-01") = some 86400000000000 ∧
      (event swapped other).timestamp = 2678400000000000 := by
  decide +kernel

end Command.RecordLine

end EventSieve
