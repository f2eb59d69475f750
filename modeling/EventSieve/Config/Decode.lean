import EventSieve.Config.Basic
import EventSieve.Toml.Reader

/-!
# Configurations as data

A configuration is read from a TOML document or a JSON value and written as JSON. What is
missing has its default, and unknown keys say nothing. A list gives the parts of a group in the
order of their names.

## Main definitions

* `Config.ofJson?`, `Config.parse?` — the configuration of a JSON value, or of a document
* `Config.toJson` — a configuration in JSON
-/
namespace EventSieve

namespace Json

/-- The text of a string. -/
def string? : Json → Option String
  | string text => some text
  | _ => none

/-- A truth value. -/
def boolean? : Json → Option Bool
  | boolean value => some value
  | _ => none

/-- The character of a string that has one. -/
def char? : Json → Option Char
  | string text =>
    match text.toList with
    | [c] => some c
    | _ => none
  | _ => none

/-- The items of a list. -/
def list? {α : Type} (read : Json → Option α) : Json → Option (List α)
  | array items => items.mapM read
  | _ => none

/-- The part of a group with a name, by its key or by its place among the names. -/
def part? (names : List String) (name : String) : Json → Option Json
  | object members => members.lookup name
  | array items => (names.findIdx? (· == name)).bind (items[·]?)
  | _ => none

/-- Whether a value is a group of named parts. -/
def isGroup : Json → Bool
  | object _ | array _ => true
  | _ => false

/-- A part of a group as `read` takes it, or its default if it is missing. -/
def readPart? {α : Type} (value : Json) (names : List String) (name : String)
    (read : Json → Option α) (default : α) : Option α :=
  match value.part? names name with
  | some part => read part
  | none => some default

end Json

namespace Coercion

/-- The names of the parts of coercion rules. -/
def partNames : List String :=
  ["grouping_separator", "decimal_separator", "timestamp_formats"]

/-- The coercion rules of a JSON value. -/
def ofJson? (value : Json) : Option Coercion := do
  let rules : Coercion := {}
  let part {α : Type} := @Json.readPart? α value partNames
  if !value.isGroup then none
  else return {
    grouping := ← part "grouping_separator" Json.char? rules.grouping
    decimal := ← part "decimal_separator" Json.char? rules.decimal
    timestampFormats :=
      ← part "timestamp_formats" (Json.list? Json.string?) rules.timestampFormats }

/-- Coercion rules in JSON. -/
def toJson (rules : Coercion) : Json :=
  .ofMembers [("grouping_separator", .string (String.ofList [rules.grouping])),
    ("decimal_separator", .string (String.ofList [rules.decimal])),
    ("timestamp_formats", .array (rules.timestampFormats.map .string))]

end Coercion

namespace MatchRules

/-- The names of the parts of matching rules. -/
def partNames : List String :=
  ["ignore_case", "derived_prefix"]

/-- The matching rules of a JSON value. -/
def ofJson? (value : Json) : Option MatchRules := do
  let rules : MatchRules := {}
  let part {α : Type} := @Json.readPart? α value partNames
  if !value.isGroup then none
  else return {
    ignoreCase := ← part "ignore_case" Json.boolean? rules.ignoreCase
    derivedMark := ← part "derived_prefix" Json.string? rules.derivedMark }

/-- Matching rules in JSON. -/
def toJson (rules : MatchRules) : Json :=
  .ofMembers [("ignore_case", .boolean rules.ignoreCase),
    ("derived_prefix", .string rules.derivedMark)]

end MatchRules

namespace HeaderKeys

/-- The names of the keys of a header. -/
def partNames : List String :=
  ["event_type_field", "timestamp_field", "trace_type_field"]

/-- The keys of a header of a JSON value. -/
def ofJson? (value : Json) : Option HeaderKeys := do
  let keys : HeaderKeys := {}
  let part {α : Type} := @Json.readPart? α value partNames
  if !value.isGroup then none
  else return {
    eventType := ← part "event_type_field" Json.string? keys.eventType
    timestamp := ← part "timestamp_field" Json.string? keys.timestamp
    traceType := ← part "trace_type_field" Json.string? keys.traceType }

/-- The keys of a header in JSON. -/
def toJson (keys : HeaderKeys) : Json :=
  .ofMembers [("event_type_field", .string keys.eventType),
    ("timestamp_field", .string keys.timestamp), ("trace_type_field", .string keys.traceType)]

end HeaderKeys

namespace SavedFilter

/-- The names of the parts of a saved filter. -/
def partNames : List String :=
  ["name", "expression", "enabled"]

/-- The saved filter of a JSON value. It has a name and an expression. -/
def ofJson? (value : Json) : Option SavedFilter := do
  return {
    name := ← (← value.part? partNames "name").string?
    expression := ← (← value.part? partNames "expression").string?
    enabled := ← value.readPart? partNames "enabled" Json.boolean? true }

/-- A saved filter in JSON. -/
def toJson (saved : SavedFilter) : Json :=
  .ofMembers [("name", .string saved.name), ("expression", .string saved.expression),
    ("enabled", .boolean saved.enabled)]

end SavedFilter

namespace Config

/-- The names of the parts of a configuration. -/
def partNames : List String :=
  ["profile_name", "coercion", "matching", "records", "saved_filters"]

/-- The configuration of a JSON value. -/
def ofJson? (value : Json) : Option Config := do
  let config : Config := {}
  let part {α : Type} := @Json.readPart? α value partNames
  if !value.isGroup then none
  else return {
    profileName := ← part "profile_name" Json.string? config.profileName
    coercion := ← part "coercion" Coercion.ofJson? config.coercion
    matching := ← part "matching" MatchRules.ofJson? config.matching
    records := ← part "records" HeaderKeys.ofJson? config.records
    savedFilters :=
      ← part "saved_filters" (Json.list? SavedFilter.ofJson?) config.savedFilters }

/-- A configuration in JSON. -/
def toJson (config : Config) : Json :=
  .ofMembers [("profile_name", .string config.profileName),
    ("coercion", config.coercion.toJson), ("matching", config.matching.toJson),
    ("records", config.records.toJson),
    ("saved_filters", .array (config.savedFilters.map SavedFilter.toJson))]

/-- The configuration of a TOML document. -/
def parse? (text : String) : Option Config := do
  ofJson? (← Toml.parse? text).toJson

end Config
end EventSieve
