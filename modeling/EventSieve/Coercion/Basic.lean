import EventSieve.Coercion.Numeral
import EventSieve.Instant.Template
import EventSieve.Pattern.Basic
import EventSieve.Value

/-!
# Coercion

Filter values are texts. Before it is compared, a text is coerced to the most specific form that
it admits: an integer, a grouped decimal number, an amount or a time with a unit, or an instant;
the first reader that takes the whole text decides. For a match it is also compiled as a pattern.

## Main definitions

* `Coercion` — the separators and the templates of timestamps
* `Coercion.instant?`, `Coercion.number?` — the instant and the number of a text
* `Coercion.instantOf?`, `Coercion.numberOf?` — those of a value
* `Prepared`, `Coercion.prepare` — a text after coercion
-/
namespace EventSieve

/-- How texts are read as numbers and instants. -/
structure Coercion where
  grouping : Char := ','
  decimal : Char := '.'
  /-- Templates that are tried after the RFC 3339 form, in universal time. -/
  timestampFormats : List String :=
    ["%Y-%m-%d %H:%M:%S%.f", "%Y-%m-%dT%H:%M:%S%.f", "%Y-%m-%d"]
deriving DecidableEq, Repr, Inhabited

namespace Coercion

/-- The instant of a text by a template of a date and a time, or of a date. -/
def byTemplate? (raw template : String) : Option Int :=
  Instant.Template.readMoment? template raw <|> Instant.Template.readDate? template raw

/-- The instant of a text in RFC 3339 form or by the first template that takes it, in
nanoseconds that fit 64 bits. -/
def instant? (coercion : Coercion) (raw : String) : Option Int64 := do
  let nanos ← Instant.readTimestamp? raw <|> coercion.timestampFormats.findSome? (byTemplate? raw)
  Number.narrow? nanos

/-- The number of a text, by the first reader that takes it. -/
def number? (coercion : Coercion) (raw : String) : Option Number :=
  integerLiteral? raw.toList
  <|> groupedDecimal? coercion.grouping coercion.decimal raw.toList
  <|> unitScaled? raw.toList
  <|> duration? raw.toList
  <|> (coercion.instant? raw).map .integer

/-- The number of a value; strings are coerced. -/
def numberOf? (coercion : Coercion) : Value → Option Number
  | .integer value | .timestamp value => some (.integer value)
  | .float value => some (.float value)
  | .boolean _ => none
  | .string text => coercion.number? text

/-- The instant of a value; strings are coerced, and numbers count nanoseconds. -/
def instantOf? (coercion : Coercion) : Value → Option Int64
  | .integer value | .timestamp value => some value
  | .float value => some (Number.clamp value.round)
  | .boolean _ => none
  | .string text => coercion.instant? text

end Coercion

/-- A filter value after coercion. -/
inductive Prepared where
  | number (written : String) (number : Number)
  /-- For a match. The number decides before the pattern does. -/
  | pattern (pattern : Pattern) (number : Option Number)
  | plain (written : String)
deriving Repr

namespace Prepared

/-- The text as it was written. -/
def text : Prepared → String
  | number written _ => written
  | pattern p _ => p.text
  | plain written => written

/-- The number of the text, if it has one. -/
def number? : Prepared → Option Number
  | number _ n => some n
  | pattern _ n => n
  | plain _ => none

/-- The pattern of the text, if it was wanted and is well formed. -/
def pattern? : Prepared → Option Pattern
  | pattern p _ => some p
  | _ => none

end Prepared

namespace Coercion

/-- A text that is not matched as a pattern, after coercion. -/
def preparePlain (coercion : Coercion) (raw : String) : Prepared :=
  match coercion.number? raw with
  | some number => .number raw number
  | none => .plain raw

/-- Coercion keeps the text as it was written. -/
theorem text_preparePlain (coercion : Coercion) (raw : String) :
    (coercion.preparePlain raw).text = raw := by
  rw [preparePlain]
  cases coercion.number? raw <;> rfl

theorem number?_preparePlain (coercion : Coercion) (raw : String) :
    (coercion.preparePlain raw).number? = coercion.number? raw := by
  rw [preparePlain]
  cases coercion.number? raw <;> rfl

/-- A text after coercion, for a match or for another comparison. A text that is no pattern is
matched like another. -/
def prepare (coercion : Coercion) (raw : String) (forMatch : Bool) : Prepared :=
  if forMatch then
    match Pattern.compile? raw with
    | some pattern => .pattern pattern (coercion.number? raw)
    | none => coercion.preparePlain raw
  else coercion.preparePlain raw

/-- Coercion keeps the text as it was written, also as the text of a pattern. -/
theorem text_prepare (coercion : Coercion) (raw : String) (forMatch : Bool) :
    (coercion.prepare raw forMatch).text = raw := by
  cases forMatch with
  | false => exact coercion.text_preparePlain raw
  | true =>
    rw [prepare, if_pos rfl, Pattern.compile?]
    cases Pattern.Regex.parse? raw with
    | none => exact coercion.text_preparePlain raw
    | some regex => rfl

end Coercion

namespace Value

/-- The number of a value, strings being coerced by the default rules. -/
def number? (value : Value) : Option Number :=
  Coercion.numberOf? {} value

/-- The instant of a value, strings being coerced by the default rules. -/
def instant? (value : Value) : Option Int64 :=
  Coercion.instantOf? {} value

end Value
end EventSieve
