import EventSieve.Filter.Basic
import EventSieve.Json.Basic
import EventSieve.Value

/-!
# Records

A record lists entries, each a name and a value, in order. A name may come more than once: the
items of an array share a name. A JSON object is flattened into a record, in which the names of
nested members are joined by points.

## Main definitions

* `Record` — entries in order
* `Record.get?`, `Record.valuesFor` — the values under a name
* `Record.ofJson` — the record of a JSON object
-/
namespace EventSieve

/-- A name with a value. -/
abbrev Entry := String × Value

/-- Entries in order. -/
structure Record where
  entries : List Entry := []
deriving DecidableEq, Repr

/-- What stands before the names of derived entries. -/
def defaultAlias : String := "> "

namespace Record

/-- The first value under exactly a name. -/
def get? (record : Record) (name : String) : Option Value :=
  record.entries.lookup name

/-- Whether a comparison of a field looks at entries of a name: at all of them for any field,
else at those of the field itself and of its derived alias. -/
def concerns (aliasMark field name : String) : Bool :=
  field == anyField || name == field || (!aliasMark.isEmpty && name == aliasMark ++ field)

/-- The values that a comparison of a field looks at. -/
def valuesFor (record : Record) (field aliasMark : String) : List Value :=
  (record.entries.filter fun entry => concerns aliasMark field entry.1).map Prod.snd

end Record

namespace Value

/-- The value of a JSON value without parts. An integer beyond 64 bits with a sign is a
floating-point number. -/
def ofJson? : Json → Option Value
  | .boolean value => some (boolean value)
  | .integer value =>
    match Number.narrow? value with
    | some value => some (integer value)
    | none => some (float (.ofInt value))
  | .float value => some (float value)
  | .string text => some (string text)
  | .null | .array _ | .object _ => none

end Value

namespace Json

/-- The name of a member inside an object that has a name itself. -/
def memberName (outer key : String) : String :=
  if outer.isEmpty then key else outer ++ "." ++ key

mutual

/-- The entries of a value under a name: one for each scalar in it. -/
def entries (name : String) : Json → List Entry
  | object members => memberEntries name members
  | array items => itemEntries name items
  | value => (Value.ofJson? value).toList.map fun scalar => (name, scalar)

/-- The entries of items, all under one name. -/
def itemEntries (name : String) : List Json → List Entry
  | [] => []
  | item :: rest => entries name item ++ itemEntries name rest

/-- The entries of members, under their keys joined to the name outside. -/
def memberEntries (outer : String) : List (String × Json) → List Entry
  | [] => []
  | (key, value) :: rest => entries (memberName outer key) value ++ memberEntries outer rest

end

end Json

namespace Record

/-- The record of a JSON object; any other value has no entries. -/
def ofJson : Json → Record
  | .object members => ⟨Json.memberEntries "" members⟩
  | _ => {}

end Record
end EventSieve
