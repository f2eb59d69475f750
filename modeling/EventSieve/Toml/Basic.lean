import EventSieve.Json.Basic

/-!
# TOML documents

A document is a table of tables. A table remembers how it was made, because that decides what
may still be added to it: what a header has opened is opened once, what a dotted key has made
takes more dotted keys, and what stands in braces is complete.

## Main definitions

* `Toml` — the values of a document
* `Toml.define?` — a table with one more dotted key
* `Toml.openTable?`, `Toml.openItem?` — a document with the table of a header, or one more item
* `Toml.toJson` — a value in JSON
-/
namespace EventSieve

open Number (Binary64)

/-- How a table was made. -/
inductive TableOrigin where
  /-- By the header of a table inside it. -/
  | implied
  | header
  | dotted
  | braces
deriving DecidableEq, Repr

/-- The values of a document. -/
inductive Toml where
  | string (text : String)
  | integer (value : Int)
  | float (value : Binary64)
  | boolean (value : Bool)
  | datetime (text : String)
  | array (items : List Toml)
  | table (origin : TableOrigin) (members : List (String × Toml))
  /-- Tables that headers in double brackets have opened one after the other. -/
  | tables (items : List (List (String × Toml)))
deriving Repr

namespace Toml

/-- The keys of a table with their values. -/
abbrev Members := List (String × Toml)

/-- The members with the value of a key changed or added; `change` may refuse. -/
def alter? (key : String) (change : Option Toml → Option Toml) : Members → Option Members
  | [] => (change none).map fun value => [(key, value)]
  | (other, old) :: rest =>
    if other = key then (change (some old)).map fun value => (key, value) :: rest
    else (alter? key change rest).map ((other, old) :: ·)

/-- The items with the last one changed. -/
def alterLast? (change : Members → Option Members) (items : List Members) :
    Option (List Members) := do
  let last ← items.getLast?
  return items.dropLast ++ [← change last]

/-- Members with one more value under a dotted key. Only tables that were not opened by a header
take it. -/
def define? (value : Toml) : List String → Members → Option Members
  | [], _ => none
  | [key], members => alter? key (fun old => if old.isSome then none else some value) members
  | key :: path, members =>
    alter? key (fun
      | none => (define? value path []).map (table .dotted)
      | some (table .dotted inner) => (define? value path inner).map (table .dotted)
      | some (table .implied inner) => (define? value path inner).map (table .implied)
      | some _ => none) members

/-- Members with a change made to the table of a path; the last of several tables counts. -/
def within? (change : Members → Option Members) : List String → Members → Option Members
  | [], members => change members
  | key :: path, members =>
    alter? key (fun
      | none => (within? change path []).map (table .implied)
      | some (table .braces _) => none
      | some (table origin inner) => (within? change path inner).map (table origin)
      | some (tables items) => (alterLast? (within? change path) items).map tables
      | some _ => none) members

/-- Members with the table of a header. -/
def openTable? (path : List String) (members : Members) : Option Members := do
  let key ← path.getLast?
  within? (alter? key fun
    | none => some (table .header [])
    | some (table .implied inner) => some (table .header inner)
    | some _ => none) path.dropLast members

/-- Members with one more table of a header in double brackets. -/
def openItem? (path : List String) (members : Members) : Option Members := do
  let key ← path.getLast?
  within? (alter? key fun
    | none => some (tables [[]])
    | some (tables items) => some (tables (items ++ [[]]))
    | some _ => none) path.dropLast members

mutual

/-- A value in JSON; a date or a time is an object with one member. -/
def toJson : Toml → Json
  | string text => .string text
  | integer value => .integer value
  | float value => .ofFloat value
  | boolean value => .boolean value
  | datetime text => .object [("$datetime", .string text)]
  | array items => .array (itemsToJson items)
  | table _ members => .ofMembers (membersToJson members)
  | tables items => .array (tablesToJson items)

/-- Items in JSON. -/
def itemsToJson : List Toml → List Json
  | [] => []
  | item :: rest => toJson item :: itemsToJson rest

/-- Members in JSON. -/
def membersToJson : List (String × Toml) → List (String × Json)
  | [] => []
  | (key, value) :: rest => (key, toJson value) :: membersToJson rest

/-- Tables in JSON. -/
def tablesToJson : List (List (String × Toml)) → List Json
  | [] => []
  | members :: rest => .ofMembers (membersToJson members) :: tablesToJson rest

end

end Toml
end EventSieve
