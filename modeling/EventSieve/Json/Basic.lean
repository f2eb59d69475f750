import EventSieve.Number.Layout
import EventSieve.Number.Digits

/-!
# JSON

JSON values. The members of an object are in the order of their keys, each key once.

## Main definitions

* `Json` — JSON values
* `Json.ofMembers` — the object of some members; of equal keys the last counts
* `Json.compact`, `Json.pretty` — the text of a value in one line, or indented
-/
namespace EventSieve

open Number (Binary64)

/-- JSON values. Integers are those of 64 bits with a sign or without. -/
inductive Json where
  | null
  | boolean (value : Bool)
  | integer (value : Int)
  | float (value : Binary64)
  | string (text : String)
  | array (items : List Json)
  | object (members : List (String × Json))
deriving Repr, BEq

namespace Json

/-- The members of an object with one more; an equal key is replaced. -/
def insertMember (key : String) (value : Json) : List (String × Json) → List (String × Json)
  | [] => [(key, value)]
  | (other, old) :: rest =>
    if key < other then (key, value) :: (other, old) :: rest
    else if key = other then (key, value) :: rest
    else (other, old) :: insertMember key value rest

/-- The object of some members; of equal keys the last counts. -/
def ofMembers (members : List (String × Json)) : Json :=
  object (members.foldl (fun sorted member => insertMember member.1 member.2 sorted) [])

/-- A floating-point number; infinities and what is no number have no form in JSON. -/
def ofFloat : Binary64 → Json
  | .finite negative units => float (.finite negative units)
  | _ => null

/-- The string of a text, or null. -/
def ofString? : Option String → Json
  | some text => string text
  | none => null

/-- Whether a value is an object. -/
def isObject : Json → Bool
  | object _ => true
  | _ => false

/-- The member of an object with a key. -/
def get? (value : Json) (key : String) : Option Json :=
  match value with
  | object members => members.lookup key
  | _ => none

/-! ## Text -/

/-- A control character by its code. -/
def escapeCode (n : Nat) : List Char :=
  let digit (d : Nat) : Char := (Nat.toDigits 16 d).head?.getD '0'
  ['\\', 'u', '0', '0', digit (n / 16), digit (n % 16)]

/-- A character of a string, escaped where JSON asks for it. -/
def escapeChar (c : Char) : List Char :=
  if c = '"' then ['\\', '"']
  else if c = '\\' then ['\\', '\\']
  else if c = '\n' then ['\\', 'n']
  else if c = '\r' then ['\\', 'r']
  else if c = '\t' then ['\\', 't']
  else if c = '\x08' then ['\\', 'b']
  else if c = '\x0c' then ['\\', 'f']
  else if c.toNat < 32 then escapeCode c.toNat
  else [c]

/-- A string in quotes. -/
def quote (text : String) : String :=
  String.ofList ('"' :: (text.toList.flatMap escapeChar ++ ['"']))

/-- The text of a value without parts. -/
def scalar : Json → String
  | boolean value => if value then "true" else "false"
  | integer value => Number.intText value
  | float value => value.jsonText
  | string text => quote text
  | _ => "null"

mutual

/-- The text of a value in one line, without blanks. -/
def compact : Json → String
  | array items => "[" ++ compactItems items ++ "]"
  | object members => "\x7b" ++ compactMembers members ++ "\x7d"
  | value => scalar value

/-- Items with commas between them. -/
def compactItems : List Json → String
  | [] => ""
  | [item] => compact item
  | item :: rest => compact item ++ "," ++ compactItems rest

/-- Members with commas between them. -/
def compactMembers : List (String × Json) → String
  | [] => ""
  | [(key, value)] => quote key ++ ":" ++ compact value
  | (key, value) :: rest => quote key ++ ":" ++ compact value ++ "," ++ compactMembers rest

end

/-- The start of a line at a depth. -/
def indent (depth : Nat) : String :=
  String.ofList ('\n' :: List.replicate (2 * depth) ' ')

mutual

/-- The text of a value with a line for every part, indented by two blanks for each level. -/
def prettyAt (depth : Nat) : Json → String
  | array [] => "[]"
  | array items => "[" ++ prettyItems (depth + 1) items ++ indent depth ++ "]"
  | object [] => "\x7b\x7d"
  | object members => "\x7b" ++ prettyMembers (depth + 1) members ++ indent depth ++ "\x7d"
  | value => scalar value

/-- Items, each on a line of its own. -/
def prettyItems (depth : Nat) : List Json → String
  | [] => ""
  | [item] => indent depth ++ prettyAt depth item
  | item :: rest => indent depth ++ prettyAt depth item ++ "," ++ prettyItems depth rest

/-- Members, each on a line of its own. -/
def prettyMembers (depth : Nat) : List (String × Json) → String
  | [] => ""
  | [(key, value)] => indent depth ++ quote key ++ ": " ++ prettyAt depth value
  | (key, value) :: rest =>
    indent depth ++ quote key ++ ": " ++ prettyAt depth value ++ "," ++ prettyMembers depth rest

end

/-- The text of a value with a line for every part. -/
def pretty (value : Json) : String :=
  prettyAt 0 value

end Json
end EventSieve
