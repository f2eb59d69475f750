import EventSieve.Filter.Json
import EventSieve.Filter.Render
import EventSieve.Report.Table
import EventSieve.Tree.Outline

/-!
# Reports

What a filter compiles to, and its tree, as text or as JSON.

## Main definitions

* `Style.paint` — a text in a style, where colors are on
* `compiledTable` — a row for every comparison of a filter
* `explainText`, `explainJson` — the report on a filter and its tree
-/
namespace EventSieve.Report

/-- The styles of headings and notes. -/
inductive Style where
  | heading | note | warning | success
deriving DecidableEq, Repr

/-- The codes of a style on a terminal. -/
def Style.codes : Style → String
  | heading => "1;94"
  | note => "33"
  | warning => "1;33"
  | success => "1;32"

/-- A text in a style, where colors are on. -/
def Style.paint (style : Style) (colors : Bool) (text : String) : String :=
  if colors then "\x1b[" ++ style.codes ++ "m" ++ text ++ "\x1b[0m" else text

/-- A mark for what is set. -/
def flagText (set : Bool) : String :=
  if set then "yes" else ""

/-- The cells of a comparison. -/
def comparisonCells (comparison : Comparison) : List String :=
  [comparison.field, comparison.operator.token, comparison.value.getD "-",
    flagText comparison.negated]

/-- The rows of a clause, which has a number. -/
def clauseRows (number : Nat) (clause : Clause) : List (List String) :=
  let first :=
    [Number.intText number, ""] ++ comparisonCells clause.left ++ [flagText clause.negated]
  match clause.connective, clause.right with
  | some connective, some right =>
    [first, ["", connective.token] ++ comparisonCells right ++ [""]]
  | _, _ => [first]

/-- A row for every comparison of a filter. -/
def compiledTable (filter : Filter) : Table where
  header := ["#", "Join", "Field", "Operator", "Value", "Not", "Clause not"]
  rows := (filter.clauses.mapIdx fun place clause => clauseRows (place + 1) clause).flatten

/-- The report on a filter and its tree as text. -/
def explainText (colors : Bool) (filter : Filter) (tree : FilterTree) : String :=
  let note :=
    if filter.negated then Style.note.paint colors "(whole filter negated)" ++ "\n" else ""
  Style.heading.paint colors "Compiled filter" ++ "\n" ++ filter.text ++ "\n" ++ note ++
    (compiledTable filter).render ++ "\n\n" ++ Style.heading.paint colors "Filter tree" ++
    "\n" ++ tree.outline

/-- The report on a filter and its tree in JSON. -/
def explainJson (text : String) (filter : Filter) (tree : FilterTree) : Json :=
  .ofMembers [("filter", .string text), ("rendered", .string filter.text),
    ("compiled", filter.toJson), ("tree", tree.toJson)]

end EventSieve.Report
