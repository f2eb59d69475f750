import EventSieve.Filter.Basic
import EventSieve.Text.Blank

/-!
# Filters as text

A filter is written so that it can be read again: operands that are no plain words stand in
quotes, a negated clause in parentheses after an exclamation mark.

## Main definitions

* `isBare` — whether an operand needs no quotes
* `quoted` — an operand, in quotes where it needs them
* `Comparison.text`, `Clause.text`, `Filter.text` — the text of a filter and of its parts
-/
namespace EventSieve

/-- The words that stand in quotes as operands. -/
def quotedWords : List (List Char) :=
  ["matches".toList, "contains".toList, "present".toList]

/-- The characters, apart from blanks, that stand in quotes in operands. -/
def quotedMarks : List Char :=
  ['(', ')', '"', '!', '=', '<', '>', '&', '|']

/-- Whether an operand needs no quotes. -/
def isBare (cs : List Char) : Bool :=
  !cs.isEmpty && !quotedWords.contains cs &&
    !cs.any fun c => Text.isBlank c || quotedMarks.contains c

/-- A text with a backslash before every quote. -/
def escapeQuotes (cs : List Char) : List Char :=
  cs.flatMap fun c => if c = '"' then ['\\', '"'] else [c]

/-- An operand, in quotes where it needs them. -/
def quotedChars (cs : List Char) : List Char :=
  if isBare cs then cs else '"' :: (escapeQuotes cs ++ ['"'])

/-- An operand, in quotes where it needs them. -/
def quoted (text : String) : String :=
  String.ofList (quotedChars text.toList)

/-- The text of a comparison. A match of any field is written as its pattern alone. -/
def Comparison.text (comparison : Comparison) : String :=
  let value := quoted (comparison.value.getD "")
  let body :=
    if comparison.isAnywhere && comparison.operator == .matches then value
    else
      let left := quoted comparison.field ++ " " ++ comparison.operator.token
      if comparison.operator.takesValue then left ++ " " ++ value else left
  if comparison.negated then "!" ++ body else body

/-- The text of a clause. -/
def Clause.text (clause : Clause) : String :=
  let body :=
    match clause.connective, clause.right with
    | some connective, some right =>
      clause.left.text ++ " " ++ connective.token ++ " " ++ right.text
    | _, _ => clause.left.text
  if clause.negated then "!(" ++ body ++ ")" else body

/-- The text of a filter. -/
def Filter.text (filter : Filter) : String :=
  let body := " ".intercalate (filter.clauses.map Clause.text)
  if filter.negated then "!(" ++ body ++ ")" else body

end EventSieve
