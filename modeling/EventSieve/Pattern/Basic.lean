import EventSieve.Pattern.Expression

/-!
# Patterns

A pattern is the text of a regular expression together with the expression.

## Main definitions

* `Pattern` — a text and its expression
* `Pattern.compile?` — the pattern of a text, if it is well formed
* `Pattern.isFoundIn` — whether some part of a text matches
-/
namespace EventSieve

/-- A regular expression with its text. -/
structure Pattern where
  text : String
  regex : Pattern.Regex
deriving Repr

namespace Pattern

/-- The pattern of a text, if it is well formed. -/
def compile? (text : String) : Option Pattern :=
  (Regex.parse? text).map fun regex => ⟨text, regex⟩

/-- Whether some part of a text matches. -/
def isFoundIn (pattern : Pattern) (text : String) : Bool :=
  pattern.regex.isFoundIn text.toList

end Pattern
end EventSieve
