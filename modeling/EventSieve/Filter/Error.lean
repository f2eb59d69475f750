/-!
# Errors of filter texts

## Main definitions

* `FilterError` — why a text is no filter
* `FilterError.message` — the wording
-/
namespace EventSieve

/-- Why a text is no filter. Positions count bytes. -/
inductive FilterError where
  | empty
  | unexpectedToken (token : String) (position : Nat)
  | unexpectedEnd
  | unterminatedQuote (position : Nat)
  | unknownOperator (token : String)
deriving DecidableEq, Repr

/-- The wording of an error. -/
def FilterError.message : FilterError → String
  | empty => "Empty filter expression"
  | unexpectedToken token position =>
    s!"Unexpected token '{token}' at position {position}"
  | unexpectedEnd => "Unexpected end of filter expression"
  | unterminatedQuote position =>
    s!"Unterminated quoted string starting at position {position}"
  | unknownOperator token =>
    "Unknown operator: '" ++ token ++
      "'. Valid operators are: ==, !=, matches, contains, present, >, <"

end EventSieve
