import EventSieve.Filter.Basic
import EventSieve.Filter.Grammar

/-!
# Compiling phrases

A phrase becomes a filter, or nothing if some part of it means nothing. Parentheses vanish and
a negation toggles the flag of the clause inside it.

## Main definitions

* `Clause.ofPhrase?` — the clause of a phrase
* `Filter.ofPhrase?` — the filter of a phrase
* `Filter.compile?` — the filter of a text
-/
namespace EventSieve

open EventSieve.Filter (Phrase PhraseKind)

/-- A text without the quotes around it. -/
def unquoteChars (cs : List Char) : List Char :=
  match cs with
  | '"' :: rest => if rest.getLast? = some '"' then rest.dropLast else cs
  | _ => cs

/-- The operand that a text spells: without blanks around it, and then without its quotes. -/
def unquote (text : String) : List Char :=
  unquoteChars (Text.trimChars text.toList)

/-- Texts with a blank between them. -/
def joinWords : List (List Char) → List Char
  | [] => []
  | [word] => word
  | word :: words => word ++ ' ' :: joinWords words

/-- The operand that some texts spell together, unless there are none or some are no texts. -/
def joinTexts? (phrases : List Phrase) : Option String :=
  if phrases.isEmpty || phrases.any (·.kind != .text) then none
  else some (String.ofList (Text.trimChars (joinWords (phrases.map fun p => unquote p.text))))

/-- Whether a phrase is an operator, or says that a field is present. -/
def isOperatorPhrase (phrase : Phrase) : Bool :=
  phrase.kind == .operator || phrase.kind == .present

namespace Comparison

/-- The comparison of texts, an operator and texts. The first operator counts. -/
def ofOperation? (phrases : List Phrase) : Option Comparison := do
  let left := phrases.takeWhile (!isOperatorPhrase ·)
  match phrases.dropWhile (!isOperatorPhrase ·) with
  | [] => none
  | mark :: right =>
    let operator ← Operator.ofToken? mark.text
    let field ← joinTexts? left
    if operator.takesValue then
      return { field, operator, value := some (← joinTexts? right) }
    else if right.isEmpty then return { field, operator, value := none }
    else none

/-- The comparison of a text that any field may match. -/
def ofConstant? (text : String) (children : List Phrase) : Option Comparison := do
  let spelled ←
    if children.isEmpty then some (String.ofList (unquote text)) else joinTexts? children
  let pattern := Text.trim spelled
  if pattern.isEmpty then none else some (anywhere pattern)

/-- The comparison of a phrase. -/
def ofPhrase? (phrase : Phrase) : Option Comparison :=
  match phrase.kind with
  | .constant => ofConstant? phrase.text phrase.children
  | .operation => if phrase.children.length = 3 then ofOperation? phrase.children else none
  | .presentOperation =>
    if phrase.children.length = 2 then ofOperation? phrase.children else none
  | .compoundOperation | .compoundPresent => ofOperation? phrase.children
  | _ => none

end Comparison

namespace Clause

/-- The clause of one operand, or of two with a separator between them. -/
def ofOperands? : List Phrase → Option Clause
  | [left] => (Comparison.ofPhrase? left).map ofComparison
  | [left, separator, right] => do
    let left ← Comparison.ofPhrase? left
    if separator.kind = .separator then
      let connective ← Connective.ofToken? separator.text
      let right ← Comparison.ofPhrase? right
      return { left, connective := some connective, right := some right }
    else none
  | _ => none

/-- The clause of a phrase. -/
def ofPhrase? : Phrase → Option Clause
  | .node .expression _ children => ofOperands? children
  | .node .parenthesized _ [inner] => ofPhrase? inner
  | .node .negation _ [inner] => (ofPhrase? inner).map negate
  | .node .negation _ [mark, inner] =>
    if mark.kind = .negate then (ofPhrase? inner).map negate else none
  | phrase => (Comparison.ofPhrase? phrase).map ofComparison

end Clause

namespace Filter

/-- The filter of clauses, of which there has to be one. -/
def ofClauses? (clauses : List Clause) : Option Filter :=
  if clauses.isEmpty then none else some { clauses }

/-- The filter of a phrase. A phrase that is not a whole filter counts as its only clause. -/
def ofPhrase? (phrase : Phrase) : Option Filter :=
  if phrase.kind = .root then do ofClauses? (← phrase.children.mapM Clause.ofPhrase?)
  else (Clause.ofPhrase? phrase).map fun clause => { clauses := [clause] }

/-- The filter of a text, if the text has a tree and the tree has a meaning. -/
def compile? (text : String) : Option Filter :=
  match Phrase.parse text with
  | .ok phrase => ofPhrase? phrase
  | .error _ => none

end Filter
end EventSieve
