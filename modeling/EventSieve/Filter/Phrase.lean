/-!
# Phrases

The tree of a filter text before it is compiled. Every node has a kind, a text and children;
tokens have a text and no children, the others have children and no text. Trees made by hand
may have any shape; compiling refuses those that mean nothing.

## Main definitions

* `Phrase` — a node with its children
* `Phrase.dump` — the tree in one line
-/
namespace EventSieve.Filter

/-- The kinds of phrases; the last five are those of tokens. -/
inductive PhraseKind where
  /-- All expressions of a filter. -/
  | root
  /-- One operand, or two joined by a separator. -/
  | expression
  | parenthesized
  | negation
  /-- A text, an operator and a text. -/
  | operation
  /-- A text that is present. -/
  | presentOperation
  /-- Several texts, an operator and a text. -/
  | compoundOperation
  /-- Several texts that are present. -/
  | compoundPresent
  /-- Texts that any field may match. -/
  | constant
  | text | operator | present | negate | separator
deriving DecidableEq, Repr

namespace PhraseKind

/-- Whether a phrase of this kind is a token. -/
def isToken : PhraseKind → Bool
  | text | operator | present | negate | separator => true
  | _ => false

/-- The name of a kind. -/
def name : PhraseKind → String
  | root => "Root"
  | expression => "Expression"
  | parenthesized => "Parenthesized"
  | negation => "Negation"
  | operation => "Operation"
  | presentOperation => "PresentOperation"
  | compoundOperation => "CompoundOperation"
  | compoundPresent => "CompoundPresent"
  | constant => "Constant"
  | text => "Text"
  | operator => "Operator"
  | present => "Present"
  | negate => "Negate"
  | separator => "Separator"

/-- All kinds. -/
def all : List PhraseKind :=
  [root, expression, parenthesized, negation, operation, presentOperation, compoundOperation,
    compoundPresent, constant, text, operator, present, negate, separator]

/-- The kind with a name. -/
def ofName? (name : String) : Option PhraseKind :=
  all.find? (·.name == name)

end PhraseKind

/-- A node of the tree of a filter text. -/
inductive Phrase where
  | node (kind : PhraseKind) (text : String) (children : List Phrase)
deriving Repr, BEq

namespace Phrase

/-- The kind of a phrase. -/
def kind : Phrase → PhraseKind
  | node kind _ _ => kind

/-- The text of a phrase. -/
def text : Phrase → String
  | node _ text _ => text

/-- The parts of a phrase. -/
def children : Phrase → List Phrase
  | node _ _ children => children

/-- A phrase made of others. -/
def group (kind : PhraseKind) (children : List Phrase) : Phrase :=
  node kind "" children

/-- A phrase that is a token. -/
def token (kind : PhraseKind) (text : String) : Phrase :=
  node kind text []

mutual

/-- The tree in one line: a token by its text, every other phrase by its kind and its parts in
parentheses. -/
def dump : Phrase → String
  | node kind text children =>
    if kind.isToken then text else "(" ++ kind.name ++ dumpAll children ++ ")"

/-- Trees in one line, each after a blank. -/
def dumpAll : List Phrase → String
  | [] => ""
  | phrase :: rest => " " ++ dump phrase ++ dumpAll rest

end

end Phrase
end EventSieve.Filter
