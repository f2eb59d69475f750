import EventSieve.Filter.Error
import EventSieve.Text.Blank

/-!
# Tokens of filter texts

A filter text is cut into tokens: texts, operators, negations, connectives and parentheses.
Blanks stand between tokens and are dropped. In a quoted text a backslash before a quote is an
escape and every other backslash stands for itself; the quotes around it stay.

## Main definitions

* `Token` — a token with its position
* `Lexeme.first` — the token at the start of a text, with its source
* `Token.scan` — the tokens of a text
-/
namespace EventSieve.Filter

/-- The kinds of tokens. -/
inductive TokenKind where
  | text | operator | present | negate | separator | opening | closing
deriving DecidableEq, Repr

/-- A token: its kind, its text, and the position in bytes where it starts. -/
structure Token where
  kind : TokenKind
  text : String
  position : Nat
deriving DecidableEq, Repr

/-- The number of bytes of some characters. -/
def byteLength : List Char → Nat
  | [] => 0
  | c :: rest => c.utf8Size + byteLength rest

@[simp] theorem byteLength_nil : byteLength [] = 0 := rfl

@[simp] theorem byteLength_cons (c : Char) (cs : List Char) :
    byteLength (c :: cs) = c.utf8Size + byteLength cs := rfl

@[simp] theorem byteLength_append (one other : List Char) :
    byteLength (one ++ other) = byteLength one + byteLength other := by
  induction one with
  | nil => simp
  | cons c one ih => simp [ih, Nat.add_assoc]

/-- Characters that have a meaning of their own outside of quotes. -/
def isMark (c : Char) : Bool :=
  c == '(' || c == ')' || c == '"' || c == '!' || c == '=' || c == '<' || c == '>' ||
    c == '&' || c == '|'

/-- Characters that end a word. -/
def endsWord (c : Char) : Bool :=
  Text.isBlank c || isMark c

/-- Words that are operators. -/
def wordKind (word : List Char) : TokenKind :=
  if word = "matches".toList ∨ word = "contains".toList then .operator
  else if word = "present".toList then .present
  else .text

/-- The text up to its closing quote, and how many characters spell it with that quote. -/
def takeQuoted? : List Char → Option (List Char × Nat)
  | [] => none
  | '\\' :: '"' :: rest =>
    (takeQuoted? rest).map fun (text, count) => ('"' :: text, count + 2)
  | c :: rest =>
    if c = '"' then some ([], 1)
    else (takeQuoted? rest).map fun (text, count) => (c :: text, count + 1)

/-- A token without its position: its kind, its text, and the characters that spell it. -/
structure Lexeme where
  kind : TokenKind
  text : List Char
  source : List Char
deriving DecidableEq, Repr

namespace Lexeme

/-- A lexeme that is spelled as its text. -/
def plain (kind : TokenKind) (text : List Char) : Lexeme :=
  ⟨kind, text, text⟩

/-- A character that counts only twice. -/
def doubled (kind : TokenKind) (c : Char) (rest : List Char) (position : Nat) :
    Except FilterError Lexeme :=
  if rest.head? = some c then .ok (plain kind [c, c])
  else .error (.unexpectedToken (String.ofList [c]) position)

/-- The lexeme of a quoted text. -/
def quoted (rest : List Char) (position : Nat) : Except FilterError Lexeme :=
  match takeQuoted? rest with
  | some (text, count) => .ok ⟨.text, '"' :: (text ++ ['"']), '"' :: rest.take count⟩
  | none => .error (.unterminatedQuote position)

/-- The lexeme that begins with `c`, which is no blank. -/
def first (c : Char) (rest : List Char) (position : Nat) : Except FilterError Lexeme :=
  if c = '(' then .ok (plain .opening [c])
  else if c = ')' then .ok (plain .closing [c])
  else if c = '>' ∨ c = '<' then .ok (plain .operator [c])
  else if c = '!' then
    if rest.head? = some '=' then .ok (plain .operator ['!', '=']) else .ok (plain .negate [c])
  else if c = '=' then doubled .operator c rest position
  else if c = '&' ∨ c = '|' then doubled .separator c rest position
  else if c = '"' then quoted rest position
  else
    let word := c :: rest.takeWhile fun d => !endsWord d
    .ok (plain (wordKind word) word)

end Lexeme

/-- The tokens of a text that starts at a position. -/
def Token.scanFrom (position : Nat) : List Char → Except FilterError (List Token)
  | [] => .ok []
  | c :: rest =>
    if Text.isBlank c then scanFrom (position + c.utf8Size) rest
    else
      match Lexeme.first c rest position with
      | .error fault => .error fault
      | .ok lexeme =>
        let token : Token := ⟨lexeme.kind, String.ofList lexeme.text, position⟩
        (scanFrom (position + byteLength lexeme.source)
          (rest.drop (lexeme.source.length - 1))).map (token :: ·)
termination_by cs => cs.length
decreasing_by
  all_goals simp only [List.length_cons, List.length_drop]; omega

/-- The tokens of a text. -/
def Token.scan (text : String) : Except FilterError (List Token) :=
  scanFrom 0 text.toList

end EventSieve.Filter
