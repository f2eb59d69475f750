import EventSieve.Filter.Phrase
import EventSieve.Filter.Token

/-!
# The grammar of filters

```text
filter     = expression+
expression = operand (separator operand)? | '(' expression ')' | '!' expression
operand    = text+ operator text | text+ present | text+
```

An operand takes all texts that stand at its start. The right side of an operator is a single
text; what follows it begins a new expression.

## Main definitions

* `Phrase.ofTokens` — the tree of some tokens
* `Phrase.parse` — the tree of a text
-/
namespace EventSieve.Filter

/-- The error of a token that may not stand where it stands. -/
def Token.unexpected (token : Token) : FilterError :=
  .unexpectedToken token.text token.position

/-- The kind of phrase that a token is, parentheses apart. -/
def TokenKind.phraseKind : TokenKind → PhraseKind
  | text => .text
  | operator => .operator
  | present => .present
  | negate => .negate
  | separator => .separator
  | opening | closing => .parenthesized

/-- A token as a phrase. -/
def Token.phrase (token : Token) : Phrase :=
  .token token.kind.phraseKind token.text

/-- The error at the start of some tokens, of which none may stand there. -/
def errorAt : List Token → FilterError
  | token :: _ => token.unexpected
  | [] => .unexpectedEnd

namespace Phrase

/-- The texts at the start of some tokens, and the rest. -/
def takeTexts (tokens : List Token) : List Token × List Token :=
  (tokens.takeWhile (·.kind == .text), tokens.dropWhile (·.kind == .text))

/-- An operand at the start of some tokens, and the rest. -/
def operand (tokens : List Token) : Except FilterError (Phrase × List Token) :=
  let (texts, rest) := takeTexts tokens
  let left := texts.map Token.phrase
  let isSingle := texts.length == 1
  if texts.isEmpty then .error (errorAt rest)
  else
    match rest with
    | operator :: more =>
      if operator.kind = .operator then
        match more with
        | right :: later =>
          if right.kind = .text then
            .ok (group (if isSingle then .operation else .compoundOperation)
              (left ++ [operator.phrase, right.phrase]), later)
          else .error right.unexpected
        | [] => .error .unexpectedEnd
      else if operator.kind = .present then
        .ok (group (if isSingle then .presentOperation else .compoundPresent)
          (left ++ [operator.phrase]), more)
      else .ok (group .constant left, rest)
    | [] => .ok (group .constant left, rest)

/-- One operand, or two with a separator between them, and the rest. -/
def operands (tokens : List Token) : Except FilterError (Phrase × List Token) := do
  let (left, rest) ← operand tokens
  match rest with
  | separator :: more =>
    if separator.kind = .separator then
      let (right, later) ← operand more
      return (group .expression [left, separator.phrase, right], later)
    else return (group .expression [left], rest)
  | [] => return (group .expression [left], rest)

/-- The token that closes a parenthesis, after the phrase inside. -/
def closing : Phrase × List Token → Except FilterError (Phrase × List Token)
  | (inner, close :: rest) =>
    if close.kind = .closing then .ok (group .parenthesized [inner], rest)
    else .error close.unexpected
  | (_, []) => .error .unexpectedEnd

/-- An expression at the start of some tokens, and the rest. -/
def expression : List Token → Except FilterError (Phrase × List Token)
  | [] => .error .unexpectedEnd
  | token :: rest =>
    match token.kind with
    | .opening => expression rest >>= closing
    | .negate =>
      (expression rest).map fun (inner, later) => (group .negation [token.phrase, inner], later)
    | .text => operands (token :: rest)
    | _ => .error token.unexpected

theorem takeTexts_length (tokens : List Token) :
    (takeTexts tokens).1.length + (takeTexts tokens).2.length = tokens.length := by
  rw [takeTexts, ← List.length_append, List.takeWhile_append_dropWhile]

theorem length_lt_of_operand {tokens rest : List Token} {phrase : Phrase}
    (h : operand tokens = .ok (phrase, rest)) : rest.length < tokens.length := by
  have total := takeTexts_length tokens
  unfold operand at h
  generalize takeTexts tokens = split at h total
  obtain ⟨texts, remaining⟩ := split
  cases texts with
  | nil => simp at h
  | cons text texts =>
    simp only [List.length_cons] at total
    simp only [List.isEmpty_cons, Bool.false_eq_true, if_false] at h
    split at h
    · next operator more =>
      simp only [List.length_cons] at total
      split at h
      · split at h
        · next right later =>
          simp only [List.length_cons] at total
          split at h
          · cases h; omega
          · cases h
        · cases h
      · split at h
        · cases h; omega
        · cases h; simp only [List.length_cons]; omega
    · cases h; simp only [List.length_nil] at total ⊢; omega

theorem length_lt_of_operands {tokens rest : List Token} {phrase : Phrase}
    (h : operands tokens = .ok (phrase, rest)) : rest.length < tokens.length := by
  unfold operands at h
  cases hl : operand tokens with
  | error e => rw [hl] at h; cases h
  | ok left =>
    obtain ⟨left, remaining⟩ := left
    have short := length_lt_of_operand hl
    rw [hl] at h
    simp only [bind, Except.bind] at h
    split at h
    · next separator more =>
      simp only [List.length_cons] at short
      split at h
      · cases hr : operand more with
        | error e => rw [hr] at h; cases h
        | ok right =>
          obtain ⟨right, later⟩ := right
          have shorter := length_lt_of_operand hr
          rw [hr] at h
          cases h
          simp only at *; omega
      · cases h
        simp only [List.length_cons]; omega
    · cases h; exact short

theorem length_lt_of_expression {tokens rest : List Token} {phrase : Phrase}
    (h : expression tokens = .ok (phrase, rest)) : rest.length < tokens.length := by
  induction tokens generalizing phrase rest with
  | nil => cases h
  | cons token tokens ih =>
    rw [expression] at h
    split at h
    · cases hi : expression tokens with
      | error e => rw [hi] at h; cases h
      | ok inner =>
        obtain ⟨inner, later⟩ := inner
        have short := ih hi
        rw [hi] at h
        simp only [bind, Except.bind] at h
        cases later with
        | nil => cases h
        | cons close later =>
          rw [closing] at h
          simp only [List.length_cons] at short ⊢
          split at h
          · cases h; omega
          · cases h
    · cases hi : expression tokens with
      | error e => rw [hi] at h; cases h
      | ok inner =>
        obtain ⟨inner, later⟩ := inner
        have short := ih hi
        rw [hi] at h
        cases h
        simp only [List.length_cons]; omega
    · exact length_lt_of_operands h
    · cases h

/-- The expressions that some tokens are made of. -/
def expressions (tokens : List Token) : Except FilterError (List Phrase) :=
  if tokens.isEmpty then .ok []
  else
    match _step : expression tokens with
    | .error fault => .error fault
    | .ok (phrase, rest) => (expressions rest).map (phrase :: ·)
termination_by tokens.length
decreasing_by exact length_lt_of_expression _step

/-- The tree of some tokens. -/
def ofTokens (tokens : List Token) : Except FilterError Phrase :=
  if tokens.isEmpty then .error .empty else (expressions tokens).map (group .root)

/-- The tree of a text. -/
def parse (text : String) : Except FilterError Phrase :=
  Token.scan text >>= ofTokens

end Phrase
end EventSieve.Filter
