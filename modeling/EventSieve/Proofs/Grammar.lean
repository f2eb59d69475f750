import EventSieve.Filter.Grammar

/-!
# Derivations of filters

The grammar of filters as relations between tokens, the phrase that they begin with, and the tokens
after it. An operand takes all texts at its start, and a separator always joins two operands.

## Main definitions

* `Phrase.ReadsOperand` — tokens that begin with an operand
* `Phrase.ReadsExpression`, `Phrase.ReadsExpressions` — tokens that begin with an expression, and
  tokens that are made of expressions

## Main statements

* `Phrase.operand_eq_ok_iff`, `Phrase.expression_eq_ok_iff`, `Phrase.ofTokens_eq_ok_iff` — the
  parser finds what the grammar derives, and nothing else
-/
namespace EventSieve.Filter

/-- The kind of the first token. -/
def headKind? (tokens : List Token) : Option TokenKind :=
  tokens.head?.map Token.kind

@[simp] theorem headKind?_nil : headKind? [] = none := rfl

@[simp] theorem headKind?_cons (token : Token) (rest : List Token) :
    headKind? (token :: rest) = some token.kind := rfl

namespace Phrase

/-! ## Texts -/

/-- One text or more. -/
structure Texts (tokens : List Token) : Prop where
  nonempty : tokens ≠ []
  all : ∀ token ∈ tokens, token.kind = .text

theorem takeTexts_append {texts rest : List Token} (all : ∀ token ∈ texts, token.kind = .text)
    (next : headKind? rest ≠ some .text) : takeTexts (texts ++ rest) = (texts, rest) := by
  have isText : ∀ token ∈ texts, (token.kind == TokenKind.text) = true := fun token mem => by
    rw [all token mem]
    rfl
  rw [takeTexts, List.takeWhile_append_of_pos isText, List.dropWhile_append_of_pos isText]
  cases rest with
  | nil => rw [List.takeWhile_nil, List.dropWhile_nil, List.append_nil]
  | cons token rest =>
    have other : (token.kind == TokenKind.text) = false :=
      beq_eq_false_iff_ne.mpr fun h => next (congrArg some h)
    simp only [List.takeWhile_cons, List.dropWhile_cons, other, Bool.false_eq_true, if_false,
      List.append_nil]

/-- Tokens are the texts at their start and what follows them. -/
theorem exists_texts (tokens : List Token) : ∃ texts rest, tokens = texts ++ rest ∧
    (∀ token ∈ texts, token.kind = .text) ∧ headKind? rest ≠ some .text := by
  induction tokens with
  | nil => exact ⟨[], [], rfl, by simp, by simp⟩
  | cons token tokens ih =>
    by_cases text : token.kind = .text
    · obtain ⟨texts, rest, rfl, all, next⟩ := ih
      refine ⟨token :: texts, rest, rfl, fun other mem => ?_, next⟩
      rcases List.mem_cons.mp mem with rfl | mem
      · exact text
      · exact all other mem
    · refine ⟨[], token :: tokens, rfl, by simp, ?_⟩
      rw [headKind?_cons]
      exact fun h => text (Option.some.inj h)

/-! ## Operands -/

/-- Tokens that begin with an operand: texts with an operator and a text, texts that are present, or
texts alone where none of these follows. -/
inductive ReadsOperand : List Token → Phrase → List Token → Prop
  | operation {texts rest : List Token} {operator value : Token} (h : Texts texts)
      (isOperator : operator.kind = .operator) (isText : value.kind = .text) :
      ReadsOperand (texts ++ operator :: value :: rest)
        (group (if texts.length = 1 then .operation else .compoundOperation)
          (texts.map Token.phrase ++ [operator.phrase, value.phrase])) rest
  | presence {texts rest : List Token} {mark : Token} (h : Texts texts)
      (isPresent : mark.kind = .present) :
      ReadsOperand (texts ++ mark :: rest)
        (group (if texts.length = 1 then .presentOperation else .compoundPresent)
          (texts.map Token.phrase ++ [mark.phrase])) rest
  | constant {texts rest : List Token} (h : Texts texts)
      (next : headKind? rest ∉ [some .text, some .operator, some .present]) :
      ReadsOperand (texts ++ rest) (group .constant (texts.map Token.phrase)) rest

variable {tokens rest : List Token} {phrase : Phrase}

theorem operand_of_reads (h : ReadsOperand tokens phrase rest) :
    operand tokens = .ok (phrase, rest) := by
  have notEmpty {texts : List Token} (h : Texts texts) : texts.isEmpty = false := by
    rw [List.isEmpty_eq_false_iff]
    exact h.nonempty
  cases h with
  | operation h isOperator isText =>
    rw [operand, takeTexts_append h.all (by simp [isOperator])]
    simp [notEmpty h, isOperator, isText]
  | presence h isPresent =>
    rw [operand, takeTexts_append h.all (by simp [isPresent])]
    simp [notEmpty h, isPresent]
  | constant h next =>
    simp only [List.mem_cons, List.not_mem_nil, or_false, not_or] at next
    rw [operand, takeTexts_append h.all next.1]
    cases rest with
    | nil => simp [notEmpty h]
    | cons token rest =>
      simp only [headKind?_cons, Option.some.injEq] at next
      simp [notEmpty h, next.2.1, next.2.2]

theorem reads_of_operand (h : operand tokens = .ok (phrase, rest)) :
    ReadsOperand tokens phrase rest := by
  obtain ⟨texts, after, rfl, all, next⟩ := exists_texts tokens
  unfold operand at h
  rw [takeTexts_append all next] at h
  by_cases empty : texts = []
  · simp [empty] at h
  · have ht : Texts texts := ⟨empty, all⟩
    simp only [List.isEmpty_iff, empty, if_false, beq_iff_eq] at h
    split at h
    · next operator more =>
      split at h
      · next isOperator =>
        split at h
        · next value later =>
          split at h
          · next isText =>
            cases h
            exact .operation ht isOperator isText
          · cases h
        · cases h
      · next notOperator =>
        split at h
        · next isPresent =>
          cases h
          exact .presence ht isPresent
        · next notPresent =>
          cases h
          refine .constant ht ?_
          have notText : operator.kind ≠ .text := fun same => next (congrArg some same)
          simp [notText, notOperator, notPresent]
    · cases h
      exact .constant ht (by simp)

/-- The parser finds the operand that the grammar derives. -/
theorem operand_eq_ok_iff : operand tokens = .ok (phrase, rest) ↔ ReadsOperand tokens phrase rest :=
  ⟨reads_of_operand, operand_of_reads⟩

/-! ## Expressions -/

/-- Tokens that begin with an expression: one operand where no separator follows, two operands with
a separator between them, an expression in parentheses, or a negated one. -/
inductive ReadsExpression : List Token → Phrase → List Token → Prop
  | single {tokens rest : List Token} {only : Phrase} (h : ReadsOperand tokens only rest)
      (next : headKind? rest ≠ some .separator) :
      ReadsExpression tokens (group .expression [only]) rest
  | joined {tokens more rest : List Token} {separator : Token} {left right : Phrase}
      (first : ReadsOperand tokens left (separator :: more))
      (isSeparator : separator.kind = .separator) (second : ReadsOperand more right rest) :
      ReadsExpression tokens (group .expression [left, separator.phrase, right]) rest
  | parenthesized {tokens rest : List Token} {opening close : Token} {inner : Phrase}
      (isOpening : opening.kind = .opening) (h : ReadsExpression tokens inner (close :: rest))
      (isClosing : close.kind = .closing) :
      ReadsExpression (opening :: tokens) (group .parenthesized [inner]) rest
  | negation {tokens rest : List Token} {mark : Token} {inner : Phrase}
      (isNegate : mark.kind = .negate) (h : ReadsExpression tokens inner rest) :
      ReadsExpression (mark :: tokens) (group .negation [mark.phrase, inner]) rest

/-- Tokens that are made of expressions. -/
inductive ReadsExpressions : List Token → List Phrase → Prop
  | nil : ReadsExpressions [] []
  | cons {tokens rest : List Token} {phrase : Phrase} {phrases : List Phrase}
      (first : ReadsExpression tokens phrase rest) (later : ReadsExpressions rest phrases) :
      ReadsExpressions tokens (phrase :: phrases)

/-- An operand begins with a text. -/
theorem ReadsOperand.head (h : ReadsOperand tokens phrase rest) :
    ∃ token more, tokens = token :: more ∧ token.kind = .text := by
  have ofTexts {texts : List Token} (h : Texts texts) (after : List Token) :
      ∃ token more, texts ++ after = token :: more ∧ token.kind = .text := by
    obtain ⟨token, more, rfl⟩ := List.exists_cons_of_ne_nil h.nonempty
    exact ⟨token, more ++ after, rfl, h.all token List.mem_cons_self⟩
  cases h with
  | operation h => exact ofTexts h _
  | presence h => exact ofTexts h _
  | constant h => exact ofTexts h _

theorem ReadsOperand.headKind?_eq (h : ReadsOperand tokens phrase rest) :
    headKind? tokens = some .text := by
  obtain ⟨token, more, rfl, isText⟩ := h.head
  exact congrArg some isText

theorem expression_of_reads (h : ReadsExpression tokens phrase rest) :
    expression tokens = .ok (phrase, rest) := by
  induction h with
  | @single tokens rest only h next =>
    obtain ⟨token, more, rfl, isText⟩ := h.head
    simp only [expression, isText]
    rw [operands, operand_of_reads h]
    cases rest with
    | nil => rfl
    | cons token rest =>
      have other : token.kind ≠ .separator := fun same => next (congrArg some same)
      simp [bind, Except.bind, other, pure, Except.pure]
  | joined first isSeparator second =>
    obtain ⟨token, more, rfl, isText⟩ := first.head
    simp only [expression, isText]
    rw [operands, operand_of_reads first]
    simp [bind, Except.bind, isSeparator, operand_of_reads second, pure, Except.pure]
  | parenthesized isOpening h isClosing ih =>
    simp [expression, isOpening, ih, bind, Except.bind, closing, isClosing]
  | negation isNegate h ih =>
    simp [expression, isNegate, ih, Except.map]

theorem reads_of_operands (h : operands tokens = .ok (phrase, rest)) :
    ReadsExpression tokens phrase rest := by
  unfold operands at h
  cases first : operand tokens with
  | error fault =>
    rw [first] at h
    cases h
  | ok left =>
    obtain ⟨left, after⟩ := left
    rw [first] at h
    simp only [bind, Except.bind] at h
    split at h
    · next separator more =>
      split at h
      · next isSeparator =>
        cases second : operand more with
        | error fault =>
          rw [second] at h
          cases h
        | ok right =>
          rw [second] at h
          cases h
          exact .joined (reads_of_operand first) isSeparator (reads_of_operand second)
      · next other =>
        cases h
        exact .single (reads_of_operand first) fun same => other (Option.some.inj same)
    · cases h
      exact .single (reads_of_operand first) (by simp)

theorem reads_of_expression (h : expression tokens = .ok (phrase, rest)) :
    ReadsExpression tokens phrase rest := by
  induction tokens generalizing phrase rest with
  | nil => cases h
  | cons token tokens ih =>
    rw [expression] at h
    split at h
    · next isOpening =>
      cases inside : expression tokens with
      | error fault =>
        rw [inside] at h
        cases h
      | ok inner =>
        obtain ⟨inner, after⟩ := inner
        rw [inside] at h
        simp only [bind, Except.bind] at h
        cases after with
        | nil => cases h
        | cons close after =>
          rw [closing] at h
          split at h
          · next isClosing =>
            cases h
            exact .parenthesized isOpening (ih inside) isClosing
          · cases h
    · next isNegate =>
      cases inside : expression tokens with
      | error fault =>
        rw [inside] at h
        cases h
      | ok inner =>
        rw [inside] at h
        cases h
        exact .negation isNegate (ih inside)
    · exact reads_of_operands h
    · cases h

/-- The parser finds the expression that the grammar derives. -/
theorem expression_eq_ok_iff :
    expression tokens = .ok (phrase, rest) ↔ ReadsExpression tokens phrase rest :=
  ⟨reads_of_expression, expression_of_reads⟩

/-- Tokens begin with one operand at most. -/
theorem ReadsOperand.unique {other : Phrase} {after : List Token}
    (h : ReadsOperand tokens phrase rest) (h' : ReadsOperand tokens other after) :
    phrase = other ∧ rest = after := by
  have same := (operand_of_reads h).symm.trans (operand_of_reads h')
  exact Prod.mk.inj (Except.ok.inj same)

/-- Tokens begin with one expression at most. -/
theorem ReadsExpression.unique {other : Phrase} {after : List Token}
    (h : ReadsExpression tokens phrase rest) (h' : ReadsExpression tokens other after) :
    phrase = other ∧ rest = after := by
  have same := (expression_of_reads h).symm.trans (expression_of_reads h')
  exact Prod.mk.inj (Except.ok.inj same)

/-- An expression that begins with a text is one operand, or two. -/
theorem ReadsExpression.operands (h : ReadsExpression tokens phrase rest)
    (text : headKind? tokens = some .text) :
    (∃ only, ReadsOperand tokens only rest ∧ headKind? rest ≠ some .separator ∧
      phrase = group .expression [only]) ∨
    ∃ left separator right more, ReadsOperand tokens left (separator :: more) ∧
      separator.kind = .separator ∧ ReadsOperand more right rest ∧
      phrase = group .expression [left, separator.phrase, right] := by
  cases h with
  | single h next => exact .inl ⟨_, h, next, rfl⟩
  | joined first isSeparator second => exact .inr ⟨_, _, _, _, first, isSeparator, second, rfl⟩
  | parenthesized isOpening => simp [isOpening] at text
  | negation isNegate => simp [isNegate] at text

/-! ## Filters -/

theorem ReadsExpression.nonempty (h : ReadsExpression tokens phrase rest) : tokens ≠ [] := by
  cases h with
  | single h =>
    obtain ⟨token, more, rfl, -⟩ := h.head
    exact List.cons_ne_nil token more
  | joined h =>
    obtain ⟨token, more, rfl, -⟩ := h.head
    exact List.cons_ne_nil token more
  | parenthesized => exact List.cons_ne_nil _ _
  | negation => exact List.cons_ne_nil _ _

theorem expressions_cons (h : ReadsExpression tokens phrase rest) :
    expressions tokens = (expressions rest).map (phrase :: ·) := by
  rw [expressions, if_neg (by simpa using h.nonempty)]
  split
  · next fault failed =>
    rw [expression_of_reads h] at failed
    cases failed
  · next found after succeeded =>
    rw [expression_of_reads h] at succeeded
    cases succeeded
    rfl

theorem expressions_eq_ok_iff {phrases : List Phrase} :
    expressions tokens = .ok phrases ↔ ReadsExpressions tokens phrases := by
  constructor
  · intro h
    induction phrases generalizing tokens with
    | nil =>
      rw [expressions] at h
      split at h
      · next empty =>
        rw [List.isEmpty_iff.mp empty]
        exact .nil
      · split at h
        · cases h
        · next found rest _ =>
          cases later : expressions rest <;> rw [later] at h <;> cases h
    | cons phrase phrases ih =>
      rw [expressions] at h
      split at h
      · cases h
      · split at h
        · cases h
        · next found rest succeeded =>
          cases later : expressions rest with
          | error fault =>
            rw [later] at h
            cases h
          | ok others =>
            rw [later] at h
            cases h
            exact .cons (reads_of_expression succeeded) (ih later)
  · intro h
    induction h with
    | nil => rw [expressions, List.isEmpty_nil, if_pos rfl]
    | cons first later ih =>
      rw [expressions_cons first, ih]
      rfl

/-- The parser finds the filter that the grammar derives. -/
theorem ofTokens_eq_ok_iff :
    ofTokens tokens = .ok phrase ↔
      tokens ≠ [] ∧ ∃ phrases, ReadsExpressions tokens phrases ∧ phrase = group .root phrases := by
  rw [ofTokens]
  by_cases empty : tokens = []
  · simp [empty]
  · simp only [List.isEmpty_iff, empty, if_false, ← expressions_eq_ok_iff]
    cases expressions tokens with
    | error fault => simp [Except.map]
    | ok phrases => simp [Except.map, empty, eq_comm]

end Phrase
end EventSieve.Filter
