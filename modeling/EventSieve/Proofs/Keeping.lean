import EventSieve.Proofs.Writing
import Mathlib.Algebra.GroupWithZero.Nat

/-!
# What filters keep of their tokens

Two quantities are followed from the tokens of a filter to its comparisons. The ink of the texts
is kept, in its order. And no comparison is written with more texts than it was read from; an
operand of two texts or more, or an empty pattern, is written with less.

## Main definitions

* `ink` — the characters of an operand, apart from blanks and stars
* `textsIn` — the number of texts among tokens
* `Keeps` — what comparisons keep of the tokens that they are read from
* `KeepsOperand` — what a comparison keeps of its operand

## Main statements

* `ReadsOperand.kept`, `ReadsExpression.kept`, `ReadsExpressions.kept` — what is read keeps its
  tokens
* `ReadsOperand.textsIn_lt` — an operand of two texts or more is written with less
-/
namespace EventSieve

open EventSieve.Filter (Token Phrase headKind?)
open EventSieve.Filter.Phrase (group ReadsOperand ReadsExpression ReadsExpressions Texts)

/-! ## Ink -/

/-- The characters of an operand, apart from blanks and stars. Blanks may come and go at its ends,
and the star of a pattern may be written or left out. -/
def ink (cs : List Char) : List Char :=
  cs.filter fun c => !Text.isBlank c && c != '*'

@[simp] theorem ink_nil : ink [] = [] := rfl

theorem ink_append (one other : List Char) : ink (one ++ other) = ink one ++ ink other :=
  List.filter_append one other

theorem ink_trimStart (cs : List Char) : ink (Text.trimStart cs) = ink cs := by
  induction cs with
  | nil => rfl
  | cons c cs ih =>
    by_cases blank : Text.isBlank c = true
    · have drop : Text.trimStart (c :: cs) = Text.trimStart cs := by
        rw [Text.trimStart, List.dropWhile_cons, blank]
        rfl
      have pale : ink (c :: cs) = ink cs := by
        rw [ink, List.filter_cons, blank]
        rfl
      rw [drop, pale, ih]
    · rw [Text.trimStart_cons (Bool.eq_false_iff.mpr blank)]

theorem ink_reverse (cs : List Char) : ink cs.reverse = (ink cs).reverse :=
  List.filter_reverse

/-- Blanks at the ends hold no ink. -/
@[simp] theorem ink_trimChars (cs : List Char) : ink (Text.trimChars cs) = ink cs := by
  have back : Text.trimEnd (Text.trimStart cs) =
      (Text.trimStart (Text.trimStart cs).reverse).reverse := rfl
  rw [Text.trimChars, back, ink_reverse, ink_trimStart, ink_reverse, List.reverse_reverse,
    ink_trimStart]

/-- Words hold the ink of the text that they are joined to. -/
theorem ink_joinWords (words : List (List Char)) : ink (joinWords words) = words.flatMap ink := by
  induction words with
  | nil => rfl
  | cons word words ih =>
    cases words with
    | nil => simp [joinWords]
    | cons next words =>
      rw [joinWords, ink_append, List.flatMap_cons, ← ih]
      · rfl
      · exact List.cons_ne_nil next words

/-- The ink of a phrase that is a text. -/
def Filter.Phrase.ink (phrase : Phrase) : List Char :=
  EventSieve.ink (unquote phrase.text)

theorem ink_of_joinTexts? {phrases : List Phrase} {text : String}
    (h : joinTexts? phrases = some text) : ink text.toList = phrases.flatMap Phrase.ink := by
  rw [joinTexts?] at h
  split at h
  · cases h
  · cases h
    rw [String.toList_ofList, ink_trimChars, ink_joinWords, List.flatMap_map]
    rfl

/-- The ink of a comparison. -/
def Comparison.ink (comparison : Comparison) : List Char :=
  EventSieve.ink comparison.field.toList ++ EventSieve.ink (comparison.value.getD "").toList

/-- The ink of the texts among some tokens. -/
def tokenInk (tokens : List Token) : List Char :=
  tokens.flatMap fun token => if token.kind = .text then token.phrase.ink else []

theorem tokenInk_cons (token : Token) (rest : List Token) :
    tokenInk (token :: rest) =
      (if token.kind = .text then token.phrase.ink else []) ++ tokenInk rest := rfl

theorem tokenInk_append (one other : List Token) :
    tokenInk (one ++ other) = tokenInk one ++ tokenInk other :=
  List.flatMap_append

/-! ## Texts -/

/-- The number of texts among some tokens. -/
def textsIn (tokens : List Token) : Nat :=
  tokens.countP (·.kind == .text)

/-- The number of texts that a comparison is written with. -/
def Comparison.textCount (comparison : Comparison) : Nat :=
  if comparison.isPattern then 1 else if comparison.operator.takesValue then 2 else 1

theorem textsIn_cons (token : Token) (rest : List Token) :
    textsIn (token :: rest) = textsIn rest + if token.kind = .text then 1 else 0 := by
  rw [textsIn, List.countP_cons]
  simp [textsIn]

theorem textsIn_append (texts rest : List Token) :
    textsIn (texts ++ rest) = textsIn texts + textsIn rest :=
  List.countP_append

section Texts

variable {texts : List Token}

theorem textsIn_texts (h : Texts texts) : textsIn texts = texts.length :=
  List.countP_eq_length.mpr fun token mem => by rw [h.all token mem]; rfl

theorem tokenInk_texts (h : Texts texts) :
    tokenInk texts = (texts.map Token.phrase).flatMap Phrase.ink := by
  rw [tokenInk, List.flatMap_map]
  exact List.flatMap_congr fun token mem => if_pos (h.all token mem)

theorem length_pos (h : Texts texts) : 0 < texts.length :=
  List.length_pos_iff.mpr h.nonempty

end Texts

/-! ## Comparisons of operations -/

theorem isOperatorPhrase_texts {texts : List Token} (h : Texts texts) :
    ∀ phrase ∈ texts.map Token.phrase, isOperatorPhrase phrase = false := by
  intro phrase mem
  obtain ⟨token, inside, rfl⟩ := List.mem_map.mp mem
  show (token.kind.phraseKind == .operator || token.kind.phraseKind == .present) = false
  rw [h.all token inside]
  rfl

theorem isOperatorPhrase_mark {mark : Token}
    (isMark : mark.kind = .operator ∨ mark.kind = .present) :
    isOperatorPhrase mark.phrase = true := by
  show (mark.kind.phraseKind == .operator || mark.kind.phraseKind == .present) = true
  rcases isMark with isMark | isMark <;> rw [isMark] <;> rfl

namespace Comparison

variable {texts : List Token} {comparison : Comparison}

/-- The comparison of texts, an operator and texts. -/
theorem ofOperation?_texts {mark : Token} {right : List Phrase} (h : Texts texts)
    (isMark : mark.kind = .operator ∨ mark.kind = .present)
    (read : ofOperation? (texts.map Token.phrase ++ mark.phrase :: right) = some comparison) :
    joinTexts? (texts.map Token.phrase) = some comparison.field ∧
      (comparison.operator.takesValue = true ∧
        (∃ value, comparison.value = some value ∧ joinTexts? right = some value) ∨
      comparison.operator.takesValue = false ∧ comparison.value = none ∧ right = []) := by
  rw [ofOperation?_eq (isOperatorPhrase_texts h) (isOperatorPhrase_mark isMark)] at read
  obtain ⟨operator, known, read⟩ := Option.bind_eq_some_iff.mp read
  obtain ⟨field, spelled, read⟩ := Option.bind_eq_some_iff.mp read
  by_cases takesValue : operator.takesValue = true
  · rw [if_pos takesValue] at read
    obtain ⟨value, spelledValue, read⟩ := Option.bind_eq_some_iff.mp read
    cases read
    exact ⟨spelled, .inl ⟨takesValue, value, rfl, spelledValue⟩⟩
  · rw [if_neg takesValue] at read
    split at read
    · next empty =>
      cases read
      exact ⟨spelled, .inr ⟨Bool.eq_false_iff.mpr takesValue, rfl, List.isEmpty_iff.mp empty⟩⟩
    · cases read

theorem joinTexts?_of_ofConstant? {text pattern : String} {children : List Phrase}
    (nonempty : children ≠ []) (h : ofConstant? text children = some (anywhere pattern)) :
    joinTexts? children = some pattern := by
  rw [ofConstant?_eq, if_neg (by simpa using nonempty)] at h
  obtain ⟨spelled, read, h⟩ := Option.bind_eq_some_iff.mp h
  rw [trim_of_joinTexts? read] at h
  split at h
  · cases h
  · cases h
    exact read

theorem ink_anywhere (pattern : String) :
    (anywhere pattern).ink = EventSieve.ink pattern.toList := by
  have star : EventSieve.ink anyField.toList = [] := by decide
  show EventSieve.ink anyField.toList ++ EventSieve.ink pattern.toList = _
  rw [star, List.nil_append]

theorem textCount_of_takesValue (h : comparison.operator.takesValue = false) :
    comparison.isPattern = false ∧ comparison.textCount = 1 := by
  have notPattern : comparison.isPattern = false := by
    rw [Bool.eq_false_iff]
    intro pattern
    rw [(isPattern_iff.mp pattern).2] at h
    cases h
  rw [textCount, notPattern, h]
  exact ⟨rfl, rfl⟩

end Comparison

/-! ## What is kept -/

/-- The number of texts that comparisons are written with. -/
def writtenTexts (comparisons : List Comparison) : Nat :=
  (comparisons.map Comparison.textCount).sum

/-- What comparisons keep of the tokens that they are read from, up to the rest of the tokens: all
ink. They are written with no more texts, and with less if one of them is an empty pattern. -/
structure Keeps (comparisons : List Comparison) (tokens rest : List Token) : Prop where
  ink : tokenInk tokens = comparisons.flatMap Comparison.ink ++ tokenInk rest
  texts_le : writtenTexts comparisons + textsIn rest ≤ textsIn tokens
  patterns : textsIn tokens = writtenTexts comparisons + textsIn rest →
    ∀ comparison ∈ comparisons, comparison.isPattern = true → comparison.value ≠ some ""

theorem writtenTexts_append (one other : List Comparison) :
    writtenTexts (one ++ other) = writtenTexts one + writtenTexts other := by
  rw [writtenTexts, List.map_append, List.sum_append]
  rfl

theorem writtenTexts_singleton (comparison : Comparison) :
    writtenTexts [comparison] = comparison.textCount :=
  Nat.add_zero _

namespace Keeps

variable {first second : List Comparison} {tokens more rest : List Token} {token : Token}

theorem nil (tokens : List Token) : Keeps [] tokens tokens :=
  ⟨rfl, Nat.le_of_eq (Nat.zero_add _), by simp⟩

/-- A token that is no text may be left out. -/
theorem skip (h : token.kind ≠ .text) : Keeps [] (token :: rest) rest := by
  have count : textsIn (token :: rest) = textsIn rest := by
    rw [textsIn_cons, if_neg h, Nat.add_zero]
  refine ⟨?_, ?_, by simp⟩
  · rw [tokenInk_cons, if_neg h]
    rfl
  · rw [count, writtenTexts, List.map_nil, List.sum_nil, Nat.zero_add]

/-- A single comparison is written with its own texts only. -/
theorem single {comparison : Comparison}
    (ink : tokenInk tokens = comparison.ink ++ tokenInk rest)
    (texts_le : comparison.textCount + textsIn rest ≤ textsIn tokens)
    (pattern : textsIn tokens = comparison.textCount + textsIn rest →
      comparison.isPattern = true → comparison.value ≠ some "") :
    Keeps [comparison] tokens rest := by
  refine ⟨?_, ?_, fun tight other mem => ?_⟩
  · rwa [List.flatMap_singleton]
  · rwa [writtenTexts_singleton]
  · rw [writtenTexts_singleton] at tight
    rw [List.mem_singleton.mp mem]
    exact pattern tight

theorem append (h : Keeps first tokens more) (later : Keeps second more rest) :
    Keeps (first ++ second) tokens rest := by
  have lead := h.texts_le
  have follow := later.texts_le
  refine ⟨?_, ?_, fun tight comparison mem => ?_⟩
  · rw [h.ink, later.ink, List.flatMap_append, List.append_assoc]
  · rw [writtenTexts_append]
    omega
  · rw [writtenTexts_append] at tight
    rcases List.mem_append.mp mem with mem | mem
    · exact h.patterns (by omega) comparison mem
    · exact later.patterns (by omega) comparison mem

end Keeps

/-! ## Operands -/

namespace Filter.Phrase

variable {texts tokens rest : List Token} {phrase : Phrase} {comparison : Comparison}

theorem ofPhrase?_operation (texts : List Token) (operator value : Phrase) :
    Comparison.ofPhrase? (group (if texts.length = 1 then .operation else .compoundOperation)
      (texts.map Token.phrase ++ [operator, value])) =
      Comparison.ofOperation? (texts.map Token.phrase ++ [operator, value]) := by
  split
  · next single =>
    exact if_pos (by simp [group, children, single])
  · rfl

theorem ofPhrase?_presence (texts : List Token) (mark : Phrase) :
    Comparison.ofPhrase? (group (if texts.length = 1 then .presentOperation else .compoundPresent)
      (texts.map Token.phrase ++ [mark])) =
      Comparison.ofOperation? (texts.map Token.phrase ++ [mark]) := by
  split
  · next single =>
    exact if_pos (by simp [group, children, single])
  · rfl

/-- After a single text no text follows if none follows the texts. -/
theorem headKind?_tail (h : texts.length = 1) (next : headKind? rest ≠ some .text) :
    headKind? (texts ++ rest).tail ≠ some .text := by
  obtain ⟨token, rfl⟩ := List.length_eq_one_iff.mp h
  exact next

/-- What a comparison keeps of an operand. It is written with less texts if the operand begins with
two texts. -/
structure KeepsOperand (comparison : Comparison) (tokens rest : List Token) : Prop
    extends Keeps [comparison] tokens rest where
  tail : textsIn tokens = comparison.textCount + textsIn rest → headKind? tokens.tail ≠ some .text

theorem keepsOperand_operation {operator value : Token} (h : Texts texts)
    (isOperator : operator.kind = .operator) (isText : value.kind = .text)
    (read : Comparison.ofOperation? (texts.map Token.phrase ++ [operator.phrase, value.phrase]) =
      some comparison) :
    KeepsOperand comparison (texts ++ operator :: value :: rest) rest := by
  obtain ⟨field, ⟨takesValue, text, same, spelled⟩ | ⟨-, -, nothing⟩⟩ :=
    Comparison.ofOperation?_texts h (.inl isOperator) read
  · have count : textsIn (texts ++ operator :: value :: rest) =
        texts.length + 1 + textsIn rest := by
      rw [textsIn_append, textsIn_texts h, textsIn_cons, textsIn_cons, isOperator, isText]
      simp [Nat.add_comm, Nat.add_left_comm]
    have own : comparison.textCount = if comparison.isPattern then 1 else 2 := by
      rw [Comparison.textCount, takesValue, if_pos rfl]
    have pos := length_pos h
    -- A pattern that is spelled as an operation has at least one text too many.
    have notPattern (tight : textsIn (texts ++ operator :: value :: rest) =
        comparison.textCount + textsIn rest) : comparison.isPattern = false := by
      rw [count, own] at tight
      split at tight
      · omega
      · next notPattern => exact Bool.eq_false_iff.mpr notPattern
    refine ⟨.single ?_ ?_ fun tight pattern => ?_, fun tight => ?_⟩
    · rw [tokenInk_append, tokenInk_texts h, tokenInk_cons, tokenInk_cons, isOperator, isText,
        Comparison.ink, same, Option.getD_some, ink_of_joinTexts? field,
        ink_of_joinTexts? spelled]
      simp
    · rw [count, own]
      split <;> omega
    · exact absurd pattern (Bool.eq_false_iff.mp (notPattern tight))
    · have single := tight
      rw [count, own, notPattern tight] at single
      simp only [Bool.false_eq_true, if_false] at single
      exact headKind?_tail (by omega) (by simp [isOperator])
  · cases nothing

theorem keepsOperand_presence {mark : Token} (h : Texts texts) (isPresent : mark.kind = .present)
    (read : Comparison.ofOperation? (texts.map Token.phrase ++ [mark.phrase]) = some comparison) :
    KeepsOperand comparison (texts ++ mark :: rest) rest := by
  obtain ⟨field, ⟨-, _, -, spelled⟩ | ⟨takesNone, none, -⟩⟩ :=
    Comparison.ofOperation?_texts h (.inr isPresent) read
  · cases spelled
  · have count : textsIn (texts ++ mark :: rest) = texts.length + textsIn rest := by
      rw [textsIn_append, textsIn_texts h, textsIn_cons, isPresent]
      rfl
    obtain ⟨notPattern, own⟩ := Comparison.textCount_of_takesValue takesNone
    have pos := length_pos h
    refine ⟨.single ?_ ?_ fun _ pattern => ?_, fun tight => ?_⟩
    · rw [tokenInk_append, tokenInk_texts h, tokenInk_cons, isPresent, Comparison.ink, none,
        ink_of_joinTexts? field]
      simp
    · rw [count, own]
      omega
    · exact absurd pattern (Bool.eq_false_iff.mp notPattern)
    · rw [count, own] at tight
      exact headKind?_tail (by omega) (by simp [isPresent])

theorem keepsOperand_constant {text : String} (h : Texts texts)
    (next : headKind? rest ≠ some .text)
    (read : Comparison.ofConstant? text (texts.map Token.phrase) = some comparison) :
    KeepsOperand comparison (texts ++ rest) rest := by
  obtain ⟨pattern, rfl, -, nonempty⟩ := Comparison.anywhere_of_ofConstant? read
  have spelled : joinTexts? (texts.map Token.phrase) = some pattern :=
    Comparison.joinTexts?_of_ofConstant? (by simpa using h.nonempty) read
  have count : textsIn (texts ++ rest) = texts.length + textsIn rest := by
    rw [textsIn_append, textsIn_texts h]
  have own : (Comparison.anywhere pattern).textCount = 1 := rfl
  have pos := length_pos h
  refine ⟨.single ?_ ?_ fun _ _ empty => ?_, fun tight => ?_⟩
  · rw [tokenInk_append, tokenInk_texts h, Comparison.ink_anywhere, ink_of_joinTexts? spelled]
  · rw [count, own]
    omega
  · exact nonempty (Option.some.inj empty)
  · rw [count, own] at tight
    exact headKind?_tail (by omega) next

/-- A comparison keeps the ink of the operand that it is read from, and is written with no more
texts; with less if the operand begins with two texts. -/
theorem ReadsOperand.kept (h : ReadsOperand tokens phrase rest)
    (read : Comparison.ofPhrase? phrase = some comparison) :
    KeepsOperand comparison tokens rest := by
  cases h with
  | operation h isOperator isText =>
    rw [ofPhrase?_operation] at read
    exact keepsOperand_operation h isOperator isText read
  | presence h isPresent =>
    rw [ofPhrase?_presence] at read
    exact keepsOperand_presence h isPresent read
  | constant h next =>
    simp only [List.mem_cons, List.not_mem_nil, or_false, not_or] at next
    exact keepsOperand_constant h next.1 read

/-- An operand of two texts or more is written with less texts. -/
theorem ReadsOperand.textsIn_lt (h : ReadsOperand tokens phrase rest)
    (read : Comparison.ofPhrase? phrase = some comparison)
    (tail : headKind? tokens.tail = some .text) :
    comparison.textCount + textsIn rest < textsIn tokens := by
  have kept := h.kept read
  have texts := kept.texts_le
  rw [writtenTexts_singleton] at texts
  exact lt_of_le_of_ne texts fun same => kept.tail same.symm tail

/-! ## Expressions -/

variable {clause : Clause}

/-- The operands of an expression. -/
theorem ofPhrase?_single {only : Phrase}
    (h : Clause.ofPhrase? (group .expression [only]) = some clause) :
    ∃ left, Comparison.ofPhrase? only = some left ∧ clause = { left } := by
  obtain ⟨left, read, rfl⟩ := Option.map_eq_some_iff.mp h
  exact ⟨left, read, rfl⟩

theorem ofPhrase?_joined {one separator other : Phrase}
    (h : Clause.ofPhrase? (group .expression [one, separator, other]) = some clause) :
    ∃ left connective right, Comparison.ofPhrase? one = some left ∧
      Comparison.ofPhrase? other = some right ∧
      clause = { left, connective := some connective, right := some right } := by
  rcases Clause.ofOperands?_cases h with ⟨_, _, same, -⟩ |
    ⟨_, _, _, left, connective, right, same, readLeft, -, readRight, rfl⟩
  · cases same
  · cases same
    exact ⟨left, connective, right, readLeft, readRight, rfl⟩

theorem ofPhrase?_negation {mark inner : Phrase}
    (h : Clause.ofPhrase? (group .negation [mark, inner]) = some clause) :
    ∃ other, Clause.ofPhrase? inner = some other ∧ clause = other.negate := by
  change (if mark.kind = .negate then (Clause.ofPhrase? inner).map Clause.negate else none) =
    some clause at h
  split at h
  · obtain ⟨other, read, rfl⟩ := Option.map_eq_some_iff.mp h
    exact ⟨other, read, rfl⟩
  · cases h

/-- A clause keeps the ink of the expression that it is read from, and is written with no more
texts. -/
theorem ReadsExpression.kept (h : ReadsExpression tokens phrase rest)
    (read : Clause.ofPhrase? phrase = some clause) : Keeps clause.comparisons tokens rest := by
  induction h generalizing clause with
  | single h next =>
    obtain ⟨left, readLeft, rfl⟩ := ofPhrase?_single read
    exact (h.kept readLeft).toKeeps
  | joined first isSeparator second =>
    obtain ⟨left, connective, right, readLeft, readRight, rfl⟩ := ofPhrase?_joined read
    exact (first.kept readLeft).append
      ((Keeps.skip (by simp [isSeparator])).append (second.kept readRight).toKeeps)
  | @parenthesized tokens rest opening close inner isOpening h isClosing ih =>
    have opens : Keeps [] (opening :: tokens) tokens := .skip (by simp [isOpening])
    have closes : Keeps [] (close :: rest) rest := .skip (by simp [isClosing])
    have kept := (opens.append (ih read)).append closes
    rwa [List.nil_append, List.append_nil] at kept
  | negation isNegate h ih =>
    obtain ⟨inner, readInner, rfl⟩ := ofPhrase?_negation read
    rw [Clause.comparisons_negate]
    exact (Keeps.skip (by simp [isNegate])).append (ih readInner)

/-- Clauses keep the ink of the tokens that they are read from, and are written with no more
texts. -/
theorem ReadsExpressions.kept {phrases : List Phrase} {clauses : List Clause}
    (h : ReadsExpressions tokens phrases)
    (read : phrases.map Clause.ofPhrase? = clauses.map some) :
    Keeps (clauses.flatMap Clause.comparisons) tokens [] := by
  induction h generalizing clauses with
  | nil =>
    rw [List.map_nil, eq_comm, List.map_eq_nil_iff] at read
    rw [read]
    exact .nil []
  | cons first later ih =>
    obtain ⟨clause, clauses, rfl, one, others⟩ := List.map_eq_cons_iff.mp read.symm
    exact (first.kept one.symm).append (ih others.symm)

end Filter.Phrase
end EventSieve
