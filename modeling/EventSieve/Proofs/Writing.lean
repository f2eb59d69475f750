import EventSieve.Proofs.Grammar
import EventSieve.Proofs.Lexing
import EventSieve.Proofs.Operands
import Mathlib.Data.List.Chain

/-!
# Written filters are read back

A filter is written as pieces. Its tokens are those of the pieces, and the parser puts them
together to one phrase for every clause, provided that no clause takes the first text of the next
one for its own.

## Main definitions

* `Filter.IsSafe` — what a filter needs to be read back
* `Filter.pieces` — the pieces of a written filter
* `Filter.phrase` — the tree of a written filter

## Main statements

* `Filter.toList_text` — a filter is written as its pieces
* `Filter.reads` — the tokens of the pieces of a safe filter are read as its tree
* `Filter.compile?_text` — a safe filter is read back
-/
namespace EventSieve

open EventSieve.Filter (Token TokenKind Phrase headKind?)
open EventSieve.Filter.Phrase (group ReadsOperand ReadsExpression ReadsExpressions)

/-! ## Filters that are read back -/

namespace Comparison

/-- A match of any field, which is written as its pattern alone. -/
def isPattern (comparison : Comparison) : Bool :=
  comparison.isAnywhere && comparison.operator == .matches

theorem isPattern_iff {comparison : Comparison} :
    comparison.isPattern = true ↔
      comparison.field = anyField ∧ comparison.operator = .matches := by
  rw [isPattern, Bool.and_eq_true, isAnywhere, beq_iff_eq, beq_iff_eq]

/-- What a comparison needs to be read back: its operands end where they seem to, and it is no
empty pattern. -/
structure IsSafe (comparison : Comparison) : Prop where
  field_closes : Closes comparison.field.toList
  value_closes : ∀ value ∈ comparison.value, Closes value.toList
  pattern_nonempty : comparison.isPattern = true → comparison.value ≠ some ""

instance (comparison : Comparison) : Decidable comparison.IsSafe :=
  decidable_of_iff (Closes comparison.field.toList ∧
      (∀ value ∈ comparison.value, Closes value.toList) ∧
      (comparison.isPattern = true → comparison.value ≠ some ""))
    ⟨fun ⟨h1, h2, h3⟩ => ⟨h1, h2, h3⟩, fun ⟨h1, h2, h3⟩ => ⟨h1, h2, h3⟩⟩

end Comparison

namespace Clause

/-- The last comparison of a clause. -/
def last (clause : Clause) : Comparison :=
  clause.right.getD clause.left

/-- A pattern at the end of a clause takes the first text of the next clause for its own. -/
def RunsInto (clause next : Clause) : Prop :=
  clause.negated = false ∧ clause.last.isPattern = true ∧ next.negated = false

instance (clause next : Clause) : Decidable (clause.RunsInto next) :=
  inferInstanceAs (Decidable (_ ∧ _))

end Clause

namespace Filter

/-- What a filter needs to be read back. -/
structure IsSafe (filter : Filter) : Prop where
  comparisons : ∀ comparison ∈ filter.comparisons, comparison.IsSafe
  apart : filter.clauses.IsChain fun clause next => ¬clause.RunsInto next

instance (filter : Filter) : Decidable filter.IsSafe :=
  decidable_of_iff ((∀ comparison ∈ filter.comparisons, comparison.IsSafe) ∧
      filter.clauses.IsChain fun clause next => ¬clause.RunsInto next)
    ⟨fun ⟨h1, h2⟩ => ⟨h1, h2⟩, fun ⟨h1, h2⟩ => ⟨h1, h2⟩⟩

end Filter

/-! ## Pieces -/

/-- The pieces of a comparison. -/
def Comparison.pieces (comparison : Comparison) : List Piece :=
  let value : Piece := .operand (comparison.value.getD "").toList
  if comparison.isPattern then [value]
  else
    .operand comparison.field.toList :: .blank ::
      .mark comparison.operator.kind comparison.operator.token.toList ::
        if comparison.operator.takesValue then [.blank, value] else []

namespace Clause

/-- The pieces of a clause, apart from its negation. -/
def innerPieces (clause : Clause) : List Piece :=
  clause.left.pieces ++
    match clause.connective, clause.right with
    | some connective, some right =>
      .blank :: .mark .separator connective.token.toList :: .blank :: right.pieces
    | _, _ => []

/-- The pieces of a clause. -/
def pieces (clause : Clause) : List Piece :=
  if clause.negated then
    .mark .negate ['!'] :: .mark .opening ['('] ::
      (clause.innerPieces ++ [.mark .closing [')']])
  else clause.innerPieces

end Clause

/-- Pieces with a blank between them. -/
def joinPieces : List (List Piece) → List Piece
  | [] => []
  | [pieces] => pieces
  | pieces :: rest => pieces ++ .blank :: joinPieces rest

/-- The pieces of a filter. -/
def Filter.pieces (filter : Filter) : List Piece :=
  joinPieces (filter.clauses.map Clause.pieces)

/-- A comparison is written as its pieces. -/
theorem Comparison.toList_text {comparison : Comparison} (h : comparison.negated = false) :
    comparison.text.toList = written comparison.pieces := by
  rw [text, pieces, isPattern, h]
  by_cases pattern : (comparison.isAnywhere && comparison.operator == .matches) = true
  · simp [pattern, written, quoted, Piece.chars]
  · by_cases takesValue : comparison.operator.takesValue = true
    · simp [pattern, takesValue, written, quoted, Piece.chars]
    · simp [pattern, takesValue, written, quoted, Piece.chars]

/-- A clause is written as its pieces. -/
theorem Clause.toList_text {clause : Clause}
    (h : ∀ comparison ∈ clause.comparisons, comparison.negated = false) :
    clause.text.toList = written clause.pieces := by
  have left := Comparison.toList_text (h clause.left List.mem_cons_self)
  cases clause with
  | single one negated =>
    cases negated <;> simp [text, pieces, innerPieces, left, written, Piece.chars]
  | joined one connective other negated =>
    have right := Comparison.toList_text (h other (by simp [comparisons]))
    cases negated <;> simp [text, pieces, innerPieces, left, right, written, Piece.chars]

theorem written_joinPieces (parts : List (List Piece)) :
    written (joinPieces parts) = [' '].intercalate (parts.map written) := by
  induction parts with
  | nil => rfl
  | cons part parts ih =>
    cases parts with
    | nil => simp [joinPieces]
    | cons next parts =>
      rw [joinPieces, written_append, written_cons, ih]
      · simp [Piece.chars]
      · exact List.cons_ne_nil next parts

/-- What reads pieces one after another, and nothing from a blank, reads joined pieces part by
part. -/
theorem joinPieces_flatMap {α : Type} (read : List Piece → List α)
    (append : ∀ one other, read (one ++ other) = read one ++ read other)
    (skip : read [.blank] = []) (parts : List (List Piece)) :
    read (joinPieces parts) = parts.flatMap read := by
  have nothing : read [] = [] := List.self_eq_append_left.mp (append [] [])
  induction parts with
  | nil => exact nothing
  | cons part parts ih =>
    cases parts with
    | nil => rw [joinPieces, List.flatMap_singleton]
    | cons next parts =>
      rw [joinPieces, append, List.flatMap_cons, ← ih]
      · rw [← List.singleton_append, append, skip, List.nil_append]
      · exact List.cons_ne_nil next parts

/-- A filter is written as its pieces. -/
theorem Filter.toList_text {filter : Filter} (read : filter.IsRead) :
    filter.text.toList = written filter.pieces := by
  have each : filter.clauses.map (String.toList ∘ Clause.text) =
      filter.clauses.map (written ∘ Clause.pieces) :=
    List.map_congr_left fun clause mem => Clause.toList_text fun comparison inside =>
      (read.comparisons comparison (List.mem_flatMap.mpr ⟨clause, mem, inside⟩)).notNegated
  rw [text, read.notNegated, pieces, written_joinPieces, List.map_map, ← each]
  simp

/-! ## Spacing -/

/-- The pieces of a comparison do not run into each other. -/
theorem Comparison.spaced {comparison : Comparison} {rest : List Piece}
    (gap : Gap (written rest)) (later : Spaced rest) : Spaced (comparison.pieces ++ rest) := by
  rw [pieces]
  by_cases pattern : comparison.isPattern = true
  · rw [if_pos pattern]
    exact .operand gap later
  · rw [if_neg pattern]
    by_cases takesValue : comparison.operator.takesValue = true
    · rw [if_pos takesValue]
      exact .operand (.blank _) (.blank (.mark comparison.operator.kind_ne_text
        (isMark_operator _ (Gap.blank _).stopsWord) (.blank (.operand gap later))))
    · rw [if_neg takesValue]
      exact .operand (.blank _) (.blank (.mark comparison.operator.kind_ne_text
        (isMark_operator _ gap.stopsWord) later))

namespace Clause

theorem spaced_inner {clause : Clause} {rest : List Piece} (gap : Gap (written rest))
    (later : Spaced rest) : Spaced (clause.innerPieces ++ rest) := by
  rw [innerPieces, List.append_assoc]
  cases clause with
  | single => exact Comparison.spaced gap later
  | joined =>
    exact Comparison.spaced (.blank _) (.blank (.mark (by decide) (isMark_connective _)
      (.blank (Comparison.spaced gap later))))

/-- The pieces of a clause do not run into each other. -/
theorem spaced {clause : Clause} {rest : List Piece} (gap : Gap (written rest))
    (later : Spaced rest) : Spaced (clause.pieces ++ rest) := by
  rw [pieces]
  split
  · have inner : Spaced (clause.innerPieces ++ .mark .closing [')'] :: rest) :=
      spaced_inner (.closing _) (.mark (by decide) isMark_closing later)
    rw [List.cons_append, List.cons_append, List.append_assoc]
    exact .mark (by decide) (isMark_negate (.opening _))
      (.mark (by decide) isMark_opening inner)
  · exact spaced_inner gap later

end Clause

/-- The pieces of a filter do not run into each other. -/
theorem Filter.spaced (filter : Filter) : Spaced filter.pieces := by
  rw [pieces]
  induction filter.clauses with
  | nil => exact .nil
  | cons clause clauses ih =>
    cases clauses with
    | nil =>
      have alone : Spaced (clause.pieces ++ []) := Clause.spaced .nil .nil
      rwa [List.append_nil] at alone
    | cons next clauses => exact Clause.spaced (.blank _) (.blank ih)

/-! ## Operands -/

/-- The operands of a comparison close if its field and its value do. -/
theorem Comparison.closes_iff {comparison : Comparison} (read : comparison.IsRead) :
    (∀ text, .operand text ∈ comparison.pieces → Closes text) ↔
      Closes comparison.field.toList ∧ ∀ value ∈ comparison.value, Closes value.toList := by
  rw [pieces]
  by_cases pattern : comparison.isPattern = true
  · have star : Closes anyField.toList := by decide
    obtain ⟨anywhere, isMatch⟩ := isPattern_iff.mp pattern
    obtain ⟨value, same⟩ := read.exists_value (by rw [isMatch]; rfl)
    simp [pattern, anywhere, star, same]
  · by_cases takesValue : comparison.operator.takesValue = true
    · obtain ⟨value, same⟩ := read.exists_value takesValue
      simp [pattern, takesValue, same]
    · simp [pattern, takesValue, read.value_eq_none takesValue]

theorem Clause.operand_mem_pieces {clause : Clause} {text : List Char} :
    .operand text ∈ clause.pieces ↔
      ∃ comparison ∈ clause.comparisons, .operand text ∈ comparison.pieces := by
  cases clause with
  | single left negated => cases negated <;> simp [pieces, innerPieces, comparisons]
  | joined left connective right negated =>
    cases negated <;> simp [pieces, innerPieces, comparisons]

theorem mem_joinPieces {piece : Piece} (visible : piece ≠ .blank) (parts : List (List Piece)) :
    piece ∈ joinPieces parts ↔ ∃ part ∈ parts, piece ∈ part := by
  induction parts with
  | nil => simp [joinPieces]
  | cons part parts ih =>
    cases parts with
    | nil => simp [joinPieces]
    | cons next parts => simp [joinPieces, visible, ih]

theorem Filter.operand_mem_pieces {filter : Filter} {text : List Char} :
    .operand text ∈ filter.pieces ↔
      ∃ comparison ∈ filter.comparisons, .operand text ∈ comparison.pieces := by
  rw [pieces, mem_joinPieces (by simp)]
  simp only [List.mem_map, exists_exists_and_eq_and, Clause.operand_mem_pieces, comparisons,
    List.mem_flatMap]
  constructor
  · rintro ⟨clause, mem, comparison, inside, there⟩
    exact ⟨comparison, ⟨clause, mem, inside⟩, there⟩
  · rintro ⟨comparison, ⟨clause, mem, inside⟩, there⟩
    exact ⟨clause, mem, comparison, inside, there⟩

/-! ## Tokens -/

theorem shapes_joinPieces (parts : List (List Piece)) :
    shapes (joinPieces parts) = parts.flatMap shapes :=
  joinPieces_flatMap shapes shapes_append rfl parts

/-- The phrase of a token, by its shape. -/
theorem Filter.Token.phrase_of_shape {token : Token} {kind : TokenKind} {text : String}
    (h : (kind, text) = token.shape) : token.phrase = .token kind.phraseKind text := by
  cases h
  rfl

/-! ## Phrases -/

/-- The phrase of an operand. -/
def operandPhrase (text : String) : Phrase :=
  .token .text (String.ofList (operandToken text.toList))

/-- The phrase of a comparison. -/
def Comparison.phrase (comparison : Comparison) : Phrase :=
  let value := operandPhrase (comparison.value.getD "")
  if comparison.isPattern then group .constant [value]
  else if comparison.operator.takesValue then
    group .operation
      [operandPhrase comparison.field, .token .operator comparison.operator.token, value]
  else
    group .presentOperation
      [operandPhrase comparison.field, .token .present comparison.operator.token]

/-- The phrase of a clause, apart from its negation. -/
def Clause.innerPhrase (clause : Clause) : Phrase :=
  group .expression <|
    match clause.connective, clause.right with
    | some connective, some right =>
      [clause.left.phrase, .token .separator connective.token, right.phrase]
    | _, _ => [clause.left.phrase]

/-- The phrase of a clause. -/
def Clause.phrase (clause : Clause) : Phrase :=
  if clause.negated then
    group .negation [.token .negate "!", group .parenthesized [clause.innerPhrase]]
  else clause.innerPhrase

/-- The tree of a filter. -/
def Filter.phrase (filter : Filter) : Phrase :=
  group .root (filter.clauses.map Clause.phrase)

/-! ## Parsing -/

section Parsing

variable {tokens rest : List Token}

/-- A text is what stands for an operand. -/
theorem Filter.Token.operand_of_shape {token : Token} {text : String}
    (h : token.shape = (.text, String.ofList (operandToken text.toList))) :
    token.kind = .text ∧ token.phrase = operandPhrase text :=
  ⟨congrArg Prod.fst h, token.phrase_of_shape h.symm⟩

theorem texts_singleton {token : Token} (h : token.kind = .text) : Phrase.Texts [token] :=
  ⟨List.cons_ne_nil token [], fun _ mem => List.mem_singleton.mp mem ▸ h⟩

/-- The tokens of a comparison are read as its phrase. Only a pattern would take more texts for its
own. -/
theorem Comparison.reads {comparison : Comparison}
    (h : tokens.map Token.shape = shapes comparison.pieces)
    (next : comparison.isPattern = true →
      headKind? rest ∉ [some .text, some .operator, some .present]) :
    ReadsOperand (tokens ++ rest) comparison.phrase rest := by
  rw [pieces] at h
  rw [phrase]
  by_cases pattern : comparison.isPattern = true
  · rw [if_pos pattern] at h ⊢
    obtain ⟨value, rfl, first⟩ := List.map_eq_singleton_iff.mp h
    obtain ⟨isText, same⟩ := Token.operand_of_shape first
    rw [← same]
    exact .constant (texts_singleton isText) (next pattern)
  · rw [if_neg pattern] at h ⊢
    obtain ⟨field, later, rfl, first, h⟩ := List.map_eq_cons_iff.mp h
    obtain ⟨mark, later, rfl, second, h⟩ := List.map_eq_cons_iff.mp h
    obtain ⟨isText, sameField⟩ := Token.operand_of_shape first
    have isMark : mark.kind = comparison.operator.kind := congrArg Prod.fst second
    have sameMark : mark.phrase = .token comparison.operator.kind.phraseKind
        comparison.operator.token := by
      rw [Token.phrase_of_shape second.symm, String.ofList_toList]
    by_cases takesValue : comparison.operator.takesValue = true
    · have isOperator : comparison.operator.kind = .operator := by
        rw [comparison.operator.kind_eq, if_pos takesValue]
      rw [if_pos takesValue] at h ⊢
      obtain ⟨value, rfl, third⟩ := List.map_eq_singleton_iff.mp h
      obtain ⟨isValue, sameValue⟩ := Token.operand_of_shape third
      rw [isOperator] at isMark sameMark
      have reading : ReadsOperand ([field] ++ mark :: value :: rest) _ rest :=
        .operation (texts_singleton isText) isMark isValue
      rw [← sameField, ← sameValue]
      rw [sameMark] at reading
      exact reading
    · have isPresent : comparison.operator.kind = .present := by
        rw [comparison.operator.kind_eq, if_neg takesValue]
      rw [if_neg takesValue] at h ⊢
      rw [List.map_eq_nil_iff.mp h]
      rw [isPresent] at isMark sameMark
      have reading : ReadsOperand ([field] ++ mark :: rest) _ rest :=
        .presence (texts_singleton isText) isMark
      rw [← sameField]
      rw [sameMark] at reading
      exact reading

/-- A comparison begins with a text. -/
theorem Comparison.shapes_head (comparison : Comparison) :
    ∃ text more, shapes comparison.pieces = (.text, text) :: more := by
  rw [pieces]
  by_cases pattern : comparison.isPattern = true
  · rw [if_pos pattern]
    exact ⟨_, _, rfl⟩
  · rw [if_neg pattern]
    exact ⟨_, _, rfl⟩

namespace Clause

variable {clause : Clause}

/-- The first token of a clause says whether the clause is negated. -/
theorem headKind?_of_shapes {more : List (TokenKind × String)}
    (h : tokens.map Token.shape = shapes clause.pieces ++ more) :
    headKind? tokens = some (if clause.negated then .negate else .text) := by
  have head : ∃ text after, shapes clause.pieces =
      (if clause.negated then .negate else .text, text) :: after := by
    rw [pieces]
    split
    · exact ⟨_, _, rfl⟩
    · obtain ⟨text, after, same⟩ := clause.left.shapes_head
      rw [innerPieces, shapes_append, same]
      exact ⟨_, _, rfl⟩
  obtain ⟨text, after, same⟩ := head
  rw [same, List.cons_append] at h
  obtain ⟨token, rest, rfl, first, -⟩ := List.map_eq_cons_iff.mp h
  exact congrArg some (congrArg Prod.fst first)

/-- The tokens inside the parentheses of a negated clause, or of another clause. -/
theorem reads_inner (h : tokens.map Token.shape = shapes clause.innerPieces)
    (next : headKind? rest ∉ [some .operator, some .present, some .separator])
    (apart : clause.last.isPattern = true → headKind? rest ≠ some .text) :
    ReadsExpression (tokens ++ rest) clause.innerPhrase rest := by
  simp only [List.mem_cons, List.not_mem_nil, or_false, not_or] at next
  have free (pattern : clause.last.isPattern = true) :
      headKind? rest ∉ [some .text, some .operator, some .present] := by
    simp [apart pattern, next]
  rw [innerPieces, shapes_append] at h
  rw [innerPhrase]
  cases clause with
  | single left negated =>
    obtain ⟨own, nothing, rfl, first, empty⟩ := List.map_eq_append_iff.mp h
    rw [List.map_eq_nil_iff.mp empty, List.append_nil]
    exact .single (left.reads first free) next.2.2
  | joined left connective right negated =>
    obtain ⟨own, later, rfl, first, h⟩ := List.map_eq_append_iff.mp h
    obtain ⟨separator, own', rfl, mark, second⟩ := List.map_eq_cons_iff.mp h
    have isSeparator : separator.kind = .separator := congrArg Prod.fst mark
    have same : separator.phrase = .token .separator connective.token := by
      rw [Token.phrase_of_shape mark.symm, String.ofList_toList]
      rfl
    rw [List.append_assoc, List.cons_append]
    show ReadsExpression _
      (group .expression [left.phrase, .token .separator connective.token, right.phrase]) rest
    rw [← same]
    refine .joined (left.reads first fun _ => ?_) isSeparator (right.reads second free)
    rw [Filter.headKind?_cons, isSeparator]
    decide

/-- The tokens of a clause are read as its phrase, unless its last pattern would take texts that
follow. -/
theorem reads (h : tokens.map Token.shape = shapes clause.pieces)
    (next : headKind? rest ∉ [some .operator, some .present, some .separator])
    (apart : clause.negated = false → clause.last.isPattern = true → headKind? rest ≠ some .text) :
    ReadsExpression (tokens ++ rest) clause.phrase rest := by
  rw [pieces] at h
  rw [phrase]
  by_cases negated : clause.negated = true
  · rw [if_pos negated] at h ⊢
    obtain ⟨mark, later, rfl, first, h⟩ := List.map_eq_cons_iff.mp h
    obtain ⟨opening, later, rfl, second, h⟩ := List.map_eq_cons_iff.mp h
    rw [← shapes, shapes_append] at h
    obtain ⟨inner, later, rfl, third, h⟩ := List.map_eq_append_iff.mp h
    obtain ⟨close, rfl, last⟩ := List.map_eq_singleton_iff.mp h
    have isClosing : close.kind = .closing := congrArg Prod.fst last
    have same : mark.phrase = .token .negate "!" := mark.phrase_of_shape first.symm
    have inside : ReadsExpression (inner ++ close :: rest) clause.innerPhrase (close :: rest) :=
      reads_inner third (by simp [isClosing]) (by simp [isClosing])
    rw [← same, List.cons_append, List.cons_append, List.append_assoc]
    exact .negation (congrArg Prod.fst first)
      (.parenthesized (congrArg Prod.fst second) inside isClosing)
  · rw [if_neg negated] at h ⊢
    exact reads_inner h next (apart (Bool.eq_false_iff.mpr negated))

end Clause

/-- The tokens of a clause that does not run into the next one are read as its phrase. -/
theorem Clause.reads_first {clause : Clause} {clauses : List Clause}
    (apart : ∀ next ∈ clauses.head?, ¬clause.RunsInto next)
    (h : tokens.map Token.shape = shapes clause.pieces)
    (later : rest.map Token.shape = (clauses.map Clause.pieces).flatMap shapes) :
    ReadsExpression (tokens ++ rest) clause.phrase rest := by
  cases clauses with
  | nil =>
    rw [List.map_nil, List.flatMap_nil, List.map_eq_nil_iff] at later
    rw [later]
    exact clause.reads h (by simp) (by simp)
  | cons next clauses =>
    have head : headKind? rest = some (if next.negated then .negate else .text) :=
      headKind?_of_shapes later
    refine clause.reads h ?_ fun notNegated pattern => ?_
    · rw [head]
      split <;> decide
    · have negated : next.negated = true := by
        by_contra other
        exact apart next rfl ⟨notNegated, pattern, Bool.eq_false_iff.mpr other⟩
      rw [head, negated]
      decide

/-- The tokens of clauses that are apart are read as their phrases. -/
theorem Clause.reads_all {clauses : List Clause}
    (apart : clauses.IsChain fun clause next => ¬clause.RunsInto next)
    (h : tokens.map Token.shape = (clauses.map Clause.pieces).flatMap shapes) :
    ReadsExpressions tokens (clauses.map Clause.phrase) := by
  induction clauses generalizing tokens with
  | nil =>
    rw [List.map_nil, List.flatMap_nil, List.map_eq_nil_iff] at h
    rw [h]
    exact .nil
  | cons clause clauses ih =>
    rw [List.map_cons, List.flatMap_cons] at h
    obtain ⟨own, rest, rfl, first, later⟩ := List.map_eq_append_iff.mp h
    exact .cons (clause.reads_first apart.rel_head? first later) (ih apart.tail later)

end Parsing

/-! ## Reading back -/

/-- A word has no blanks. -/
theorem isBlank_of_isBare {cs : List Char} (bare : isBare cs = true) :
    ∀ c ∈ cs, Text.isBlank c = false := by
  simp only [isBare_eq, Bool.and_eq_true, List.any_eq_false, Bool.not_eq_true'] at bare
  intro c mem
  have plain := Bool.eq_false_iff.mpr (bare.2 c mem)
  exact (Bool.or_eq_false_iff.mp plain).1

theorem unquote_operandToken (text : List Char) :
    unquote (String.ofList (operandToken text)) = text := by
  rw [operandToken]
  by_cases bare : isBare text = true
  · rw [if_pos bare, unquote, String.toList_ofList, Text.trimChars_of_all (isBlank_of_isBare bare),
      unquoteChars_of_head]
    simp only [isBare_eq, Bool.and_eq_true, List.any_eq_false, Bool.not_eq_true'] at bare
    intro quote
    exact bare.2 '"' (List.mem_of_mem_head? quote) (by decide)
  · rw [if_neg bare]
    exact unquote_quoted text

/-- The phrase of an operand spells it. -/
theorem joinTexts?_operandPhrase {text : String} (trimmed : Text.trim text = text) :
    joinTexts? [operandPhrase text] = some text := by
  show some (String.ofList (Text.trimChars (joinWords
    [unquote (String.ofList (operandToken text.toList))]))) = some text
  rw [unquote_operandToken, joinWords, Text.trim_eq_self_iff.mp trimmed, String.ofList_toList]

/-- The comparison of a field, an operator and texts. -/
theorem Comparison.ofOperation?_operand {field : String} (trimmed : Text.trim field = field)
    (operator : Operator) (right : List Phrase) :
    ofOperation? (operandPhrase field ::
        .token operator.kind.phraseKind operator.token :: right) =
      if operator.takesValue then
        (joinTexts? right).bind fun value => some { field, operator, value := some value }
      else if right.isEmpty then some { field, operator, value := none }
      else none := by
  have plain : ∀ phrase ∈ [operandPhrase field], isOperatorPhrase phrase = false := by
    intro phrase mem
    rw [List.mem_singleton.mp mem]
    rfl
  have marked : isOperatorPhrase (.token operator.kind.phraseKind operator.token) = true := by
    cases operator <;> rfl
  have spelled : Operator.ofToken? (Phrase.token operator.kind.phraseKind operator.token).text =
      some operator := operator.ofToken?_token
  rw [← List.singleton_append, ofOperation?_eq plain marked, spelled, Option.bind_some,
    joinTexts?_operandPhrase trimmed, Option.bind_some]

theorem Comparison.ofPhrase?_phrase {comparison : Comparison} (read : comparison.IsRead)
    (safe : comparison.IsSafe) : ofPhrase? comparison.phrase = some comparison := by
  obtain ⟨field, operator, value, negated⟩ := comparison
  cases (show negated = false from read.notNegated)
  have spelledValue {text : String} (same : value = some text) :
      joinTexts? [operandPhrase text] = some text :=
    joinTexts?_operandPhrase (read.value_trim text same)
  rw [phrase]
  by_cases pattern : (Comparison.mk field operator value false).isPattern = true
  · rw [if_pos pattern]
    have nonempty := safe.pattern_nonempty pattern
    obtain ⟨anywhere, isMatch⟩ := isPattern_iff.mp pattern
    cases (show field = anyField from anywhere)
    cases (show operator = .matches from isMatch)
    obtain ⟨text, rfl⟩ : ∃ text, value = some text := read.exists_value rfl
    have nonempty : text.isEmpty = false := by
      rw [Bool.eq_false_iff, ne_eq, String.isEmpty_iff]
      rintro rfl
      exact nonempty rfl
    show ofConstant? "" [operandPhrase text] = _
    rw [ofConstant?_eq]
    simp only [List.isEmpty_cons, Bool.false_eq_true, if_false]
    rw [spelledValue rfl, Option.bind_some, read.value_trim text rfl, nonempty]
    rfl
  · rw [if_neg pattern]
    have trimmed : Text.trim field = field := read.field_trim
    have spelled := ofOperation?_operand trimmed operator
    rw [operator.kind_eq] at spelled
    by_cases takesValue : operator.takesValue = true
    · rw [if_pos takesValue] at spelled ⊢
      obtain ⟨text, rfl⟩ : ∃ text, value = some text := read.exists_value takesValue
      show ofOperation? [operandPhrase field, .token .operator operator.token,
        operandPhrase text] = _
      refine (spelled [operandPhrase text]).trans ?_
      rw [if_pos takesValue, spelledValue rfl]
      rfl
    · rw [if_neg takesValue] at spelled ⊢
      have none : value = none := read.value_eq_none takesValue
      show ofOperation? [operandPhrase field, .token .present operator.token] = _
      refine (spelled []).trans ?_
      rw [if_neg takesValue, none]
      rfl

namespace Clause

variable {clause : Clause} (read : ∀ comparison ∈ clause.comparisons, comparison.IsRead)
  (safe : ∀ comparison ∈ clause.comparisons, comparison.IsSafe)

include read safe

theorem ofPhrase?_innerPhrase :
    ofPhrase? clause.innerPhrase = some { clause with negated := false } := by
  have first : Comparison.ofPhrase? clause.left.phrase = some clause.left :=
    Comparison.ofPhrase?_phrase (read clause.left List.mem_cons_self)
      (safe clause.left List.mem_cons_self)
  cases clause with
  | single left negated => exact ofOperands?_single first
  | joined left connective right negated =>
    have mem : right ∈ [left, right] := by simp
    have second : Comparison.ofPhrase? right.phrase = some right :=
      Comparison.ofPhrase?_phrase (read right mem) (safe right mem)
    exact ofOperands?_joined first rfl connective.ofToken?_token second

/-- The phrase of a clause has the meaning of the clause. -/
theorem ofPhrase?_phrase : ofPhrase? clause.phrase = some clause := by
  have inner := ofPhrase?_innerPhrase read safe
  rw [phrase]
  by_cases negated : clause.negated = true
  · rw [if_pos negated]
    show (ofPhrase? (group .parenthesized [clause.innerPhrase])).map negate = _
    show (ofPhrase? clause.innerPhrase).map negate = _
    rw [inner]
    exact congrArg some (by simp [negate, ← negated])
  · rw [if_neg negated, inner, ← Bool.eq_false_iff.mpr negated]

end Clause

namespace Filter

/-- The tree of a filter has the meaning of the filter. -/
theorem ofPhrase?_phrase {filter : Filter} (read : filter.IsRead)
    (safe : ∀ comparison ∈ filter.comparisons, comparison.IsSafe) :
    ofPhrase? filter.phrase = some filter := by
  have each : (filter.clauses.map Clause.phrase).map Clause.ofPhrase? =
      filter.clauses.map some := by
    rw [List.map_map]
    refine List.map_congr_left fun clause mem => ?_
    have within {comparison : Comparison} (inside : comparison ∈ clause.comparisons) :
        comparison ∈ filter.comparisons := List.mem_flatMap.mpr ⟨clause, mem, inside⟩
    exact Clause.ofPhrase?_phrase (fun comparison inside => read.comparisons _ (within inside))
      fun comparison inside => safe _ (within inside)
  have nonempty := (values_ne_nil_iff each).mp read.nonempty
  exact ofPhrase?_eq_some_iff.mpr ⟨nonempty, each, read.notNegated⟩

/-- A text whose tokens are those of the pieces of a filter has the tree of the filter. -/
theorem ofTokens_phrase {filter : Filter} {tokens : List Token} (nonempty : filter.clauses ≠ [])
    (apart : filter.clauses.IsChain fun clause next => ¬clause.RunsInto next)
    (h : tokens.map Token.shape = shapes filter.pieces) :
    Phrase.ofTokens tokens = .ok filter.phrase := by
  rw [pieces, shapes_joinPieces] at h
  rw [Phrase.ofTokens_eq_ok_iff]
  refine ⟨?_, _, Clause.reads_all apart h, rfl⟩
  rintro rfl
  obtain ⟨clause, clauses, same⟩ := List.exists_cons_of_ne_nil nonempty
  rw [same] at h
  have head : headKind? [] = some _ := Clause.headKind?_of_shapes h
  cases head

/-- The text of a safe filter has the tree of the filter. -/
theorem parse_text {filter : Filter} (read : filter.IsRead) (safe : filter.IsSafe) :
    Phrase.parse filter.text = .ok filter.phrase := by
  have closes : ∀ text, .operand text ∈ filter.pieces → Closes text := by
    intro text mem
    obtain ⟨comparison, inside, there⟩ := operand_mem_pieces.mp mem
    have safe := safe.comparisons comparison inside
    exact (Comparison.closes_iff (read.comparisons comparison inside)).mpr
      ⟨safe.field_closes, safe.value_closes⟩ text there
  obtain ⟨tokens, scanned, tokenShapes⟩ := filter.spaced.scan closes 0
  rw [Phrase.parse, Token.scan, toList_text read, scanned]
  exact ofTokens_phrase read.nonempty safe.apart tokenShapes

/-- A filter that a text could be read as is read back from its own text, if it is safe. -/
theorem compile?_text {filter : Filter} (read : filter.IsRead) (safe : filter.IsSafe) :
    compile? filter.text = some filter := by
  rw [compile?, parse_text read safe]
  exact ofPhrase?_phrase read safe.comparisons

/-- Quotes and a backslash inside of operands, and a pattern before a negated clause. -/
theorem compile?_text_quotes :
    let filter : Filter := { clauses := [
      { left := { field := "host \"a\"", operator := .equals, value := some "b\\c" }
        connective := some .or
        right := some (.anywhere "matches") },
      { left := { field := "d", operator := .present, value := none }, negated := true }] }
    (filter.IsRead ∧ filter.IsSafe) ∧ compile? filter.text = some filter := by
  intro filter
  have read : filter.IsRead := by decide +kernel
  have safe : filter.IsSafe := by decide +kernel
  exact ⟨⟨read, safe⟩, compile?_text read safe⟩

end Filter
end EventSieve
