import EventSieve.Proofs.Keeping
import EventSieve.Proofs.Recognition

/-!
# Which trees have a filter

The tokens of a text spell their kinds, so that the tree of a text never holds an operator or a
connective that is unknown, and its operands have all their parts. One thing may still be missing: a
free text that is blank between its quotes matches nothing in particular, and the tree that holds
it has no filter. Every other tree has one, with a clause for each of its expressions.

## Main definitions

* `TokenKind.Admits` — how a token of some kind is spelled
* `IsBlankQuote` — a quoted text that is blank
* `Phrase.IsBlank`, `Phrase.HoldsBlank` — a free text that is blank, and trees that hold one

## Main statements

* `Token.admits_of_scan` — tokens spell their kinds
* `ReadsOperand.ofPhrase?_eq_none_iff`, `ReadsExpression.ofPhrase?_eq_none_iff` — an operand and an
  expression have no meaning exactly if a free text in them is blank
* `Filter.ofPhrase?_of_parse` — the same of a whole tree
-/
namespace EventSieve

open EventSieve.Filter (Token TokenKind Lexeme Phrase PhraseKind endsWord isMark wordKind)
open EventSieve.Filter.Phrase (group ReadsOperand ReadsExpression ReadsExpressions Texts)

/-! ## How tokens are spelled -/

namespace Filter

/-- How a token of some kind is spelled. A text is a bare word, or it stands in quotes. -/
def TokenKind.Admits : TokenKind → List Char → Prop
  | .text, cs => isBare cs = true ∨ ∃ inner, cs = '"' :: (inner ++ ['"'])
  | .operator, cs => ∃ operator : Operator, operator.takesValue = true ∧ cs = operator.token.toList
  | .present, cs => cs = Operator.present.token.toList
  | .separator, cs => ∃ connective : Connective, cs = connective.token.toList
  | _, _ => True

variable {c : Char} {rest : List Char} {position : Nat} {lexeme : Lexeme}

theorem Lexeme.doubled_eq_ok {kind : TokenKind} (h : doubled kind c rest position = .ok lexeme) :
    lexeme = plain kind [c, c] := by
  rw [doubled] at h
  split at h
  · cases h
    rfl
  · cases h

/-- A word spells its kind. -/
theorem admits_wordKind (ink : Text.isBlank c = false) (noMark : isMark c = false) :
    (wordKind (c :: rest.takeWhile fun d => !endsWord d)).Admits
      (c :: rest.takeWhile fun d => !endsWord d) := by
  have plain : ∀ d ∈ c :: rest.takeWhile fun d => !endsWord d, endsWord d = false := by
    intro d mem
    rcases List.mem_cons.mp mem with rfl | mem
    · rw [endsWord, ink, noMark, Bool.or_false]
    · simpa using List.mem_takeWhile_imp mem
  have nonempty := List.cons_ne_nil c (rest.takeWhile fun d => !endsWord d)
  generalize c :: rest.takeWhile (fun d => !endsWord d) = word at *
  by_cases operator : word = "matches".toList ∨ word = "contains".toList
  · rw [wordKind, if_pos operator]
    rcases operator with same | same
    · exact ⟨.matches, rfl, same⟩
    · exact ⟨.contains, rfl, same⟩
  · by_cases present : word = "present".toList
    · rw [wordKind, if_neg operator, if_pos present]
      exact present
    · have kind : wordKind word = .text := by rw [wordKind, if_neg operator, if_neg present]
      rw [kind]
      refine .inl ?_
      simpa [isBare_eq, kind, nonempty] using plain

/-- What is read at a character that is no blank spells its kind. -/
theorem Lexeme.admits_of_first (ink : Text.isBlank c = false)
    (h : first c rest position = .ok lexeme) : lexeme.kind.Admits lexeme.text := by
  rw [first] at h
  split_ifs at h with isOpening isClosing isOrder isBang isUnequal isEqual isConnective isQuote
  · cases h
    trivial
  · cases h
    trivial
  · cases h
    rcases isOrder with rfl | rfl
    · exact ⟨.greaterThan, rfl, rfl⟩
    · exact ⟨.lessThan, rfl, rfl⟩
  · cases h
    exact ⟨.notEquals, rfl, rfl⟩
  · cases h
    trivial
  · rw [doubled_eq_ok h, isEqual]
    exact ⟨.equals, rfl, rfl⟩
  · rw [doubled_eq_ok h]
    rcases isConnective with rfl | rfl
    · exact ⟨.and, rfl⟩
    · exact ⟨.or, rfl⟩
  · rw [quoted] at h
    split at h
    · cases h
      exact .inr ⟨_, rfl⟩
    · cases h
  · cases h
    refine admits_wordKind ink ?_
    simp only [not_or] at isOrder isConnective
    simp [isMark, *]

/-- The tokens of a text spell their kinds. -/
theorem Token.admits_of_scan {text : String} {tokens : List Token} (h : scan text = .ok tokens) :
    ∀ token ∈ tokens, token.kind.Admits token.text.toList := by
  intro token mem
  obtain ⟨c, rest, start, lexeme, ink, read, rfl⟩ := exists_first_of_scanFrom h token mem
  rw [String.toList_ofList]
  exact Lexeme.admits_of_first ink read

end Filter
/-! ## Blank texts -/

namespace Text

/-- Nothing is left of blanks alone. -/
theorem trimChars_eq_nil_iff {cs : List Char} :
    trimChars cs = [] ↔ ∀ c ∈ cs, isBlank c = true := by
  have start : trimStart cs = [] ↔ ∀ c ∈ cs, isBlank c = true := List.dropWhile_eq_nil_iff
  refine ⟨fun none => start.mp ?_, fun all => by rw [trimChars, start.mpr all]; rfl⟩
  -- a text that begins with no blank is not all dropped from its end
  by_contra some
  have empty : ∀ c ∈ (trimStart cs).reverse, isBlank c = true :=
    List.dropWhile_eq_nil_iff.mp (List.reverse_eq_nil_iff.mp none)
  have ink := List.head?_dropWhile_not isBlank cs
  rw [show cs.dropWhile isBlank = trimStart cs from rfl, List.head?_eq_some_head some] at ink
  exact Bool.eq_false_iff.mp ink (empty _ (List.mem_reverse.mpr (List.head_mem some)))

end Text

/-- Words are blank together if each of them is. -/
theorem isBlank_joinWords_iff {words : List (List Char)} :
    (∀ c ∈ joinWords words, Text.isBlank c = true) ↔
      ∀ word ∈ words, ∀ c ∈ word, Text.isBlank c = true := by
  induction words with
  | nil => simp [joinWords]
  | cons word words ih =>
    cases words with
    | nil => simp [joinWords]
    | cons next words =>
      have blank : Text.isBlank ' ' = true := rfl
      rw [joinWords, List.forall_mem_append, List.forall_mem_cons, ih, List.forall_mem_cons]
      · simp [blank]
      · exact List.cons_ne_nil next words

/-- A quoted text that is empty, or blank between its quotes. -/
def IsBlankQuote (text : String) : Prop :=
  ∃ inner, text.toList = '"' :: (inner ++ ['"']) ∧ ∀ c ∈ inner, Text.isBlank c = true

/-- A text that is spelled as one spells blanks only if it is blank between quotes. -/
theorem isBlank_unquote_iff {text : String} (h : TokenKind.text.Admits text.toList) :
    (∀ c ∈ unquote text, Text.isBlank c = true) ↔ IsBlankQuote text := by
  rcases h with bare | ⟨inner, quoted⟩
  · have ink := isBlank_of_isBare bare
    have noQuote : '"' ∉ text.toList := by
      intro mem
      simp only [isBare_eq, Bool.and_eq_true, List.any_eq_false, Bool.not_eq_true'] at bare
      exact bare.2 '"' mem (by decide)
    have nonempty : text.toList ≠ [] := by
      intro none
      simp [isBare_eq, none] at bare
    have same : unquote text = text.toList := by
      rw [unquote, Text.trimChars_of_all ink, unquoteChars_of_head]
      exact fun quote => noQuote (List.mem_of_mem_head? quote)
    rw [same]
    constructor
    · intro blank
      obtain ⟨c, mem⟩ := List.exists_mem_of_ne_nil _ nonempty
      exact absurd (blank c mem) (by simp [ink c mem])
    · rintro ⟨inner, spelled, -⟩
      exact absurd (spelled ▸ List.mem_cons_self) noQuote
  · have same : unquote text = inner := by
      rw [← unquote_quoted inner, ← quoted, String.ofList_toList]
    rw [same]
    constructor
    · exact fun blank => ⟨inner, quoted, blank⟩
    · rintro ⟨other, spelled, blank⟩
      rw [quoted, List.cons.injEq, List.append_left_inj] at spelled
      exact spelled.2 ▸ blank

namespace Filter.Phrase

/-- A free text of which every part is blank between quotes. -/
def IsBlank (phrase : Phrase) : Prop :=
  phrase.kind = .constant ∧ ∀ part ∈ phrase.children, IsBlankQuote part.text

/-- Whether some free text of a tree is blank. -/
def HoldsBlank (phrase : Phrase) : Prop :=
  ∃ part ∈ phrase.nodes, part.IsBlank

theorem holdsBlank_group {kind : PhraseKind} {children : List Phrase} :
    (group kind children).HoldsBlank ↔
      (group kind children).IsBlank ∨ ∃ child ∈ children, child.HoldsBlank := by
  simp only [HoldsBlank, group, nodes, List.exists_mem_cons_iff, mem_allNodes]
  refine or_congr_right ?_
  constructor
  · rintro ⟨part, ⟨child, mem, inside⟩, blank⟩
    exact ⟨child, mem, part, inside, blank⟩
  · rintro ⟨child, mem, part, inside, blank⟩
    exact ⟨part, ⟨child, mem, inside⟩, blank⟩

/-- Only texts alone are a free text. -/
theorem not_isBlank_group {kind : PhraseKind} (other : kind ≠ .constant)
    (children : List Phrase) : ¬(group kind children).IsBlank :=
  fun blank => other blank.1

theorem not_holdsBlank_token (token : Token) : ¬token.phrase.HoldsBlank := by
  rintro ⟨part, mem, blank, -⟩
  simp only [Token.phrase, Phrase.token, nodes, allNodes, List.mem_singleton] at mem
  rw [mem, kind] at blank
  cases same : token.kind <;> rw [same] at blank <;> cases blank

/-- The tokens of an operand are no free texts of their own. -/
theorem holdsBlank_operand {kind : PhraseKind} {tokens : List Token} :
    (group kind (tokens.map Token.phrase)).HoldsBlank ↔
      (group kind (tokens.map Token.phrase)).IsBlank := by
  rw [holdsBlank_group, or_iff_left]
  rintro ⟨child, mem, holds⟩
  obtain ⟨token, -, rfl⟩ := List.mem_map.mp mem
  exact not_holdsBlank_token token holds

end Filter.Phrase

/-! ## Operands -/

section Operands

variable {texts tokens rest : List Token} {phrase : Phrase}

theorem joinTexts?_texts (h : Texts texts) : joinTexts? (texts.map Token.phrase) =
    some (String.ofList (Text.trimChars
      (joinWords (texts.map fun token => unquote token.text)))) := by
  have nonempty : (texts.map Token.phrase).isEmpty = false := by simp [h.nonempty]
  have all : (texts.map Token.phrase).any (·.kind != .text) = false := by
    rw [List.any_eq_false]
    intro phrase mem
    obtain ⟨token, inside, rfl⟩ := List.mem_map.mp mem
    show ¬(token.kind.phraseKind != .text) = true
    rw [h.all token inside]
    decide
  rw [joinTexts?, nonempty, all, List.map_map]
  rfl

namespace Comparison

/-- Texts alone have a meaning unless all of them are blank. -/
theorem ofConstant?_eq_none_iff {text : String} (h : Texts texts)
    (admits : ∀ token ∈ texts, token.kind.Admits token.text.toList) :
    ofConstant? text (texts.map Token.phrase) = none ↔
      ∀ token ∈ texts, IsBlankQuote token.text := by
  have nonempty : (texts.map Token.phrase).isEmpty = false := by simp [h.nonempty]
  have words : (∀ c ∈ joinWords (texts.map fun token => unquote token.text),
      Text.isBlank c = true) ↔ ∀ token ∈ texts, IsBlankQuote token.text := by
    rw [isBlank_joinWords_iff, List.forall_mem_map]
    refine forall₂_congr fun token mem => isBlank_unquote_iff ?_
    have own := admits token mem
    rwa [h.all token mem] at own
  rw [ofConstant?_eq, nonempty, if_neg Bool.false_ne_true, joinTexts?_texts h, Option.bind_some,
    Text.trim_ofList_trimChars, ← words, ← Text.trimChars_eq_nil_iff]
  simp

/-- Texts with an operator of a text after them have a meaning if all it takes is there. -/
theorem isSome_ofOperation? {mark : Token} (h : Texts texts) {operator : Operator}
    (isMark : mark.kind = .operator ∨ mark.kind = .present)
    (known : Operator.ofToken? mark.text = some operator) {right : List Token}
    (takes : if operator.takesValue then Texts right else right = []) :
    (ofOperation? (texts.map Token.phrase ++ mark.phrase :: right.map Token.phrase)).isSome := by
  rw [ofOperation?_eq (isOperatorPhrase_texts h) (isOperatorPhrase_mark isMark),
    show mark.phrase.text = mark.text from rfl, known, joinTexts?_texts h, Option.bind_some,
    Option.bind_some]
  split at takes
  · next takesValue =>
    rw [if_pos takesValue, joinTexts?_texts takes]
    rfl
  · next takesNone =>
    rw [if_neg takesNone, takes]
    rfl

end Comparison
/-- An operand has no meaning exactly if it is a free text that is blank. -/
theorem Filter.Phrase.ReadsOperand.ofPhrase?_eq_none_iff (h : ReadsOperand tokens phrase rest)
    (admits : ∀ token ∈ tokens, token.kind.Admits token.text.toList) :
    Comparison.ofPhrase? phrase = none ↔ phrase.HoldsBlank := by
  -- an operation has a meaning, and it is no free text
  have meant {kind : PhraseKind} {own : List Token} (other : kind ≠ .constant)
      (some : (Comparison.ofPhrase? (group kind (own.map Token.phrase))).isSome) :
      Comparison.ofPhrase? (group kind (own.map Token.phrase)) = none ↔
        (group kind (own.map Token.phrase)).HoldsBlank := by
    rw [holdsBlank_operand]
    exact iff_of_false (Option.isSome_iff_ne_none.mp some) (not_isBlank_group other _)
  cases h with
  | @operation texts rest operator value h isOperator isText =>
    have spelled := admits operator (by simp)
    rw [isOperator] at spelled
    obtain ⟨known, takesValue, text⟩ := spelled
    have parts : texts.map Token.phrase ++ [operator.phrase, value.phrase] =
        (texts ++ [operator, value]).map Token.phrase := by simp
    rw [parts]
    refine meant (by split <;> exact PhraseKind.noConfusion) ?_
    rw [← parts, ofPhrase?_operation]
    have named : Operator.ofToken? operator.text = some known := by
      rw [String.toList_inj.mp text, Operator.ofToken?_token]
    have takes : if known.takesValue then Texts [value] else [value] = [] := by
      rw [if_pos takesValue]
      exact ⟨List.cons_ne_nil value [], by simpa using isText⟩
    exact Comparison.isSome_ofOperation? h (.inl isOperator) named takes
  | @presence texts rest mark h isPresent =>
    have spelled := admits mark (by simp)
    rw [isPresent] at spelled
    have parts : texts.map Token.phrase ++ [mark.phrase] =
        (texts ++ [mark]).map Token.phrase := by simp
    rw [parts]
    refine meant (by split <;> exact PhraseKind.noConfusion) ?_
    rw [← parts, ofPhrase?_presence]
    have named : Operator.ofToken? mark.text = some .present := by
      rw [String.toList_inj.mp spelled, Operator.ofToken?_token]
    exact Comparison.isSome_ofOperation? h (.inr isPresent) named rfl
  | @constant texts rest h next =>
    rw [holdsBlank_operand]
    have own : ∀ token ∈ texts, token.kind.Admits token.text.toList := fun token mem =>
      admits token (List.mem_append_left rest mem)
    refine (Comparison.ofConstant?_eq_none_iff h own).trans ?_
    simp [IsBlank, group, kind, children, Token.phrase, Phrase.token, Phrase.text]

end Operands

/-! ## Expressions -/

section Expressions

variable {tokens rest : List Token} {phrase : Phrase}

/-- The tokens after an operand are tokens of the whole. -/
theorem Filter.Phrase.ReadsOperand.rest_subset (h : ReadsOperand tokens phrase rest) :
    rest ⊆ tokens := by
  obtain ⟨own, rfl, -⟩ := h.spells
  exact List.subset_append_right own rest

theorem Filter.Phrase.ReadsExpression.rest_subset (h : ReadsExpression tokens phrase rest) :
    rest ⊆ tokens := by
  induction h with
  | single h => exact h.rest_subset
  | joined first isSeparator second =>
    exact fun token mem => first.rest_subset (List.mem_cons_of_mem _ (second.rest_subset mem))
  | parenthesized isOpening h isClosing ih =>
    exact fun token mem => List.mem_cons_of_mem _ (ih (List.mem_cons_of_mem _ mem))
  | negation isNegate h ih => exact fun token mem => List.mem_cons_of_mem _ (ih mem)

/-- An expression has no meaning exactly if it holds a free text that is blank. -/
theorem Filter.Phrase.ReadsExpression.ofPhrase?_eq_none_iff
    (h : ReadsExpression tokens phrase rest)
    (admits : ∀ token ∈ tokens, token.kind.Admits token.text.toList) :
    Clause.ofPhrase? phrase = none ↔ phrase.HoldsBlank := by
  induction h with
  | @single tokens rest only h next =>
    have operand := h.ofPhrase?_eq_none_iff admits
    rw [holdsBlank_group, or_iff_right (not_isBlank_group PhraseKind.noConfusion _)]
    simp only [List.mem_singleton, exists_eq_left, ← operand]
    exact Option.map_eq_none_iff
  | @joined tokens more rest separator left right first isSeparator second =>
    have later := first.rest_subset
    have spelled := admits separator (later List.mem_cons_self)
    rw [isSeparator] at spelled
    obtain ⟨connective, text⟩ := spelled
    have found : Connective.ofToken? separator.phrase.text = some connective := by
      show Connective.ofToken? separator.text = _
      rw [String.toList_inj.mp text, Connective.ofToken?_token]
    have one := first.ofPhrase?_eq_none_iff admits
    have two := second.ofPhrase?_eq_none_iff fun token mem =>
      admits token (later (List.mem_cons_of_mem _ mem))
    have kind : separator.phrase.kind = .separator := congrArg TokenKind.phraseKind isSeparator
    rw [holdsBlank_group, or_iff_right (not_isBlank_group PhraseKind.noConfusion _)]
    simp only [List.mem_cons, List.not_mem_nil, or_false, exists_eq_or_imp, exists_eq_left,
      not_holdsBlank_token, false_or, ← one, ← two]
    show Clause.ofOperands? [left, separator.phrase, right] = none ↔ _
    rw [Clause.ofOperands?]
    cases Comparison.ofPhrase? left <;> cases Comparison.ofPhrase? right <;> simp [kind, found]
  | @parenthesized tokens rest opening close inner isOpening h isClosing ih =>
    rw [holdsBlank_group, or_iff_right (not_isBlank_group PhraseKind.noConfusion _)]
    simp only [List.mem_singleton, exists_eq_left,
      ← ih fun token mem => admits token (List.mem_cons_of_mem _ mem)]
    rfl
  | @negation tokens rest mark inner isNegate h ih =>
    have kind : mark.phrase.kind = .negate := congrArg TokenKind.phraseKind isNegate
    rw [holdsBlank_group, or_iff_right (not_isBlank_group PhraseKind.noConfusion _)]
    simp only [List.mem_cons, List.not_mem_nil, or_false, exists_eq_or_imp, exists_eq_left,
      not_holdsBlank_token, false_or,
      ← ih fun token mem => admits token (List.mem_cons_of_mem _ mem)]
    show (if mark.phrase.kind = .negate then (Clause.ofPhrase? inner).map Clause.negate else none) =
      none ↔ _
    rw [if_pos kind, Option.map_eq_none_iff]

theorem Filter.Phrase.ReadsExpressions.ofPhrase?_eq_none_iff {phrases : List Phrase}
    (h : ReadsExpressions tokens phrases)
    (admits : ∀ token ∈ tokens, token.kind.Admits token.text.toList) :
    ∀ phrase ∈ phrases, Clause.ofPhrase? phrase = none ↔ phrase.HoldsBlank := by
  induction h with
  | nil => simp
  | cons first later ih =>
    exact List.forall_mem_cons.mpr ⟨first.ofPhrase?_eq_none_iff admits,
      ih fun token mem => admits token (first.rest_subset mem)⟩

end Expressions

/-! ## Filters -/

namespace Filter

theorem ofPhrase?_root {phrases : List Phrase} {clauses : List Clause} (nonempty : phrases ≠ [])
    (h : phrases.map Clause.ofPhrase? = clauses.map some) :
    ofPhrase? (group .root phrases) = some { clauses } := by
  exact ofPhrase?_eq_some_iff.mpr ⟨nonempty, h, rfl⟩

theorem Phrase.ReadsExpressions.phrases_nonempty {tokens : List Token} {phrases : List Phrase}
    (h : ReadsExpressions tokens phrases) (nonempty : tokens ≠ []) : phrases ≠ [] := by
  cases h with
  | nil => exact absurd rfl nonempty
  | cons => exact List.cons_ne_nil _ _

theorem Phrase.mem_allLeaves {phrase : Phrase} {phrases : List Phrase}
    {leaf : TokenKind × String} (mem : phrase ∈ phrases) (inside : leaf ∈ phrase.leaves) :
    leaf ∈ allLeaves phrases := by
  induction phrases with
  | nil => cases mem
  | cons first later ih =>
    rw [allLeaves, List.mem_append]
    rcases List.mem_cons.mp mem with rfl | mem
    · exact .inl inside
    · exact .inr (ih mem)

/-- A node that is a token is one of the tokens that its tree spells. -/
theorem Phrase.mem_leaves {phrase part : Phrase} {kind : TokenKind} (shaped : phrase.WellShaped)
    (mem : part ∈ phrase.nodes) (isToken : part.kind.tokenKind? = some kind) :
    (kind, part.text) ∈ phrase.leaves := by
  induction phrase using Phrase.induction with
  | node own text children ih =>
    obtain ⟨⟨shape, -⟩, below⟩ := wellShaped_node.mp shaped
    rw [nodes, List.mem_cons, mem_allNodes] at mem
    rw [leaves]
    rcases mem with rfl | ⟨child, inside, mem⟩
    · rw [show own.tokenKind? = some kind from isToken]
      exact List.mem_singleton_self _
    · have leaf := mem_allLeaves inside (ih child inside (below child inside) mem)
      cases known : own.tokenKind? with
      | some token =>
        have none := shape.of_isToken (by cases own <;> first | rfl | cases known)
        rw [List.map_eq_nil_iff.mp none] at inside
        cases inside
      | none =>
        show _ ∈ if own = .parenthesized then _ else _
        split
        · exact List.mem_cons_of_mem _ (List.mem_append_left _ leaf)
        · exact leaf

/-- The operators of the tree of a text are known. -/
theorem exists_operator_of_mem {text : String} {tokens : List Token} {phrase part : Phrase}
    (scanned : Token.scan text = .ok tokens) (parsed : Phrase.ofTokens tokens = .ok phrase)
    (mem : part ∈ phrase.nodes) (isOperator : part.kind = .operator ∨ part.kind = .present) :
    ∃ operator, Operator.ofToken? part.text = some operator := by
  obtain ⟨leaves, isTree⟩ :=
    (Phrase.ofTokens_iff_isTree (Token.spellsMark_of_scan scanned)).mp parsed
  have spelled {kind : TokenKind} (isToken : part.kind.tokenKind? = some kind) :
      kind.Admits part.text.toList := by
    have leaf := Phrase.mem_leaves isTree.shaped mem isToken
    rw [leaves] at leaf
    obtain ⟨token, inside, same⟩ := List.mem_map.mp leaf
    obtain ⟨rfl, text⟩ := Prod.mk.inj same
    rw [← text]
    exact Token.admits_of_scan scanned token inside
  rcases isOperator with isOperator | isPresent
  · have isToken : part.kind.tokenKind? = some .operator := by
      rw [isOperator]
      rfl
    obtain ⟨operator, -, same⟩ := spelled isToken
    exact ⟨operator, by rw [String.toList_inj.mp same, Operator.ofToken?_token]⟩
  · have isToken : part.kind.tokenKind? = some .present := by
      rw [isPresent]
      rfl
    have same := spelled isToken
    exact ⟨.present, by rw [String.toList_inj.mp same, Operator.ofToken?_token]⟩

/-- The tree of a text has no filter exactly if some free text in it consists of quoted texts that
are empty or blank. Otherwise the filter has the clauses of the parts of the tree, in their order.
No operator of the tree is unknown. -/
theorem ofPhrase?_of_parse {text : String} {phrase : Phrase}
    (parsed : Phrase.parse text = .ok phrase) :
    (ofPhrase? phrase = none ↔ phrase.HoldsBlank) ∧
    (¬phrase.HoldsBlank → ∃ filter, ofPhrase? phrase = some filter ∧
      phrase.children.map Clause.ofPhrase? = filter.clauses.map some) ∧
    ∀ part ∈ phrase.nodes, part.kind = .operator ∨ part.kind = .present →
      ∃ operator, Operator.ofToken? part.text = some operator := by
  cases scanned : Token.scan text with
  | error fault => simp [Phrase.parse, scanned, bind, Except.bind] at parsed
  | ok tokens =>
    rw [Phrase.parse, scanned] at parsed
    have known : ∀ part ∈ phrase.nodes, part.kind = .operator ∨ part.kind = .present →
        ∃ operator, Operator.ofToken? part.text = some operator := fun part mem =>
      exists_operator_of_mem scanned parsed mem
    obtain ⟨nonempty, phrases, reads, rfl⟩ := Phrase.ofTokens_eq_ok_iff.mp parsed
    have parts := reads.ofPhrase?_eq_none_iff (Token.admits_of_scan scanned)
    have below : (group .root phrases).HoldsBlank ↔ ∃ child ∈ phrases, child.HoldsBlank := by
      rw [Phrase.holdsBlank_group, or_iff_right (Phrase.not_isBlank_group PhraseKind.noConfusion _)]
    have whole (none : ¬(group .root phrases).HoldsBlank) : ∃ clauses : List Clause,
        phrases.map Clause.ofPhrase? = clauses.map some ∧
          ofPhrase? (group .root phrases) = some { clauses } := by
      obtain ⟨clauses, read⟩ := exists_map_eq_map_some fun child mem =>
        Option.ne_none_iff_exists'.mp fun unread =>
          none (below.mpr ⟨child, mem, (parts child mem).mp unread⟩)
      exact ⟨clauses, read, ofPhrase?_root (reads.phrases_nonempty nonempty) read⟩
    refine ⟨⟨fun unread => ?_, fun holds => ?_⟩, fun none => ?_, known⟩
    · by_contra none
      obtain ⟨clauses, -, read⟩ := whole none
      rw [read] at unread
      cases unread
    · obtain ⟨child, mem, blank⟩ := below.mp holds
      refine Option.eq_none_iff_forall_ne_some.mpr fun filter read => ?_
      rcases ofPhrase?_cases read with ⟨_, _, same, all, -⟩ | ⟨clause, read, -⟩
      · cases same
        have unread := List.mem_map_of_mem (f := Clause.ofPhrase?) mem
        rw [all, (parts child mem).mpr blank] at unread
        simp at unread
      · cases read
    · obtain ⟨clauses, all, read⟩ := whole none
      exact ⟨_, read, all⟩

/-- A blank text beside a word is a part of a free text, while blank texts alone are none. -/
theorem ofPhrase?_of_parse_blank :
    (∃ phrase filter, Phrase.parse "a \"\" (b == \" \")" = .ok phrase ∧
      ofPhrase? phrase = some filter ∧
      phrase.children.map Clause.ofPhrase? = filter.clauses.map some) ∧
    ∃ phrase, Phrase.parse "a == 1 !(\" \" \"\" && b)" = .ok phrase ∧
      ofPhrase? phrase = none ∧ phrase.HoldsBlank := by
  have parses (text : String) (ok : (Phrase.parse text).toOption.isSome = true) :
      ∃ phrase, Phrase.parse text = .ok phrase ∧ compile? text = ofPhrase? phrase := by
    cases parsed : Phrase.parse text with
    | error fault => simp [parsed, Except.toOption] at ok
    | ok phrase => exact ⟨phrase, rfl, by rw [compile?, parsed]⟩
  constructor
  · obtain ⟨phrase, parsed, compiled⟩ := parses "a \"\" (b == \" \")" (by decide +kernel)
    obtain ⟨blank, filter, -⟩ := ofPhrase?_of_parse parsed
    have some : compile? "a \"\" (b == \" \")" ≠ none := by decide +kernel
    obtain ⟨filter, read, all⟩ := filter fun holds => some (compiled.trans (blank.mpr holds))
    exact ⟨phrase, filter, parsed, read, all⟩
  · obtain ⟨phrase, parsed, compiled⟩ :=
      parses "a == 1 !(\" \" \"\" && b)" (by decide +kernel)
    have none : compile? "a == 1 !(\" \" \"\" && b)" = none := by decide +kernel
    rw [compiled] at none
    exact ⟨phrase, parsed, none, (ofPhrase?_of_parse parsed).1.mp none⟩

end Filter

end EventSieve
