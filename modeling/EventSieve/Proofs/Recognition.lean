import EventSieve.Proofs.Grammar
import EventSieve.Proofs.Trees
import Mathlib.Data.List.Chain

/-!
# Which tokens are filters

The grammar of filters on kinds of tokens, and the trees that the parser builds. The grammar alone
would leave open where a run of texts is cut into operands: an operand takes the whole run at its
start. With that, tokens are a filter exactly if the parser finds a tree, and the tree is the only
one that spells them.

## Main definitions

* `IsOperand`, `IsExpression`, `IsFilter` — the grammar on kinds of tokens
* `Phrase.IsTree` — the trees of filters

## Main statements

* `Phrase.exists_ofTokens_iff` — the parser accepts what the grammar derives
* `Phrase.ofTokens_iff_isTree` — the parser finds the only tree that spells some tokens
* `Phrase.ofTokens_of_scan` — both, for the tokens of a text
-/
namespace EventSieve.Filter

/-! ## The grammar -/

/-- Kinds of tokens that are an operand, before a token of some kind or at the end: texts with an
operator and a text, texts that are present, or texts alone. Texts alone are the whole run. -/
inductive IsOperand : List TokenKind → Option TokenKind → Prop
  | operation (more : Nat) (next : Option TokenKind) :
      IsOperand (List.replicate (more + 1) .text ++ [.operator, .text]) next
  | presence (more : Nat) (next : Option TokenKind) :
      IsOperand (List.replicate (more + 1) .text ++ [.present]) next
  | constant (more : Nat) {next : Option TokenKind} (whole : next ≠ some .text) :
      IsOperand (List.replicate (more + 1) .text) next

/-- Kinds of tokens that are an expression, before a token of some kind or at the end. -/
inductive IsExpression : List TokenKind → Option TokenKind → Prop
  | single {kinds : List TokenKind} {next : Option TokenKind} (only : IsOperand kinds next) :
      IsExpression kinds next
  | joined {kinds more : List TokenKind} {next : Option TokenKind}
      (left : IsOperand kinds (some .separator)) (right : IsOperand more next) :
      IsExpression (kinds ++ .separator :: more) next
  | parenthesized {kinds : List TokenKind} {next : Option TokenKind}
      (inner : IsExpression kinds (some .closing)) :
      IsExpression (.opening :: (kinds ++ [.closing])) next
  | negation {kinds : List TokenKind} {next : Option TokenKind}
      (inner : IsExpression kinds next) : IsExpression (.negate :: kinds) next

/-- Kinds of tokens that are one expression or more. -/
inductive IsFilter : List TokenKind → Prop
  | last {kinds : List TokenKind} (only : IsExpression kinds none) : IsFilter kinds
  | cons {kinds more : List TokenKind} (first : IsExpression kinds more.head?)
      (later : IsFilter more) : IsFilter (kinds ++ more)

/-! ## Trees -/

namespace Phrase

/-- Whether an expression ends in texts alone. -/
def endsInTexts : Phrase → Bool
  | node .expression _ children => children.getLast?.map kind == some .constant
  | node .negation _ [_, inner] => endsInTexts inner
  | _ => false

/-- Whether the first token that a tree spells is a text. -/
def beginsWithText (phrase : Phrase) : Bool :=
  phrase.leaves.head?.map Prod.fst == some .text

/-- An expression and the next one that do not share a run of texts. -/
def Apart (one next : Phrase) : Prop :=
  ¬(one.endsInTexts = true ∧ next.beginsWithText = true)

/-- The trees of filters. Texts alone at the end of an expression are the whole run. -/
structure IsTree (phrase : Phrase) : Prop where
  isRoot : phrase.kind = .root
  shaped : phrase.WellShaped
  whole : phrase.children.IsChain Apart

end Phrase

/-! ## Parentheses of a text -/

/-- A token that is a parenthesis has the text of one. -/
def Token.SpellsMark (token : Token) : Prop :=
  (token.kind = .opening → token.text = "(") ∧ (token.kind = .closing → token.text = ")")

theorem Token.SpellsMark.of_kind {token : Token} (notOpening : token.kind ≠ .opening)
    (notClosing : token.kind ≠ .closing) : token.SpellsMark :=
  ⟨fun same => absurd same notOpening, fun same => absurd same notClosing⟩

theorem wordKind_mem (word : List Char) : wordKind word ∈ [.operator, .present, .text] := by
  unfold wordKind
  split
  · simp
  · split <;> simp

theorem Lexeme.kind_of_doubled {kind : TokenKind} {c : Char} {rest : List Char} {position : Nat}
    {lexeme : Lexeme} (h : doubled kind c rest position = .ok lexeme) : lexeme.kind = kind := by
  rw [doubled] at h
  split at h
  · cases h
    rfl
  · cases h

theorem Lexeme.kind_of_quoted {rest : List Char} {position : Nat} {lexeme : Lexeme}
    (h : quoted rest position = .ok lexeme) : lexeme.kind = .text := by
  rw [quoted] at h
  split at h
  · cases h
    rfl
  · cases h

/-- What is read at a character is a parenthesis only if the character is one. -/
theorem Lexeme.cases_of_first {c : Char} {rest : List Char} {position : Nat} {lexeme : Lexeme}
    (h : first c rest position = .ok lexeme) :
    lexeme = plain .opening ['('] ∨ lexeme = plain .closing [')'] ∨
      lexeme.kind ∉ [.opening, .closing] := by
  rw [first] at h
  split_ifs at h with isOpening isClosing isOrder isBang isUnequal isEqual isConnective isQuote
  · cases h
    exact .inl (by rw [isOpening])
  · cases h
    exact .inr (.inl (by rw [isClosing]))
  · cases h
    exact .inr (.inr (by simp [plain]))
  · cases h
    exact .inr (.inr (by simp [plain]))
  · cases h
    exact .inr (.inr (by simp [plain]))
  · exact .inr (.inr (by simp [kind_of_doubled h]))
  · exact .inr (.inr (by simp [kind_of_doubled h]))
  · exact .inr (.inr (by simp [kind_of_quoted h]))
  · cases h
    have word := wordKind_mem (c :: rest.takeWhile fun d => !endsWord d)
    simp only [List.mem_cons, List.not_mem_nil, or_false] at word
    refine .inr (.inr ?_)
    simp only [plain]
    rcases word with same | same | same <;> rw [same] <;> simp

/-- Every token of a text is read at a character that is no blank. -/
theorem Token.exists_first_of_scanFrom {cs : List Char} {position : Nat} {tokens : List Token}
    (h : scanFrom position cs = .ok tokens) : ∀ token ∈ tokens, ∃ c rest start lexeme,
      Text.isBlank c = false ∧ Lexeme.first c rest start = .ok lexeme ∧
        token = ⟨lexeme.kind, String.ofList lexeme.text, start⟩ := by
  induction position, cs using scanFrom.induct generalizing tokens with
  | case1 position =>
    rw [scanFrom_nil] at h
    cases h
    simp
  | case2 position c rest blank ih =>
    rw [scanFrom_of_blank blank] at h
    exact ih h
  | case3 position c rest ink fault failed =>
    rw [scanFrom_of_error (Bool.eq_false_iff.mpr ink) failed] at h
    cases h
  | case4 position c rest ink lexeme found ih =>
    rw [scanFrom_of_ok (Bool.eq_false_iff.mpr ink) found] at h
    cases later : scanFrom (position + byteLength lexeme.source)
        (rest.drop (lexeme.source.length - 1)) with
    | error fault => simp [later, Except.map] at h
    | ok tokens =>
      simp only [later, Except.map, Except.ok.injEq] at h
      subst h
      exact List.forall_mem_cons.mpr
        ⟨⟨c, rest, position, lexeme, Bool.eq_false_iff.mpr ink, found, rfl⟩, ih later⟩

/-- The parentheses among the tokens of a text are spelled as such. -/
theorem Token.spellsMark_of_scan {text : String} {tokens : List Token}
    (h : scan text = .ok tokens) : ∀ token ∈ tokens, token.SpellsMark := by
  intro token mem
  obtain ⟨c, rest, start, lexeme, -, read, rfl⟩ := exists_first_of_scanFrom h token mem
  rcases Lexeme.cases_of_first read with same | same | other
  · simp [SpellsMark, same, Lexeme.plain]
  · simp [SpellsMark, same, Lexeme.plain]
  · simp only [List.mem_cons, List.not_mem_nil, or_false, not_or] at other
    exact .of_kind other.1 other.2

/-! ## Operands -/

namespace Phrase

variable {tokens own rest : List Token} {phrase : Phrase}

/-- Tokens as the parts of an operand: the tokens that it takes, as a node of its kind. -/
structure IsOperandOf (phrase : Phrase) (own rest : List Token) : Prop where
  isOperand : phrase.kind.isOperand = true
  shape : phrase.kind.Shape ((own.map Token.kind).map TokenKind.phraseKind)
  eq_group : phrase = group phrase.kind (own.map Token.phrase)
  whole : phrase.kind = .constant → headKind? rest ≠ some .text

/-- An operand spells the tokens that it takes. -/
theorem IsOperandOf.spells (h : IsOperandOf phrase own rest) : phrase.Spells own := by
  have plain : ∀ token ∈ own, token.kind.IsPlain := fun token mem =>
    h.shape.isToken h.isOperand _ (List.mem_map_of_mem (List.mem_map_of_mem mem))
  have shape := h.shape
  rw [List.map_map] at shape
  rw [h.eq_group, spells_operand h.isOperand, List.map_map]
  exact ⟨shape, spellAll_phrases plain⟩

theorem Texts.map_kind (h : Texts tokens) : ∃ more, tokens.length = more + 1 ∧
    tokens.map Token.kind = List.replicate (more + 1) .text := by
  obtain ⟨more, length⟩ := Nat.exists_eq_succ_of_ne_zero
    (fun none => h.nonempty (List.length_eq_zero_iff.mp none))
  refine ⟨more, length, List.eq_replicate_iff.mpr ⟨by rw [List.length_map, length], ?_⟩⟩
  intro kind mem
  obtain ⟨token, inside, rfl⟩ := List.mem_map.mp mem
  exact h.all token inside

/-- Texts and the tokens after them, as an operand that is not texts alone. -/
theorem Texts.isOperandOf {texts : List Token} (h : Texts texts) (others : List Token)
    {kind : PhraseKind} (isOperand : kind.isOperand = true) (mixed : kind ≠ .constant)
    (shape : kind.Shape (List.replicate texts.length .text ++
      (others.map Token.kind).map TokenKind.phraseKind)) :
    IsOperandOf (group kind (texts.map Token.phrase ++ others.map Token.phrase))
      (texts ++ others) rest := by
  obtain ⟨more, length, kinds⟩ := h.map_kind
  refine ⟨isOperand, ?_, ?_, fun same => absurd same mixed⟩
  · rw [List.map_append, List.map_append, kinds, ← length, List.map_replicate]
    exact shape
  · rw [List.map_append]
    rfl

theorem ReadsOperand.spells (h : ReadsOperand tokens phrase rest) : ∃ own, tokens = own ++ rest ∧
    IsOperandOf phrase own rest ∧ IsOperand (own.map Token.kind) (headKind? rest) := by
  cases h with
  | @operation texts rest operator value h isOperator isText =>
    obtain ⟨more, length, kinds⟩ := h.map_kind
    refine ⟨texts ++ [operator, value], by simp, h.isOperandOf [operator, value] ?_ ?_ ?_, ?_⟩
    · split <;> rfl
    · split <;> exact PhraseKind.noConfusion
    · rw [length, List.map_cons, List.map_singleton, isOperator, isText]
      exact PhraseKind.shape_operation more
    · rw [List.map_append, kinds, List.map_cons, List.map_singleton, isOperator, isText]
      exact .operation more _
  | @presence texts rest mark h isPresent =>
    obtain ⟨more, length, kinds⟩ := h.map_kind
    refine ⟨texts ++ [mark], by simp, h.isOperandOf [mark] ?_ ?_ ?_, ?_⟩
    · split <;> rfl
    · split <;> exact PhraseKind.noConfusion
    · rw [length, List.map_singleton, isPresent]
      exact PhraseKind.shape_presence more
    · rw [List.map_append, kinds, List.map_singleton, isPresent]
      exact .presence more _
  | @constant texts rest h next =>
    obtain ⟨more, -, kinds⟩ := h.map_kind
    have whole : headKind? rest ≠ some .text := fun same => next (by simp [same])
    refine ⟨texts, rfl, ⟨rfl, ?_, rfl, fun _ => whole⟩, ?_⟩
    · rw [kinds, List.map_replicate]
      exact .constant more
    · rw [kinds]
      exact .constant more whole

theorem Texts.of_map_kind {more : Nat}
    (h : (tokens.map Token.kind).map TokenKind.phraseKind = List.replicate (more + 1) .text) :
    Texts tokens ∧ tokens.length = more + 1 := by
  rw [List.map_map, List.eq_replicate_iff, List.length_map] at h
  refine ⟨⟨fun none => by simp [none] at h, fun token mem => ?_⟩, h.1⟩
  have isText := h.2 _ (List.mem_map_of_mem mem)
  exact TokenKind.IsPlain.eq_of_phraseKind rfl isText

/-- Tokens that are the parts of an operand are read as this operand. -/
theorem IsOperandOf.reads (h : IsOperandOf phrase own rest)
    (next : headKind? rest ∉ [some .operator, some .present]) :
    ReadsOperand (own ++ rest) phrase rest := by
  obtain ⟨more, tail, parts, kinds⟩ := h.shape.of_isOperand h.isOperand
  rw [List.map_map] at parts
  obtain ⟨texts, others, rfl, areTexts, areOthers⟩ := List.map_eq_append_iff.mp parts
  rw [← List.map_map] at areTexts
  obtain ⟨areTexts, length⟩ := Texts.of_map_kind areTexts
  rw [h.eq_group, List.append_assoc, List.map_append]
  rcases kinds with ⟨rfl, same⟩ | ⟨rfl, same⟩ | ⟨rfl, same⟩
  · obtain ⟨operator, _, rfl, isOperator, later⟩ := List.map_eq_cons_iff.mp areOthers
    obtain ⟨value, _, rfl, isText, later⟩ := List.map_eq_cons_iff.mp later
    rw [List.map_eq_nil_iff] at later
    rw [later, same, ← length]
    exact .operation areTexts (TokenKind.IsPlain.eq_of_phraseKind rfl isOperator)
      (TokenKind.IsPlain.eq_of_phraseKind rfl isText)
  · obtain ⟨mark, _, rfl, isPresent, later⟩ := List.map_eq_cons_iff.mp areOthers
    rw [List.map_eq_nil_iff] at later
    rw [later, same, ← length]
    exact .presence areTexts (TokenKind.IsPlain.eq_of_phraseKind rfl isPresent)
  · rw [List.map_eq_nil_iff] at areOthers
    rw [areOthers, same, List.map_nil, List.append_nil]
    have whole := h.whole same
    refine .constant areTexts ?_
    simp only [List.mem_cons, List.not_mem_nil, or_false, not_or] at next ⊢
    exact ⟨whole, next⟩

/-- An operand that spells some tokens is made of these tokens. -/
theorem Spells.isOperandOf (h : phrase.Spells own) (isOperand : phrase.kind.isOperand = true)
    (whole : phrase.kind = .constant → headKind? rest ≠ some .text) :
    IsOperandOf phrase own rest := by
  have made := h.shaped.eq_group (PhraseKind.isToken_of_isOperand isOperand)
  rw [made, spells_operand isOperand] at h
  obtain ⟨shape, all⟩ := h
  have tokens := all.eq_phrases fun child mem =>
    shape.isToken isOperand _ (List.mem_map_of_mem mem)
  rw [tokens, List.map_map] at shape
  refine ⟨isOperand, by rwa [List.map_map], by rwa [← tokens], whole⟩

/-! ## Expressions -/

/-- Tokens as an expression: a tree that spells the tokens that it takes. -/
structure IsExpressionOf (phrase : Phrase) (own rest : List Token) : Prop where
  isExpression : phrase.kind.isExpression = true
  spells : phrase.Spells own
  whole : phrase.endsInTexts = true → headKind? rest ≠ some .text

/-- An expression of the grammar spells the tokens that it takes. -/
theorem ReadsExpression.spells (h : ReadsExpression tokens phrase rest)
    (marks : ∀ token ∈ tokens, token.SpellsMark) : ∃ own, tokens = own ++ rest ∧
      IsExpressionOf phrase own rest ∧ IsExpression (own.map Token.kind) (headKind? rest) := by
  induction h with
  | single h next =>
    obtain ⟨own, rfl, operand, derived⟩ := h.spells
    refine ⟨own, rfl, ⟨rfl, spells_single.mpr ⟨operand.isOperand, operand.spells⟩, ?_⟩,
      .single derived⟩
    intro ends
    exact operand.whole (by simpa [endsInTexts, group] using ends)
  | @joined _ more rest separator left right first isSeparator second =>
    obtain ⟨own, rfl, one, derived⟩ := first.spells
    obtain ⟨others, rfl, two, derived'⟩ := second.spells
    refine ⟨own ++ separator :: others, by simp, ⟨rfl, ?_, ?_⟩, ?_⟩
    · exact spells_joined.mpr ⟨one.isOperand, two.isOperand, own, others, separator, rfl,
        isSeparator, rfl, one.spells, two.spells⟩
    · intro ends
      exact two.whole (by simpa [endsInTexts, group] using ends)
    · rw [List.map_append, List.map_cons, isSeparator]
      rw [headKind?_cons, isSeparator] at derived
      exact .joined derived derived'
  | @parenthesized tokens rest opening close inner isOpening h isClosing ih =>
    obtain ⟨first, marks⟩ := List.forall_mem_cons.mp marks
    obtain ⟨own, rfl, inside, derived⟩ := ih marks
    have last : close.SpellsMark := marks close (by simp)
    refine ⟨opening :: (own ++ [close]), by simp, ⟨rfl, ?_, Bool.noConfusion⟩, ?_⟩
    · refine spells_parenthesized.mpr ⟨inside.isExpression, opening, own, close, rfl, ?_, ?_,
        inside.spells⟩
      · exact Prod.ext isOpening (first.1 isOpening)
      · exact Prod.ext isClosing (last.2 isClosing)
    · rw [List.map_cons, List.map_append, List.map_singleton, isOpening, isClosing]
      rw [headKind?_cons, isClosing] at derived
      exact .parenthesized derived
  | @negation tokens rest mark inner isNegate h ih =>
    obtain ⟨own, rfl, inside, derived⟩ := ih (List.forall_mem_cons.mp marks).2
    refine ⟨mark :: own, rfl, ⟨rfl, ?_, ?_⟩, ?_⟩
    · exact spells_negation.mpr ⟨inside.isExpression, own, mark, rfl, isNegate, rfl, inside.spells⟩
    · intro ends
      exact inside.whole (by simpa [endsInTexts, group] using ends)
    · rw [List.map_cons, isNegate]
      exact .negation derived

/-- Tokens that are spelled by an expression are read as this expression. -/
theorem IsExpressionOf.reads (h : IsExpressionOf phrase own rest)
    (next : headKind? rest ∉ [some .separator, some .operator, some .present]) :
    ReadsExpression (own ++ rest) phrase rest := by
  induction phrase using Phrase.induction generalizing own rest with
  | node kind text children ih =>
    obtain ⟨isExpression, spells, whole⟩ := h
    have shape := (wellShaped_node.mp spells.shaped).1.1
    have made := spells.shaped.eq_group (by cases kind <;> first | rfl | cases isExpression)
    simp only [Phrase.kind, Phrase.children] at made
    rw [made] at spells whole ⊢
    simp only [List.mem_cons, List.not_mem_nil, or_false, not_or] at next
    cases kind with
    | expression =>
      rcases shape.of_expression with ⟨_, same, -⟩ | ⟨_, _, same, -⟩
      · obtain ⟨only, rfl, -⟩ := List.map_eq_singleton_iff.mp same
        obtain ⟨isOperand, spells⟩ := spells_single.mp spells
        have operand : IsOperandOf only own rest :=
          spells.isOperandOf isOperand fun texts => whole (by simp [endsInTexts, group, texts])
        exact .single (operand.reads (by simp [next])) next.1
      · obtain ⟨left, _, rfl, -, same⟩ := List.map_eq_cons_iff.mp same
        obtain ⟨separator, _, rfl, -, same⟩ := List.map_eq_cons_iff.mp same
        obtain ⟨right, rfl, -⟩ := List.map_eq_singleton_iff.mp same
        obtain ⟨isLeft, isRight, one, two, mark, rfl, isSeparator, rfl, first, second⟩ :=
          spells_joined.mp spells
        have right : IsOperandOf right two rest :=
          second.isOperandOf isRight fun texts => whole (by simp [endsInTexts, group, texts])
        have left : IsOperandOf left one (mark :: (two ++ rest)) :=
          first.isOperandOf isLeft fun _ => by simp [isSeparator]
        rw [List.append_assoc]
        exact .joined (left.reads (by simp [isSeparator])) isSeparator
          (right.reads (by simp [next]))
    | parenthesized =>
      obtain ⟨_, same, -⟩ := shape.of_parenthesized
      obtain ⟨inner, rfl, -⟩ := List.map_eq_singleton_iff.mp same
      obtain ⟨isInner, opening, within, close, rfl, isOpening, isClosing, inside⟩ :=
        spells_parenthesized.mp spells
      have isClosing : close.kind = .closing := congrArg Prod.fst isClosing
      have isExpression : IsExpressionOf inner within (close :: rest) :=
        ⟨isInner, inside, fun _ => by simp [isClosing]⟩
      have read := ih inner (by simp) isExpression (by simp [isClosing])
      rw [List.cons_append, List.append_assoc]
      exact .parenthesized (congrArg Prod.fst isOpening) read isClosing
    | negation =>
      obtain ⟨_, same, -⟩ := shape.of_negation
      obtain ⟨sign, _, rfl, -, same⟩ := List.map_eq_cons_iff.mp same
      obtain ⟨inner, rfl, -⟩ := List.map_eq_singleton_iff.mp same
      obtain ⟨isInner, more, mark, rfl, isNegate, rfl, inside⟩ := spells_negation.mp spells
      refine .negation isNegate (ih inner (by simp) ⟨isInner, inside, ?_⟩ ?_)
      · intro ends
        exact whole (by simpa [endsInTexts, group] using ends)
      · simp [next]
    | _ => cases isExpression

/-! ## Filters -/

theorem Spells.beginsWithText_iff (h : phrase.Spells own) :
    phrase.beginsWithText = true ↔ headKind? own = some .text := by
  rw [beginsWithText, h.leaves, List.head?_map, Option.map_map, beq_iff_eq]
  rfl

theorem Spells.nonempty (h : phrase.Spells own) (isExpression : phrase.kind.isExpression = true) :
    own ≠ [] := by
  have expression : IsExpressionOf phrase own [] := ⟨isExpression, h, fun _ => nofun⟩
  have read := expression.reads (by simp)
  rw [List.append_nil] at read
  exact read.nonempty

theorem SpellAll.headKind?_iff {phrases : List Phrase} (h : SpellAll phrases tokens)
    (all : ∀ phrase ∈ phrases, phrase.kind.isExpression = true) :
    headKind? tokens = some .text ↔ ∃ next ∈ phrases.head?, next.beginsWithText = true := by
  cases phrases with
  | nil => simp [spellAll_nil.mp h]
  | cons next phrases =>
    obtain ⟨own, rest, rfl, first, -⟩ := spellAll_cons.mp h
    obtain ⟨token, more, rfl⟩ :=
      List.exists_cons_of_ne_nil (first.nonempty (all next List.mem_cons_self))
    simp [first.beginsWithText_iff]

theorem ReadsExpression.headKind?_mem (h : ReadsExpression tokens phrase rest) :
    headKind? tokens ∈ [some .text, some .opening, some .negate] := by
  cases h with
  | single h => simp [h.headKind?_eq]
  | joined first => simp [first.headKind?_eq]
  | parenthesized isOpening => simp [isOpening]
  | negation isNegate => simp [isNegate]

theorem ReadsExpressions.nonempty {phrases : List Phrase} (h : ReadsExpressions tokens phrases)
    (some : phrases ≠ []) : tokens ≠ [] := by
  cases h with
  | nil => exact absurd rfl some
  | cons first => exact first.nonempty

theorem ReadsExpressions.headKind?_notMem {phrases : List Phrase}
    (h : ReadsExpressions tokens phrases) :
    headKind? tokens ∉ [some .separator, some .operator, some .present] := by
  cases h with
  | nil => simp
  | cons first later =>
    have head := first.headKind?_mem
    simp only [List.mem_cons, List.not_mem_nil, or_false] at head
    rcases head with same | same | same <;> simp [same]

/-- Expressions of the grammar spell the tokens that they are read from. -/
theorem ReadsExpressions.spells {phrases : List Phrase} (h : ReadsExpressions tokens phrases)
    (marks : ∀ token ∈ tokens, token.SpellsMark) :
    SpellAll phrases tokens ∧ (∀ phrase ∈ phrases, phrase.kind.isExpression = true) ∧
      phrases.IsChain Apart ∧ (tokens ≠ [] → IsFilter (tokens.map Token.kind)) := by
  induction h with
  | nil => exact ⟨spellAll_nil.mpr rfl, by simp, .nil, fun h => absurd rfl h⟩
  | @cons tokens rest phrase phrases first later ih =>
    obtain ⟨own, rfl, expression, derived⟩ := first.spells marks
    obtain ⟨spells, all, chain, filter⟩ := ih fun token mem => marks token (by simp [mem])
    refine ⟨spellAll_cons.mpr ⟨own, rest, rfl, expression.spells, spells⟩,
      List.forall_mem_cons.mpr ⟨expression.isExpression, all⟩, ?_, fun _ => ?_⟩
    · refine List.isChain_cons.mpr ⟨fun next mem => ?_, chain⟩
      rintro ⟨ends, begins⟩
      exact expression.whole ends ((spells.headKind?_iff all).mpr ⟨next, mem, begins⟩)
    · rw [List.map_append]
      cases rest with
      | nil =>
        rw [List.map_nil, List.append_nil]
        exact .last derived
      | cons token rest => exact .cons derived (filter (List.cons_ne_nil token rest))

/-- Tokens that expressions spell are read as these expressions. -/
theorem SpellAll.reads {phrases : List Phrase} (h : SpellAll phrases tokens)
    (all : ∀ phrase ∈ phrases, phrase.kind.isExpression = true) (chain : phrases.IsChain Apart) :
    ReadsExpressions tokens phrases := by
  induction phrases generalizing tokens with
  | nil =>
    rw [spellAll_nil.mp h]
    exact .nil
  | cons phrase phrases ih =>
    obtain ⟨own, rest, rfl, first, later⟩ := spellAll_cons.mp h
    obtain ⟨isExpression, others⟩ := List.forall_mem_cons.mp all
    obtain ⟨apart, chain⟩ := List.isChain_cons.mp chain
    have read := ih later others chain
    have whole : phrase.endsInTexts = true → headKind? rest ≠ some .text := by
      intro ends text
      obtain ⟨next, mem, begins⟩ := (later.headKind?_iff others).mp text
      exact apart next mem ⟨ends, begins⟩
    have expression : IsExpressionOf phrase own rest := ⟨isExpression, first, whole⟩
    exact .cons (expression.reads read.headKind?_notMem) read

theorem Texts.of_kinds {more : Nat} (h : tokens.map Token.kind = List.replicate (more + 1) .text) :
    Texts tokens := by
  have kinds : (tokens.map Token.kind).map TokenKind.phraseKind =
      List.replicate (more + 1) .text := by
    rw [h, List.map_replicate]
    rfl
  exact (Texts.of_map_kind kinds).1

end Phrase

/-! ## What the parser accepts -/

open Phrase

variable {tokens own rest : List Token} {phrase : Phrase}
variable {kinds : List TokenKind} {next : Option TokenKind}

/-- Tokens of the kinds of an operand are read as an operand. -/
theorem IsOperand.reads (h : IsOperand kinds next) (same : own.map Token.kind = kinds)
    (after : headKind? rest = next) (other : next ∉ [some .operator, some .present]) :
    ∃ phrase, ReadsOperand (own ++ rest) phrase rest := by
  cases h with
  | operation more =>
    obtain ⟨texts, _, rfl, areTexts, same⟩ := List.map_eq_append_iff.mp same
    obtain ⟨operator, _, rfl, isOperator, same⟩ := List.map_eq_cons_iff.mp same
    obtain ⟨value, rfl, isText⟩ := List.map_eq_singleton_iff.mp same
    rw [List.append_assoc]
    exact ⟨_, .operation (.of_kinds areTexts) isOperator isText⟩
  | presence more =>
    obtain ⟨texts, _, rfl, areTexts, same⟩ := List.map_eq_append_iff.mp same
    obtain ⟨mark, rfl, isPresent⟩ := List.map_eq_singleton_iff.mp same
    rw [List.append_assoc]
    exact ⟨_, .presence (.of_kinds areTexts) isPresent⟩
  | constant more whole =>
    refine ⟨_, .constant (.of_kinds same) ?_⟩
    rw [after]
    exact List.not_mem_cons_of_ne_of_not_mem whole other

/-- Tokens of the kinds of an expression are read as an expression. -/
theorem IsExpression.reads (h : IsExpression kinds next) (same : own.map Token.kind = kinds)
    (after : headKind? rest = next)
    (other : next ∉ [some .separator, some .operator, some .present]) :
    ∃ phrase, ReadsExpression (own ++ rest) phrase rest := by
  induction h generalizing own rest with
  | single only =>
    obtain ⟨phrase, read⟩ := only.reads same after (List.not_mem_of_not_mem_cons other)
    refine ⟨_, .single read ?_⟩
    rw [after]
    exact List.ne_of_not_mem_cons other
  | joined left right =>
    obtain ⟨one, _, rfl, isLeft, same⟩ := List.map_eq_append_iff.mp same
    obtain ⟨separator, two, rfl, isSeparator, isRight⟩ := List.map_eq_cons_iff.mp same
    have split : headKind? (separator :: (two ++ rest)) = some .separator :=
      congrArg some isSeparator
    obtain ⟨phrase, first⟩ := left.reads isLeft split (by simp)
    obtain ⟨phrase', second⟩ := right.reads isRight after (List.not_mem_of_not_mem_cons other)
    rw [List.append_assoc]
    exact ⟨_, .joined first isSeparator second⟩
  | parenthesized inner ih =>
    obtain ⟨opening, _, rfl, isOpening, same⟩ := List.map_eq_cons_iff.mp same
    obtain ⟨within, _, rfl, inside, same⟩ := List.map_eq_append_iff.mp same
    obtain ⟨close, rfl, isClosing⟩ := List.map_eq_singleton_iff.mp same
    have closed : headKind? (close :: rest) = some .closing := congrArg some isClosing
    obtain ⟨phrase, read⟩ := ih inside closed (by simp)
    rw [List.cons_append, List.append_assoc]
    exact ⟨_, .parenthesized isOpening read isClosing⟩
  | negation inner ih =>
    obtain ⟨mark, more, rfl, isNegate, inside⟩ := List.map_eq_cons_iff.mp same
    obtain ⟨phrase, read⟩ := ih inside after other
    exact ⟨_, .negation isNegate read⟩

/-- Tokens of the kinds of a filter are read as expressions. -/
theorem IsFilter.reads (h : IsFilter kinds)
    (same : tokens.map Token.kind = kinds) : ∃ phrases, ReadsExpressions tokens phrases := by
  induction h generalizing tokens with
  | last only =>
    have none : headKind? [] = none := rfl
    obtain ⟨phrase, read⟩ := only.reads same none (by simp)
    rw [List.append_nil] at read
    exact ⟨[phrase], .cons read .nil⟩
  | cons first later ih =>
    obtain ⟨own, rest, rfl, isFirst, isLater⟩ := List.map_eq_append_iff.mp same
    obtain ⟨phrases, reads⟩ := ih isLater
    have after : headKind? rest = (rest.map Token.kind).head? := List.head?_map.symm
    rw [isLater] at after
    have other := reads.headKind?_notMem
    rw [after] at other
    obtain ⟨phrase, read⟩ := first.reads isFirst after other
    exact ⟨phrase :: phrases, .cons read reads⟩

theorem IsExpression.nonempty (h : IsExpression kinds next) : kinds ≠ [] := by
  cases h with
  | single only => cases only <;> simp [List.replicate_succ]
  | _ => simp

theorem IsFilter.nonempty (h : IsFilter kinds) : kinds ≠ [] := by
  cases h with
  | last only => exact only.nonempty
  | cons first => exact List.append_ne_nil_of_left_ne_nil first.nonempty _

/-- The parser accepts tokens of the kinds of a filter, and nothing else. -/
theorem Phrase.exists_ofTokens_iff (marks : ∀ token ∈ tokens, token.SpellsMark) :
    (∃ phrase, ofTokens tokens = .ok phrase) ↔ IsFilter (tokens.map Token.kind) := by
  simp only [ofTokens_eq_ok_iff]
  constructor
  · rintro ⟨phrase, nonempty, phrases, reads, -⟩
    exact (reads.spells marks).2.2.2 nonempty
  · intro h
    obtain ⟨phrases, reads⟩ := h.reads rfl
    exact ⟨_, fun none => h.nonempty (by rw [none]; rfl), phrases, reads, rfl⟩

/-- The tree of some tokens is a tree of a filter that spells them, and it is the only one. -/
theorem Phrase.ofTokens_iff_isTree (marks : ∀ token ∈ tokens, token.SpellsMark) :
    ofTokens tokens = .ok phrase ↔ phrase.leaves = tokens.map Token.shape ∧ phrase.IsTree := by
  have root (phrases : List Phrase) : (group .root phrases).Spells tokens ↔
      PhraseKind.Shape .root (phrases.map Phrase.kind) ∧ SpellAll phrases tokens :=
    spells_group rfl PhraseKind.noConfusion
  rw [ofTokens_eq_ok_iff]
  constructor
  · rintro ⟨nonempty, phrases, reads, rfl⟩
    obtain ⟨all, expressions, chain, -⟩ := reads.spells marks
    have spells := (root phrases).mpr ⟨?_, all⟩
    · exact ⟨spells.leaves, rfl, spells.shaped, chain⟩
    · refine .root (fun none => nonempty ?_) ?_
      · rw [List.map_eq_nil_iff] at none
        exact spellAll_nil.mp (none ▸ all)
      · intro part mem
        obtain ⟨child, inside, rfl⟩ := List.mem_map.mp mem
        exact expressions child inside
  · rintro ⟨leaves, isRoot, shaped, whole⟩
    have made := shaped.eq_group (by rw [isRoot]; rfl)
    rw [isRoot] at made
    obtain ⟨shape, all⟩ := (root phrase.children).mp ⟨by rw [← made]; exact leaves, made ▸ shaped⟩
    obtain ⟨nonempty, expressions⟩ := shape.of_root
    have reads : ReadsExpressions tokens phrase.children :=
      all.reads (fun child mem => expressions _ (List.mem_map_of_mem mem)) whole
    refine ⟨reads.nonempty fun none => nonempty ?_, phrase.children, reads, made⟩
    rw [none, List.map_nil]

/-- The parser accepts the tokens of a text exactly if the grammar derives their kinds, and it
builds the only tree of a filter whose leaves are these tokens. -/
theorem Phrase.ofTokens_of_scan {text : String} {tokens : List Token}
    (scanned : Token.scan text = .ok tokens) :
    ((∃ phrase, ofTokens tokens = .ok phrase) ↔ IsFilter (tokens.map Token.kind)) ∧
    ∀ phrase, ofTokens tokens = .ok phrase ↔
      phrase.leaves = tokens.map Token.shape ∧ phrase.IsTree := by
  have marks := Token.spellsMark_of_scan scanned
  exact ⟨exists_ofTokens_iff marks, fun phrase => ofTokens_iff_isTree marks⟩

/-- A negated group, and a run of two texts. -/
theorem Phrase.ofTokens_of_scan_negation :
    ∃ tokens phrase, Token.scan "!(a == 1) b c" = .ok tokens ∧ ofTokens tokens = .ok phrase ∧
      phrase.dump = "(Root (Negation ! (Parenthesized (Expression (Operation a == 1)))) " ++
        "(Expression (Constant b c)))" ∧
      IsFilter (tokens.map Token.kind) ∧
      phrase.leaves = tokens.map Token.shape ∧ phrase.IsTree := by
  have dump : (parse "!(a == 1) b c").toOption.map Phrase.dump =
      some ("(Root (Negation ! (Parenthesized (Expression (Operation a == 1)))) " ++
        "(Expression (Constant b c)))") := by decide +kernel
  cases scanned : Token.scan "!(a == 1) b c" with
  | error fault => simp [parse, scanned, bind, Except.bind, Except.toOption] at dump
  | ok tokens =>
    cases parsed : ofTokens tokens with
    | error fault => simp [parse, scanned, parsed, bind, Except.bind, Except.toOption] at dump
    | ok phrase =>
      simp only [parse, scanned, bind, Except.bind, parsed, Except.toOption, Option.map_some,
        Option.some.injEq] at dump
      obtain ⟨accepts, built⟩ := ofTokens_of_scan scanned
      obtain ⟨leaves, isTree⟩ := (built phrase).mp parsed
      exact ⟨tokens, phrase, rfl, parsed, dump, accepts.mp ⟨phrase, parsed⟩, leaves, isTree⟩

end EventSieve.Filter
