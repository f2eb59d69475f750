import EventSieve.Filter.Grammar
import EventSieve.Proofs.Lexing

/-!
# Trees of filters

The shape of every node of the tree of a filter, and the tokens that a tree spells. A tree of the
right shapes is told apart by its kind: for every kind one lemma says which tokens it spells, in
terms of what its parts spell.

## Main definitions

* `Phrase.leaves` — the tokens that a tree spells, with the parentheses put back
* `PhraseKind.Shape`, `Phrase.WellShaped` — the kinds of the parts of a node, and trees in which all
  nodes have such parts
* `Phrase.Spells`, `Phrase.SpellAll` — well-shaped trees that spell some tokens

## Main statements

* `Phrase.spells_operand`, `Phrase.spells_single`, `Phrase.spells_joined`,
  `Phrase.spells_parenthesized`, `Phrase.spells_negation` — what the nodes of every kind spell
* `Phrase.Spells.eq_phrase`, `Phrase.SpellAll.eq_phrases` — trees that are tokens
-/
namespace EventSieve.Filter

/-! ## Trees -/

namespace PhraseKind

/-- Whether a phrase of this kind is an operand. -/
def isOperand : PhraseKind → Bool
  | operation | presentOperation | compoundOperation | compoundPresent | constant => true
  | _ => false

/-- Whether a phrase of this kind is an expression. -/
def isExpression : PhraseKind → Bool
  | expression | parenthesized | negation => true
  | _ => false

/-- The kinds of the parts that a phrase of a kind has in the tree of a filter. -/
inductive Shape : PhraseKind → List PhraseKind → Prop
  | root {parts : List PhraseKind} (nonempty : parts ≠ [])
      (all : ∀ part ∈ parts, part.isExpression = true) : Shape .root parts
  | single {only : PhraseKind} (h : only.isOperand = true) : Shape .expression [only]
  | joined {left right : PhraseKind} (first : left.isOperand = true)
      (second : right.isOperand = true) : Shape .expression [left, .separator, right]
  | parenthesized {inner : PhraseKind} (h : inner.isExpression = true) :
      Shape .parenthesized [inner]
  | negation {inner : PhraseKind} (h : inner.isExpression = true) :
      Shape .negation [.negate, inner]
  | operation : Shape .operation [.text, .operator, .text]
  | presentOperation : Shape .presentOperation [.text, .present]
  | compoundOperation (more : Nat) :
      Shape .compoundOperation (List.replicate (more + 2) .text ++ [.operator, .text])
  | compoundPresent (more : Nat) :
      Shape .compoundPresent (List.replicate (more + 2) .text ++ [.present])
  | constant (more : Nat) : Shape .constant (List.replicate (more + 1) .text)
  | token {kind : PhraseKind} (h : kind.isToken = true) : Shape kind []

/-- The kind of the token that a phrase of this kind is. -/
def tokenKind? : PhraseKind → Option TokenKind
  | text => some .text
  | operator => some .operator
  | present => some .present
  | negate => some .negate
  | separator => some .separator
  | _ => none

end PhraseKind

namespace Phrase

mutual

/-- The tokens that a tree spells, with the parentheses around what is in parentheses. -/
def leaves : Phrase → List (TokenKind × String)
  | node kind text children =>
    match kind.tokenKind? with
    | some token => [(token, text)]
    | none =>
      if kind = .parenthesized then (.opening, "(") :: (allLeaves children ++ [(.closing, ")")])
      else allLeaves children

/-- The tokens that trees spell one after the other. -/
def allLeaves : List Phrase → List (TokenKind × String)
  | [] => []
  | phrase :: rest => leaves phrase ++ allLeaves rest

end

mutual

/-- The nodes of a tree. -/
def nodes : Phrase → List Phrase
  | node kind text children => node kind text children :: allNodes children

/-- The nodes of trees. -/
def allNodes : List Phrase → List Phrase
  | [] => []
  | phrase :: rest => nodes phrase ++ allNodes rest

end

/-- Every node has the shape of its kind, and only tokens have a text. -/
def WellShaped (phrase : Phrase) : Prop :=
  ∀ part ∈ phrase.nodes, part.kind.Shape (part.children.map kind) ∧
    (part.kind.isToken = false → part.text = "")

end Phrase

/-! ## Shapes of kinds -/

theorem PhraseKind.Shape.of_expression {parts : List PhraseKind} (h : Shape .expression parts) :
    (∃ only, parts = [only] ∧ only.isOperand = true) ∨
      ∃ left right, parts = [left, .separator, right] ∧ left.isOperand = true ∧
        right.isOperand = true := by
  cases h with
  | single isOperand => exact .inl ⟨_, rfl, isOperand⟩
  | joined isLeft isRight => exact .inr ⟨_, _, rfl, isLeft, isRight⟩
  | token isToken => cases isToken

theorem PhraseKind.Shape.of_root {parts : List PhraseKind} (h : Shape .root parts) :
    parts ≠ [] ∧ ∀ part ∈ parts, part.isExpression = true := by
  cases h with
  | root nonempty all => exact ⟨nonempty, all⟩
  | token isToken => cases isToken

theorem PhraseKind.Shape.of_parenthesized {parts : List PhraseKind}
    (h : Shape .parenthesized parts) : ∃ inner, parts = [inner] ∧ inner.isExpression = true := by
  cases h with
  | parenthesized isExpression => exact ⟨_, rfl, isExpression⟩
  | token isToken => cases isToken

theorem PhraseKind.Shape.of_negation {parts : List PhraseKind} (h : Shape .negation parts) :
    ∃ inner, parts = [.negate, inner] ∧ inner.isExpression = true := by
  cases h with
  | negation isExpression => exact ⟨_, rfl, isExpression⟩
  | token isToken => cases isToken

/-! ## Nodes and leaves -/

namespace Phrase

/-- What holds of a node where it holds of its parts holds of every tree. -/
theorem induction {motive : Phrase → Prop}
    (node : ∀ kind text children, (∀ child ∈ children, motive child) →
      motive (.node kind text children)) (phrase : Phrase) : motive phrase := by
  induction phrase using nodes.induct (motive_2 := fun children => ∀ child ∈ children, motive child)
  with
  | case1 kind text children ih => exact node kind text children ih
  | case2 child mem => cases mem
  | case3 phrase rest first later child mem =>
    rcases List.mem_cons.mp mem with rfl | mem
    · exact first
    · exact later child mem

theorem mem_allNodes {part : Phrase} {phrases : List Phrase} :
    part ∈ allNodes phrases ↔ ∃ phrase ∈ phrases, part ∈ phrase.nodes := by
  induction phrases with
  | nil => simp [allNodes]
  | cons phrase phrases ih => simp [allNodes, ih]

theorem wellShaped_node {kind : PhraseKind} {text : String} {children : List Phrase} :
    (node kind text children).WellShaped ↔
      (kind.Shape (children.map Phrase.kind) ∧ (kind.isToken = false → text = "")) ∧
        ∀ child ∈ children, child.WellShaped := by
  simp only [WellShaped, nodes, List.forall_mem_cons, mem_allNodes]
  refine and_congr_right fun _ => ⟨fun h child mem part inside => ?_, fun h part mem => ?_⟩
  · exact h part ⟨child, mem, inside⟩
  · obtain ⟨child, mem, inside⟩ := mem
    exact h child mem part inside

theorem wellShaped_group {kind : PhraseKind} {children : List Phrase} :
    (group kind children).WellShaped ↔
      kind.Shape (children.map Phrase.kind) ∧ ∀ child ∈ children, child.WellShaped := by
  rw [group, wellShaped_node]
  simp

/-- A node of the right shape that is no token has no text. -/
theorem WellShaped.eq_group {phrase : Phrase} (h : phrase.WellShaped)
    (notToken : phrase.kind.isToken = false) : phrase = group phrase.kind phrase.children := by
  obtain ⟨kind, text, children⟩ := phrase
  rw [(wellShaped_node.mp h).1.2 notToken]
  rfl

theorem leaves_group {kind : PhraseKind} (notToken : kind.isToken = false)
    (bare : kind ≠ .parenthesized) (children : List Phrase) :
    (group kind children).leaves = allLeaves children := by
  have none : kind.tokenKind? = none := by cases kind <;> first | rfl | cases notToken
  rw [group, leaves, none]
  exact if_neg bare

theorem leaves_parenthesized (inner : Phrase) :
    (group .parenthesized [inner]).leaves =
      (.opening, "(") :: (inner.leaves ++ [(.closing, ")")]) := by
  simp [group, leaves, allLeaves, PhraseKind.tokenKind?]

/-! ## What trees spell -/

/-- A tree of the right shapes that spells some tokens. -/
structure Spells (phrase : Phrase) (tokens : List Token) : Prop where
  leaves : phrase.leaves = tokens.map Token.shape
  shaped : phrase.WellShaped

/-- Trees of the right shapes that spell some tokens one after the other. -/
structure SpellAll (phrases : List Phrase) (tokens : List Token) : Prop where
  leaves : allLeaves phrases = tokens.map Token.shape
  shaped : ∀ phrase ∈ phrases, phrase.WellShaped

variable {phrase : Phrase} {phrases : List Phrase} {tokens : List Token}

theorem spellAll_nil : SpellAll [] tokens ↔ tokens = [] := by
  refine ⟨fun h => List.map_eq_nil_iff.mp h.leaves.symm, ?_⟩
  rintro rfl
  exact ⟨rfl, by simp⟩

theorem spellAll_cons : SpellAll (phrase :: phrases) tokens ↔
    ∃ own more, tokens = own ++ more ∧ phrase.Spells own ∧ SpellAll phrases more := by
  constructor
  · rintro ⟨leaves, shaped⟩
    rw [allLeaves, eq_comm] at leaves
    obtain ⟨own, more, rfl, first, later⟩ := List.map_eq_append_iff.mp leaves
    obtain ⟨one, others⟩ := List.forall_mem_cons.mp shaped
    exact ⟨own, more, rfl, ⟨first.symm, one⟩, ⟨later.symm, others⟩⟩
  · rintro ⟨own, more, rfl, first, later⟩
    refine ⟨?_, List.forall_mem_cons.mpr ⟨first.shaped, later.shaped⟩⟩
    rw [allLeaves, first.leaves, later.leaves, List.map_append]

theorem spellAll_singleton : SpellAll [phrase] tokens ↔ phrase.Spells tokens := by
  simp [spellAll_cons, spellAll_nil]

theorem spells_group {kind : PhraseKind} (notToken : kind.isToken = false)
    (bare : kind ≠ .parenthesized) : (group kind phrases).Spells tokens ↔
      kind.Shape (phrases.map Phrase.kind) ∧ SpellAll phrases tokens := by
  constructor
  · rintro ⟨leaves, shaped⟩
    rw [leaves_group notToken bare] at leaves
    exact ⟨(wellShaped_group.mp shaped).1, leaves, (wellShaped_group.mp shaped).2⟩
  · rintro ⟨shape, leaves, shaped⟩
    exact ⟨by rw [leaves_group notToken bare, leaves], wellShaped_group.mpr ⟨shape, shaped⟩⟩

/-- What is in parentheses spells what is between them. -/
theorem spells_parenthesized {inner : Phrase} : (group .parenthesized [inner]).Spells tokens ↔
    inner.kind.isExpression = true ∧ ∃ opening own close, tokens = opening :: (own ++ [close]) ∧
      opening.shape = (.opening, "(") ∧ close.shape = (.closing, ")") ∧ inner.Spells own := by
  constructor
  · rintro ⟨leaves, shaped⟩
    obtain ⟨shape, shaped⟩ := wellShaped_group.mp shaped
    rw [leaves_parenthesized, eq_comm, List.map_eq_cons_iff] at leaves
    obtain ⟨opening, more, rfl, isOpening, leaves⟩ := leaves
    obtain ⟨own, last, rfl, inside, leaves⟩ := List.map_eq_append_iff.mp leaves
    obtain ⟨close, none, rfl, isClosing, empty⟩ := List.map_eq_cons_iff.mp leaves
    rw [List.map_eq_nil_iff.mp empty]
    refine ⟨?_, opening, own, close, rfl, isOpening, isClosing, inside.symm, shaped inner (by simp)⟩
    obtain ⟨_, same, isExpression⟩ := shape.of_parenthesized
    cases same
    exact isExpression
  · rintro ⟨isExpression, opening, own, close, rfl, isOpening, isClosing, inside⟩
    constructor
    · rw [leaves_parenthesized, inside.leaves, List.map_cons, List.map_append, isOpening,
        List.map_singleton, isClosing]
    · exact wellShaped_group.mpr ⟨.parenthesized isExpression, by simpa using inside.shaped⟩

end Phrase

/-! ## Tokens as trees -/

theorem PhraseKind.Shape.of_isToken {kind : PhraseKind} {parts : List PhraseKind}
    (h : kind.Shape parts) (isToken : kind.isToken = true) : parts = [] := by
  cases h with
  | token => rfl
  | _ => cases isToken

/-- A token that is a phrase of its own: no parenthesis. -/
def TokenKind.IsPlain (kind : TokenKind) : Prop :=
  kind.phraseKind.isToken = true

theorem TokenKind.IsPlain.tokenKind? {kind : TokenKind} (plain : kind.IsPlain) :
    kind.phraseKind.tokenKind? = some kind := by
  cases kind <;> first | rfl | cases plain

theorem TokenKind.IsPlain.eq_of_phraseKind {kind other : TokenKind} (plain : other.IsPlain)
    (same : kind.phraseKind = other.phraseKind) : kind = other := by
  have plain' : kind.IsPlain := by rw [TokenKind.IsPlain, same]; exact plain
  have found := plain'.tokenKind?
  rw [same, plain.tokenKind?] at found
  exact (Option.some.inj found).symm

theorem TokenKind.exists_of_isToken {kind : PhraseKind} (isToken : kind.isToken = true) :
    ∃ token : TokenKind, token.IsPlain ∧ kind = token.phraseKind := by
  cases kind with
  | text => exact ⟨.text, rfl, rfl⟩
  | operator => exact ⟨.operator, rfl, rfl⟩
  | present => exact ⟨.present, rfl, rfl⟩
  | negate => exact ⟨.negate, rfl, rfl⟩
  | separator => exact ⟨.separator, rfl, rfl⟩
  | _ => cases isToken

namespace Phrase

theorem leaves_token {kind : TokenKind} (plain : kind.IsPlain) (text : String) :
    (token kind.phraseKind text).leaves = [(kind, text)] := by
  rw [token, leaves, plain.tokenKind?]

theorem spells_phrase {token : Token} (plain : token.kind.IsPlain) :
    token.phrase.Spells [token] where
  leaves := leaves_token plain token.text
  shaped := wellShaped_node.mpr
    ⟨⟨.token plain, fun no => absurd (plain.symm.trans no) nofun⟩, by simp⟩

/-- A token of the right shape is the token that it spells. -/
theorem Spells.eq_phrase {phrase : Phrase} {tokens : List Token} (h : phrase.Spells tokens)
    (isToken : phrase.kind.isToken = true) :
    ∃ token : Token, token.kind.phraseKind = phrase.kind ∧ token.kind.IsPlain ∧
      tokens = [token] ∧ phrase = token.phrase := by
  obtain ⟨kind, text, children⟩ := phrase
  obtain ⟨kind, plain, rfl⟩ := TokenKind.exists_of_isToken isToken
  have none := (wellShaped_node.mp h.shaped).1.1.of_isToken isToken
  rw [List.map_eq_nil_iff] at none
  subst none
  have leaves := h.leaves
  rw [show node kind.phraseKind text [] = token kind.phraseKind text from rfl, leaves_token plain,
    eq_comm, List.map_eq_cons_iff] at leaves
  obtain ⟨first, others, rfl, same, empty⟩ := leaves
  rw [List.map_eq_nil_iff.mp empty]
  cases same
  exact ⟨first, rfl, plain, rfl, rfl⟩

/-- Trees that are tokens are the tokens that they spell. -/
theorem SpellAll.eq_phrases {phrases : List Phrase} {tokens : List Token}
    (h : SpellAll phrases tokens) (all : ∀ phrase ∈ phrases, phrase.kind.isToken = true) :
    phrases = tokens.map Token.phrase := by
  induction phrases generalizing tokens with
  | nil =>
    rw [spellAll_nil.mp h]
    rfl
  | cons phrase phrases ih =>
    obtain ⟨own, more, rfl, first, later⟩ := spellAll_cons.mp h
    obtain ⟨isToken, others⟩ := List.forall_mem_cons.mp all
    obtain ⟨token, -, -, rfl, rfl⟩ := first.eq_phrase isToken
    rw [ih later others]
    rfl

/-- Tokens as trees spell these tokens. -/
theorem spellAll_phrases {tokens : List Token} (plain : ∀ token ∈ tokens, token.kind.IsPlain) :
    SpellAll (tokens.map Token.phrase) tokens := by
  induction tokens with
  | nil => exact spellAll_nil.mpr rfl
  | cons token tokens ih =>
    obtain ⟨first, later⟩ := List.forall_mem_cons.mp plain
    exact spellAll_cons.mpr ⟨[token], tokens, rfl, spells_phrase first, ih later⟩

end Phrase

/-! ## What operands and expressions spell -/

namespace PhraseKind

theorem isToken_of_isOperand {kind : PhraseKind} (h : kind.isOperand = true) :
    kind.isToken = false := by
  cases kind <;> first | rfl | cases h

/-- An operand is one text or more, and what its kind has after them. -/
theorem Shape.of_isOperand {kind : PhraseKind} {parts : List PhraseKind} (h : kind.Shape parts)
    (isOperand : kind.isOperand = true) : ∃ more tail,
      parts = List.replicate (more + 1) .text ++ tail ∧
      (tail = [.operator, .text] ∧
          kind = (if more + 1 = 1 then .operation else .compoundOperation) ∨
        tail = [.present] ∧
          kind = (if more + 1 = 1 then .presentOperation else .compoundPresent) ∨
        tail = [] ∧ kind = .constant) := by
  cases h with
  | operation => exact ⟨0, _, rfl, .inl ⟨rfl, rfl⟩⟩
  | presentOperation => exact ⟨0, _, rfl, .inr (.inl ⟨rfl, rfl⟩)⟩
  | compoundOperation more => exact ⟨more + 1, _, rfl, .inl ⟨rfl, rfl⟩⟩
  | compoundPresent more => exact ⟨more + 1, _, rfl, .inr (.inl ⟨rfl, rfl⟩)⟩
  | constant more => exact ⟨more, [], (List.append_nil _).symm, .inr (.inr ⟨rfl, rfl⟩)⟩
  | token isToken =>
    rw [isToken_of_isOperand isOperand] at isToken
    cases isToken
  | _ => cases isOperand

theorem shape_operation (more : Nat) :
    Shape (if more + 1 = 1 then .operation else .compoundOperation)
      (List.replicate (more + 1) .text ++ [.operator, .text]) := by
  cases more with
  | zero => exact .operation
  | succ more => exact .compoundOperation more

theorem shape_presence (more : Nat) :
    Shape (if more + 1 = 1 then .presentOperation else .compoundPresent)
      (List.replicate (more + 1) .text ++ [.present]) := by
  cases more with
  | zero => exact .presentOperation
  | succ more => exact .compoundPresent more

theorem Shape.isToken {kind : PhraseKind} {parts : List PhraseKind} (h : kind.Shape parts)
    (isOperand : kind.isOperand = true) : ∀ part ∈ parts, part.isToken = true := by
  obtain ⟨more, tail, rfl, cases⟩ := h.of_isOperand isOperand
  have rest : ∀ part ∈ tail, part.isToken = true := by
    rcases cases with ⟨rfl, -⟩ | ⟨rfl, -⟩ | ⟨rfl, -⟩ <;> decide
  intro part mem
  rcases List.mem_append.mp mem with mem | mem
  · rw [(List.mem_replicate.mp mem).2]
    rfl
  · exact rest part mem

end PhraseKind

namespace Phrase

variable {tokens : List Token}

theorem spells_operand {kind : PhraseKind} {phrases : List Phrase}
    (isOperand : kind.isOperand = true) : (group kind phrases).Spells tokens ↔
      kind.Shape (phrases.map Phrase.kind) ∧ SpellAll phrases tokens := by
  refine spells_group (PhraseKind.isToken_of_isOperand isOperand) fun same => ?_
  rw [same] at isOperand
  cases isOperand

theorem spells_single {only : Phrase} : (group .expression [only]).Spells tokens ↔
    only.kind.isOperand = true ∧ only.Spells tokens := by
  rw [spells_group rfl PhraseKind.noConfusion, spellAll_singleton]
  refine and_congr_left fun _ => ⟨fun shape => ?_, .single⟩
  rcases shape.of_expression with ⟨_, same, isOperand⟩ | ⟨_, _, same, -⟩
  · cases same
    exact isOperand
  · cases same

theorem spells_joined {left separator right : Phrase} :
    (group .expression [left, separator, right]).Spells tokens ↔
      left.kind.isOperand = true ∧ right.kind.isOperand = true ∧
      ∃ own more, ∃ mark : Token, tokens = own ++ mark :: more ∧ mark.kind = .separator ∧
        separator = mark.phrase ∧ left.Spells own ∧ right.Spells more := by
  rw [spells_group rfl PhraseKind.noConfusion]
  constructor
  · rintro ⟨shape, all⟩
    obtain ⟨own, _, rfl, first, others⟩ := spellAll_cons.mp all
    obtain ⟨marks, more, rfl, between, last⟩ := spellAll_cons.mp others
    rcases shape.of_expression with ⟨_, same, -⟩ | ⟨_, _, same, isLeft, isRight⟩
    · cases same
    · simp only [List.map_cons, List.map_nil, List.cons.injEq, and_true] at same
      obtain ⟨rfl, joint, rfl⟩ := same
      obtain ⟨mark, same, -, rfl, rfl⟩ := between.eq_phrase (by rw [joint]; rfl)
      have isSeparator : mark.kind = .separator :=
        TokenKind.IsPlain.eq_of_phraseKind rfl (same.trans joint)
      exact ⟨isLeft, isRight, own, more, mark, rfl, isSeparator, rfl, first,
        spellAll_singleton.mp last⟩
  · rintro ⟨isLeft, isRight, own, more, mark, rfl, isSeparator, rfl, first, second⟩
    constructor
    · have kind : mark.phrase.kind = .separator := congrArg TokenKind.phraseKind isSeparator
      rw [List.map_cons, List.map_cons, List.map_cons, List.map_nil, kind]
      exact .joined isLeft isRight
    · refine spellAll_cons.mpr ⟨own, mark :: more, rfl, first, ?_⟩
      refine spellAll_cons.mpr ⟨[mark], more, rfl, ?_, spellAll_singleton.mpr second⟩
      exact spells_phrase (by rw [isSeparator]; rfl)

theorem spells_negation {sign inner : Phrase} : (group .negation [sign, inner]).Spells tokens ↔
    inner.kind.isExpression = true ∧
    ∃ more, ∃ mark : Token, tokens = mark :: more ∧ mark.kind = .negate ∧
      sign = mark.phrase ∧ inner.Spells more := by
  rw [spells_group rfl PhraseKind.noConfusion]
  constructor
  · rintro ⟨shape, all⟩
    obtain ⟨marks, more, rfl, first, last⟩ := spellAll_cons.mp all
    obtain ⟨_, same, isExpression⟩ := shape.of_negation
    simp only [List.map_cons, List.map_nil, List.cons.injEq, and_true] at same
    obtain ⟨head, rfl⟩ := same
    obtain ⟨mark, same, -, rfl, rfl⟩ := first.eq_phrase (by rw [head]; rfl)
    have isNegate : mark.kind = .negate :=
      TokenKind.IsPlain.eq_of_phraseKind rfl (same.trans head)
    exact ⟨isExpression, more, mark, rfl, isNegate, rfl, spellAll_singleton.mp last⟩
  · rintro ⟨isExpression, more, mark, rfl, isNegate, rfl, inside⟩
    constructor
    · have kind : mark.phrase.kind = .negate := congrArg TokenKind.phraseKind isNegate
      rw [List.map_cons, List.map_cons, List.map_nil, kind]
      exact .negation isExpression
    · refine spellAll_cons.mpr ⟨[mark], more, rfl, ?_, spellAll_singleton.mpr inside⟩
      exact spells_phrase (by rw [isNegate]; rfl)

end Phrase
end EventSieve.Filter
