import EventSieve.Filter.Compile
import Mathlib.Data.List.DropRight
import Mathlib.Data.List.TakeWhile

/-!
# Operands of filter texts

What an operand of a text can say: its field and its value have no blanks at their ends, and it
has a value exactly if its operator takes one. The comparisons of a filter are those of the
operands of its tree, in their order.

## Main definitions

* `Comparison.IsRead`, `Filter.IsRead` — what holds of all that is read from texts
* `Phrase.operandPhrases` — the operands of a tree
* `Phrase.parts` — the phrases that become the clauses of a tree

## Main statements

* `Text.trimChars_trimChars` — blanks are taken off the ends of a text at once
* `unquoteChars_quoted` — the quotes around a text are taken off it
* `Comparison.isRead_of_ofPhrase?`, `Filter.isRead_of_ofPhrase?` — a comparison and a filter that
  are read from a text have what holds of all of them
* `Filter.ofPhrase?_eq_some_iff` — a tree has the filter of the clauses of all its parts
* `Filter.comparisons_of_ofPhrase?` — the comparisons of a filter are those of the operands
-/
namespace EventSieve

open EventSieve.Filter (Phrase PhraseKind)

/-! ## Blanks at the ends -/

namespace Text

theorem trimStart_of_head {cs : List Char} (h : ∀ c ∈ cs.head?, isBlank c = false) :
    trimStart cs = cs := by
  cases cs with
  | nil => rfl
  | cons c cs => exact trimStart_cons (h c rfl) cs

theorem trimEnd_of_last {cs : List Char} (h : ∀ c ∈ cs.getLast?, isBlank c = false) :
    trimEnd cs = cs := by
  show cs.rdropWhile isBlank = cs
  rw [List.rdropWhile_eq_self_iff]
  intro nonempty
  rw [h _ (List.getLast_mem_getLast? nonempty)]
  exact Bool.false_ne_true

/-- A text without blanks at its ends stays as it is. -/
theorem trimChars_of_ends {cs : List Char} (head : ∀ c ∈ cs.head?, isBlank c = false)
    (last : ∀ c ∈ cs.getLast?, isBlank c = false) : trimChars cs = cs := by
  rw [trimChars, trimStart_of_head head, trimEnd_of_last last]

/-- A text without any blanks stays as it is. -/
theorem trimChars_of_all {cs : List Char} (h : ∀ c ∈ cs, isBlank c = false) :
    trimChars cs = cs :=
  trimChars_of_ends (fun c mem => h c (List.mem_of_mem_head? mem))
    fun c mem => h c (List.mem_of_mem_getLast? mem)

/-- A trimmed text begins with no blank. -/
theorem head_trimChars (cs : List Char) : ∀ c ∈ (trimChars cs).head?, isBlank c = false := by
  intro c mem
  obtain ⟨tail, split⟩ := List.rdropWhile_prefix isBlank (trimStart cs)
  have front : c ∈ (trimStart cs).head? := by
    rw [← split]
    exact List.mem_head?_append_of_mem_head? mem
  have := List.head?_dropWhile_not isBlank cs
  rw [show cs.dropWhile isBlank = trimStart cs from rfl, Option.mem_def.mp front] at this
  exact this

/-- A trimmed text ends in no blank. -/
theorem last_trimChars (cs : List Char) : ∀ c ∈ (trimChars cs).getLast?, isBlank c = false := by
  intro c mem
  obtain ⟨nonempty, rfl⟩ := List.mem_getLast?_eq_getLast mem
  exact Bool.eq_false_iff.mpr (List.rdropWhile_last_not isBlank (trimStart cs) nonempty)

@[simp] theorem trimChars_trimChars (cs : List Char) :
    trimChars (trimChars cs) = trimChars cs :=
  trimChars_of_ends (head_trimChars cs) (last_trimChars cs)

theorem trim_eq_self_iff {text : String} :
    trim text = text ↔ trimChars text.toList = text.toList := by
  rw [trim, ← String.toList_inj, String.toList_ofList]

@[simp] theorem trim_ofList_trimChars (cs : List Char) :
    trim (String.ofList (trimChars cs)) = String.ofList (trimChars cs) := by
  rw [trim_eq_self_iff, String.toList_ofList, trimChars_trimChars]

end Text

/-! ## Quotes -/

/-- The quotes around a text are taken off it. -/
theorem unquoteChars_quoted (cs : List Char) : unquoteChars ('"' :: (cs ++ ['"'])) = cs := by
  rw [unquoteChars, List.getLast?_concat, if_pos rfl, List.dropLast_concat]

/-- A text that begins with no quote stays as it is. -/
theorem unquoteChars_of_head {cs : List Char} (h : cs.head? ≠ some '"') : unquoteChars cs = cs := by
  rw [unquoteChars]
  rintro rest rfl
  exact h rfl

theorem unquote_quoted (cs : List Char) :
    unquote (String.ofList ('"' :: (cs ++ ['"']))) = cs := by
  have quote : Text.isBlank '"' = false := rfl
  have ends : Text.trimChars ('"' :: (cs ++ ['"'])) = '"' :: (cs ++ ['"']) := by
    refine Text.trimChars_of_ends (fun c mem => ?_) fun c mem => ?_
    · cases mem
      exact quote
    · rw [← List.cons_append, List.getLast?_concat] at mem
      cases mem
      exact quote
  rw [unquote, String.toList_ofList, ends, unquoteChars_quoted]

/-! ## Comparisons of operands -/

/-- Reading a list succeeds if all its items can be read. -/
theorem mapM_eq_some_iff {α β : Type} {read? : α → Option β} {items : List α} {values : List β} :
    items.mapM read? = some values ↔ items.map read? = values.map some := by
  induction items generalizing values with
  | nil => cases values <;> simp
  | cons item items ih =>
    rw [List.mapM_cons]
    constructor
    · intro h
      obtain ⟨value, first, h⟩ := Option.bind_eq_some_iff.mp h
      obtain ⟨rest, later, h⟩ := Option.bind_eq_some_iff.mp h
      cases h
      rw [List.map_cons, List.map_cons, first, ih.mp later]
    · intro h
      obtain ⟨value, rest, rfl, first, later⟩ := List.map_eq_cons_iff.mp h.symm
      rw [← first, ih.mpr later.symm]
      rfl

/-- Where every item can be read, the values are in the same order. -/
theorem exists_map_eq_map_some {α β : Type} {read? : α → Option β} {items : List α}
    (all : ∀ item ∈ items, ∃ value, read? item = some value) :
    ∃ values : List β, items.map read? = values.map some := by
  induction items with
  | nil => exact ⟨[], rfl⟩
  | cons item items ih =>
    obtain ⟨⟨value, read⟩, later⟩ := List.forall_mem_cons.mp all
    obtain ⟨values, reads⟩ := ih later
    exact ⟨value :: values, by rw [List.map_cons, List.map_cons, read, reads]⟩

theorem values_ne_nil_iff {α β : Type} {read? : α → Option β} {items : List α} {values : List β}
    (h : items.map read? = values.map some) : values ≠ [] ↔ items ≠ [] := by
  rw [Ne, ← List.map_eq_nil_iff (f := some), ← h, List.map_eq_nil_iff]

/-- Texts spell an operand without blanks at its ends. -/
theorem trim_of_joinTexts? {phrases : List Phrase} {text : String}
    (h : joinTexts? phrases = some text) : Text.trim text = text := by
  rw [joinTexts?] at h
  split at h
  · cases h
  · cases h
    exact Text.trim_ofList_trimChars _

namespace Comparison

/-- What holds of every comparison that is read from a text. -/
structure IsRead (comparison : Comparison) : Prop where
  notNegated : comparison.negated = false
  field_trim : Text.trim comparison.field = comparison.field
  value_trim : ∀ value ∈ comparison.value, Text.trim value = value
  value_isSome : comparison.value.isSome = comparison.operator.takesValue

instance (comparison : Comparison) : Decidable comparison.IsRead :=
  decidable_of_iff (comparison.negated = false ∧ Text.trim comparison.field = comparison.field ∧
      (∀ value ∈ comparison.value, Text.trim value = value) ∧
      comparison.value.isSome = comparison.operator.takesValue)
    ⟨fun ⟨h1, h2, h3, h4⟩ => ⟨h1, h2, h3, h4⟩, fun ⟨h1, h2, h3, h4⟩ => ⟨h1, h2, h3, h4⟩⟩

theorem IsRead.exists_value {comparison : Comparison} (h : comparison.IsRead)
    (takesValue : comparison.operator.takesValue = true) :
    ∃ value, comparison.value = some value := by
  rw [← Option.isSome_iff_exists, h.value_isSome]
  exact takesValue

theorem IsRead.value_eq_none {comparison : Comparison} (h : comparison.IsRead)
    (takesNone : ¬comparison.operator.takesValue = true) : comparison.value = none := by
  rw [← Option.not_isSome_iff_eq_none, h.value_isSome]
  exact takesNone

/-- The first operator counts, with what stands on its two sides. -/
theorem ofOperation?_eq {left right : List Phrase} {mark : Phrase}
    (plain : ∀ phrase ∈ left, isOperatorPhrase phrase = false)
    (marked : isOperatorPhrase mark = true) :
    ofOperation? (left ++ mark :: right) =
      (Operator.ofToken? mark.text).bind fun operator =>
        (joinTexts? left).bind fun field =>
          if operator.takesValue then
            (joinTexts? right).bind fun value => some { field, operator, value := some value }
          else if right.isEmpty then some { field, operator, value := none }
          else none := by
  have before : ∀ phrase ∈ left, (!isOperatorPhrase phrase) = true := by
    intro phrase mem
    rw [plain phrase mem]
    rfl
  rw [ofOperation?, List.takeWhile_append_of_pos before, List.dropWhile_append_of_pos before,
    List.takeWhile_cons_of_neg (by simp [marked]), List.dropWhile_cons_of_neg (by simp [marked]),
    List.append_nil]
  rfl

/-- The comparison of an operator between texts. -/
theorem isRead_of_ofOperation? {phrases : List Phrase} {comparison : Comparison}
    (h : ofOperation? phrases = some comparison) : comparison.IsRead := by
  rw [ofOperation?] at h
  split at h
  · cases h
  · next mark right split =>
    obtain ⟨operator, known, h⟩ := Option.bind_eq_some_iff.mp h
    obtain ⟨field, spelled, h⟩ := Option.bind_eq_some_iff.mp h
    split at h
    · next takesValue =>
      obtain ⟨value, spelledValue, h⟩ := Option.bind_eq_some_iff.mp h
      cases h
      exact ⟨rfl, trim_of_joinTexts? spelled,
        fun _ mem => Option.mem_some.mp mem ▸ trim_of_joinTexts? spelledValue, takesValue.symm⟩
    · next takesNone =>
      split at h
      · cases h
        exact ⟨rfl, trim_of_joinTexts? spelled, by simp, (Bool.eq_false_iff.mpr takesNone).symm⟩
      · cases h

theorem ofConstant?_eq (text : String) (children : List Phrase) :
    ofConstant? text children =
      (if children.isEmpty then some (String.ofList (unquote text))
        else joinTexts? children).bind fun spelled =>
          if (Text.trim spelled).isEmpty then none else some (anywhere (Text.trim spelled)) := by
  rw [ofConstant?]
  split <;> rfl

/-- The comparison of texts without an operator is a match of any field. -/
theorem anywhere_of_ofConstant? {text : String} {children : List Phrase} {comparison : Comparison}
    (h : ofConstant? text children = some comparison) :
    ∃ pattern, comparison = anywhere pattern ∧ Text.trim pattern = pattern ∧ pattern ≠ "" := by
  rw [ofConstant?_eq] at h
  obtain ⟨spelled, read, h⟩ := Option.bind_eq_some_iff.mp h
  split at h
  · cases h
  · next nonempty =>
    cases h
    refine ⟨_, rfl, Text.trim_ofList_trimChars _, fun empty => nonempty ?_⟩
    rw [empty]
    rfl

theorem isRead_of_ofPhrase? {phrase : Phrase} {comparison : Comparison}
    (h : ofPhrase? phrase = some comparison) : comparison.IsRead := by
  rw [ofPhrase?] at h
  split at h
  · obtain ⟨pattern, rfl, trimmed, -⟩ := anywhere_of_ofConstant? h
    have star : Text.trim anyField = anyField := by decide
    exact ⟨rfl, star, fun _ mem => Option.mem_some.mp mem ▸ trimmed, rfl⟩
  · split at h
    · exact isRead_of_ofOperation? h
    · cases h
  · split at h
    · exact isRead_of_ofOperation? h
    · cases h
  · exact isRead_of_ofOperation? h
  · exact isRead_of_ofOperation? h
  · cases h

end Comparison

/-! ## Operands of trees -/

namespace Filter.Phrase

mutual

/-- The operands of a tree, from left to right. -/
def operandPhrases : Phrase → List Phrase
  | node .root _ children => allOperandPhrases children
  | node .parenthesized _ [inner] => operandPhrases inner
  | node .negation _ [inner] => operandPhrases inner
  | node .negation _ [_, inner] => operandPhrases inner
  | node .expression _ [only] => [only]
  | node .expression _ [left, _, right] => [left, right]
  | phrase => [phrase]

/-- The operands of trees, from left to right. -/
def allOperandPhrases : List Phrase → List Phrase
  | [] => []
  | phrase :: rest => operandPhrases phrase ++ allOperandPhrases rest

end

theorem allOperandPhrases_eq (phrases : List Phrase) :
    allOperandPhrases phrases = phrases.flatMap operandPhrases := by
  induction phrases with
  | nil => rw [allOperandPhrases, List.flatMap_nil]
  | cons phrase rest ih => rw [allOperandPhrases, List.flatMap_cons, ih]

/-- A phrase with a comparison is an operand. -/
theorem operandPhrases_of_ofPhrase? {phrase : Phrase} {comparison : Comparison}
    (h : Comparison.ofPhrase? phrase = some comparison) :
    phrase.operandPhrases = [phrase] := by
  obtain ⟨kind, text, children⟩ := phrase
  cases kind <;> first | rfl | cases h

end Filter.Phrase

namespace Clause

variable {operands : List Phrase} {clause : Clause}

/-- A clause is read from one operand, or from two with a connective between them. -/
theorem ofOperands?_cases (h : ofOperands? operands = some clause) :
    (∃ only comparison, operands = [only] ∧ Comparison.ofPhrase? only = some comparison ∧
      clause = { left := comparison }) ∨
    ∃ one separator two left connective right, operands = [one, separator, two] ∧
      Comparison.ofPhrase? one = some left ∧
      Connective.ofToken? separator.text = some connective ∧
      Comparison.ofPhrase? two = some right ∧
      clause = { left, connective := some connective, right := some right } := by
  match operands with
  | [] => cases h
  | [only] =>
    obtain ⟨comparison, read, rfl⟩ := Option.map_eq_some_iff.mp h
    exact .inl ⟨only, comparison, rfl, read, rfl⟩
  | [one, separator, two] =>
    rw [ofOperands?] at h
    obtain ⟨left, readLeft, h⟩ := Option.bind_eq_some_iff.mp h
    split at h
    · obtain ⟨connective, found, h⟩ := Option.bind_eq_some_iff.mp h
      obtain ⟨right, readRight, h⟩ := Option.bind_eq_some_iff.mp h
      cases h
      exact .inr ⟨one, separator, two, left, connective, right, rfl, readLeft, found, readRight,
        rfl⟩
    · cases h
  | [_, _] => cases h
  | _ :: _ :: _ :: _ :: _ => cases h

theorem ofOperands?_single {only : Phrase} {comparison : Comparison}
    (read : Comparison.ofPhrase? only = some comparison) :
    ofOperands? [only] = some { left := comparison } := by
  rw [ofOperands?, read, Option.map_some]

theorem ofOperands?_joined {one separator two : Phrase} {left right : Comparison}
    {connective : Connective} (readLeft : Comparison.ofPhrase? one = some left)
    (isSeparator : separator.kind = .separator)
    (found : Connective.ofToken? separator.text = some connective)
    (readRight : Comparison.ofPhrase? two = some right) :
    ofOperands? [one, separator, two] =
      some { left, connective := some connective, right := some right } := by
  rw [ofOperands?, readLeft]
  simp [isSeparator, found, readRight]

theorem comparisons_of_ofOperands? {text : String} (h : ofOperands? operands = some clause) :
    (Phrase.node .expression text operands).operandPhrases.map Comparison.ofPhrase? =
      clause.comparisons.map some := by
  rcases ofOperands?_cases h with ⟨only, comparison, rfl, read, rfl⟩ |
    ⟨one, separator, two, left, connective, right, rfl, readLeft, -, readRight, rfl⟩
  · rw [Phrase.operandPhrases, List.map_singleton, read]
    rfl
  · rw [Phrase.operandPhrases, List.map_cons, List.map_singleton, readLeft, readRight]
    rfl

/-- The comparisons of a clause are those of the operands of its phrase. -/
theorem comparisons_of_ofPhrase? {phrase : Phrase}
    (h : ofPhrase? phrase = some clause) :
    phrase.operandPhrases.map Comparison.ofPhrase? = clause.comparisons.map some := by
  fun_induction ofPhrase? phrase generalizing clause with
  | case1 text children => exact comparisons_of_ofOperands? h
  | case2 text inner ih =>
    rw [Phrase.operandPhrases]
    exact ih h
  | case3 text inner ih =>
    obtain ⟨clause, read, rfl⟩ := Option.map_eq_some_iff.mp h
    rw [Phrase.operandPhrases, comparisons_negate, ih read]
  | case4 text mark inner isMark ih =>
    obtain ⟨clause, read, rfl⟩ := Option.map_eq_some_iff.mp h
    rw [Phrase.operandPhrases, comparisons_negate, ih read]
  | case5 => cases h
  | case6 phrase =>
    obtain ⟨comparison, read, rfl⟩ := Option.map_eq_some_iff.mp h
    rw [Phrase.operandPhrases_of_ofPhrase? read, List.map_singleton, read]
    rfl

theorem comparisons_of_map {phrases : List Phrase} {clauses : List Clause}
    (h : phrases.map ofPhrase? = clauses.map some) :
    (phrases.flatMap Phrase.operandPhrases).map Comparison.ofPhrase? =
      (clauses.flatMap comparisons).map some := by
  induction phrases generalizing clauses with
  | nil =>
    rw [List.map_nil, eq_comm, List.map_eq_nil_iff] at h
    rw [h]
    rfl
  | cons phrase phrases ih =>
    obtain ⟨clause, rest, rfl, read, later⟩ := List.map_eq_cons_iff.mp h.symm
    rw [List.flatMap_cons, List.flatMap_cons, List.map_append, List.map_append,
      comparisons_of_ofPhrase? read.symm, ih later.symm]

end Clause

namespace Filter

/-- The phrases that become the clauses of a tree. A phrase that is not a whole filter counts as the
only one. -/
def Phrase.parts (phrase : Phrase) : List Phrase :=
  if phrase.kind = .root then phrase.children else [phrase]

variable {phrase : Phrase} {filter : Filter}

theorem ofClauses?_eq_some_iff {clauses : List Clause} :
    ofClauses? clauses = some filter ↔
      clauses ≠ [] ∧ filter.clauses = clauses ∧ filter.negated = false := by
  obtain ⟨own, negated⟩ := filter
  rw [ofClauses?]
  split
  · next empty =>
    simp [List.isEmpty_iff.mp empty]
  · next nonempty =>
    rw [List.isEmpty_iff] at nonempty
    simp [nonempty, eq_comm]

/-- A tree has a filter exactly if it has parts and all of them have a meaning. -/
theorem ofPhrase?_eq_some_iff :
    ofPhrase? phrase = some filter ↔
      phrase.parts ≠ [] ∧ phrase.parts.map Clause.ofPhrase? = filter.clauses.map some ∧
        filter.negated = false := by
  by_cases root : phrase.kind = .root
  · rw [ofPhrase?, if_pos root, Phrase.parts, if_pos root]
    constructor
    · intro h
      obtain ⟨clauses, read, made⟩ := Option.bind_eq_some_iff.mp h
      obtain ⟨nonempty, rfl, plain⟩ := ofClauses?_eq_some_iff.mp made
      have read := mapM_eq_some_iff.mp read
      exact ⟨(values_ne_nil_iff read).mp nonempty, read, plain⟩
    · rintro ⟨nonempty, read, plain⟩
      refine Option.bind_eq_some_iff.mpr ⟨filter.clauses, mapM_eq_some_iff.mpr read, ?_⟩
      exact ofClauses?_eq_some_iff.mpr ⟨(values_ne_nil_iff read).mpr nonempty, rfl, plain⟩
  · obtain ⟨clauses, negated⟩ := filter
    rw [ofPhrase?, if_neg root, Phrase.parts, if_neg root]
    constructor
    · intro h
      obtain ⟨clause, read, same⟩ := Option.map_eq_some_iff.mp h
      cases same
      exact ⟨List.cons_ne_nil phrase [], by rw [List.map_singleton, read]; rfl, rfl⟩
    · rintro ⟨-, read, rfl⟩
      obtain ⟨clause, rest, rfl, first, later⟩ := List.map_eq_cons_iff.mp read.symm
      obtain rfl := List.map_eq_nil_iff.mp later
      rw [← first]
      rfl

/-- A filter is read from all parts of a tree, or from the tree as its only clause. -/
theorem ofPhrase?_cases (h : ofPhrase? phrase = some filter) :
    (∃ text children, phrase = .node .root text children ∧
      children.map Clause.ofPhrase? = filter.clauses.map some ∧
      filter.clauses ≠ [] ∧ filter.negated = false) ∨
    ∃ clause, Clause.ofPhrase? phrase = some clause ∧ filter = { clauses := [clause] } := by
  by_cases root : phrase.kind = .root
  · obtain ⟨nonempty, read, plain⟩ := ofPhrase?_eq_some_iff.mp h
    obtain ⟨kind, text, children⟩ := phrase
    obtain rfl : kind = .root := root
    exact .inl ⟨text, children, rfl, read, (values_ne_nil_iff read).mpr nonempty, plain⟩
  · rw [ofPhrase?, if_neg root] at h
    obtain ⟨clause, own, rfl⟩ := Option.map_eq_some_iff.mp h
    exact .inr ⟨clause, own, rfl⟩

/-- The comparisons of a filter are those of the operands of its phrase, in the same order. -/
theorem comparisons_of_ofPhrase? (h : ofPhrase? phrase = some filter) :
    phrase.operandPhrases.map Comparison.ofPhrase? = filter.comparisons.map some := by
  rcases ofPhrase?_cases h with ⟨text, children, rfl, read, -⟩ | ⟨clause, read, rfl⟩
  · rw [Phrase.operandPhrases, Phrase.allOperandPhrases_eq]
    exact Clause.comparisons_of_map read
  · rw [Clause.comparisons_of_ofPhrase? read]
    simp [comparisons]

/-- What holds of every filter that is read from a text. -/
structure IsRead (filter : Filter) : Prop where
  nonempty : filter.clauses ≠ []
  notNegated : filter.negated = false
  comparisons : ∀ comparison ∈ filter.comparisons, comparison.IsRead

instance (filter : Filter) : Decidable filter.IsRead :=
  decidable_of_iff (filter.clauses ≠ [] ∧ filter.negated = false ∧
      ∀ comparison ∈ filter.comparisons, comparison.IsRead)
    ⟨fun ⟨h1, h2, h3⟩ => ⟨h1, h2, h3⟩, fun ⟨h1, h2, h3⟩ => ⟨h1, h2, h3⟩⟩

theorem isRead_of_ofPhrase? (h : ofPhrase? phrase = some filter) : filter.IsRead := by
  obtain ⟨nonempty, parts, plain⟩ := ofPhrase?_eq_some_iff.mp h
  refine ⟨(values_ne_nil_iff parts).mpr nonempty, plain, fun comparison mem => ?_⟩
  have mem := List.mem_map_of_mem (f := some) mem
  rw [← comparisons_of_ofPhrase? h] at mem
  obtain ⟨operand, -, read⟩ := List.mem_map.mp mem
  exact Comparison.isRead_of_ofPhrase? read

end Filter
end EventSieve
