import EventSieve.Proofs.Agreement
import EventSieve.Proofs.CodePoints

/-!
# Ignoring case

Where case is ignored, both texts of a comparison are put in lower case, each on its own. Equal
texts stay equal. A text that occurs in another need not occur in it any more: a capital sigma
becomes another small letter at the end of a word, and the end of the part may be amid a word of the
whole. A text occurs wherever it did before exactly if what stands beside it cannot matter to any of
its capital sigmas.

## Main definitions

* `Lowercase.IsFixed` — characters beside a capital sigma that decide which small letter it becomes
* `Lowercase.IsSettled` — texts in which all capital sigmas stand among such characters

## Main statements

* `Lowercase.charsBetween_of_settled` — the small letters of a settled text do not depend on what
  stands beside it
* `Text.containsText_ignoreCase_iff` — for which texts ignoring case keeps all that contain them
* `Filter.accepts_ignoreCase` — ignoring case keeps what a filter accepts
-/
namespace EventSieve

namespace Text.Lowercase

/-! ## Sigmas -/

/-- Whether the first character that is not skipped takes part in a case distinction, if there is
such a character. -/
def firstCased? (cs : List Char) : Option Bool :=
  (cs.dropWhile isCaseIgnorable).head?.map isCased

theorem meetsCased_eq (cs : List Char) : meetsCased cs = (firstCased? cs).getD false := by
  rw [meetsCased, firstCased?]
  split
  · next kept => rw [kept, List.head?_cons, Option.map_some, Option.getD_some]
  · next kept => rw [kept, List.head?_nil, Option.map_none, Option.getD_none]

theorem firstCased?_append (cs more : List Char) :
    firstCased? (cs ++ more) = (firstCased? cs).or (firstCased? more) := by
  induction cs with
  | nil => simp [firstCased?]
  | cons c cs ih =>
    by_cases skipped : isCaseIgnorable c = true
    · simpa [firstCased?, skipped] using ih
    · simp [firstCased?, skipped]

/-- Whether a sigma between others is final; those before come in reverse order. -/
def isFinal (before after : List Char) : Bool :=
  meetsCased before && !meetsCased after

/-- The characters beside a capital sigma decide which small letter it becomes, whatever stands
beyond them. -/
def IsFixed (before after : List Char) : Prop :=
  firstCased? before = some false ∨ firstCased? after = some true ∨
    (firstCased? before = some true ∧ firstCased? after = some false)

instance (before after : List Char) : Decidable (IsFixed before after) :=
  inferInstanceAs (Decidable (_ ∨ _ ∨ _ ∧ _))

/-- Characters after others, which come in reverse order, whose capital sigmas are all fixed. -/
def SettledAfter (before : List Char) : List Char → Prop
  | [] => True
  | c :: rest => (c = 'Σ' → IsFixed before rest) ∧ SettledAfter (c :: before) rest

instance decidableSettledAfter (before : List Char) : ∀ cs, Decidable (SettledAfter before cs)
  | [] => inferInstanceAs (Decidable True)
  | c :: rest =>
    have := decidableSettledAfter (c :: before) rest
    inferInstanceAs (Decidable ((c = 'Σ' → IsFixed before rest) ∧ SettledAfter (c :: before) rest))

theorem isFinal_of_fixed {before after : List Char} (fixed : IsFixed before after)
    (farBefore farAfter : List Char) :
    isFinal (before ++ farBefore) (after ++ farAfter) = isFinal before after := by
  simp only [isFinal, meetsCased_eq, firstCased?_append]
  rcases fixed with none | some | ⟨before, after⟩
  · simp [none]
  · simp [some]
  · simp [before, after]

/-! ## Lower case of a part -/

/-- The lower-case form of a character between others; those before come in reverse order. -/
def small (before : List Char) (c : Char) (after : List Char) : List Char :=
  if c = 'Σ' then if isFinal before after then ['ς'] else ['σ'] else ofChar c

theorem charsAfter_cons (before : List Char) (c : Char) (rest : List Char) :
    charsAfter before (c :: rest) = small before c rest ++ charsAfter (c :: before) rest := rfl

/-- The lower-case form of characters between others; those before come in reverse order. -/
def charsBetween (before : List Char) : List Char → List Char → List Char
  | [], _ => []
  | c :: rest, after => small before c (rest ++ after) ++ charsBetween (c :: before) rest after

theorem charsAfter_append (before cs after : List Char) : charsAfter before (cs ++ after) =
    charsBetween before cs after ++ charsAfter (cs.reverse ++ before) after := by
  induction cs generalizing before with
  | nil => rfl
  | cons c rest ih => simp [charsAfter_cons, charsBetween, ih]

/-- The small letters of a settled text do not depend on what stands beside it. -/
theorem charsBetween_of_settled {before cs : List Char} (settled : SettledAfter before cs)
    (farBefore farAfter : List Char) :
    charsBetween (before ++ farBefore) cs farAfter = charsAfter before cs := by
  induction cs generalizing before with
  | nil => rfl
  | cons c rest ih =>
    obtain ⟨fixed, later⟩ := settled
    rw [charsBetween, charsAfter_cons, ← ih later]
    congr 1
    rw [small, small]
    split
    · next sigma => rw [isFinal_of_fixed (fixed sigma)]
    · rfl

/-! ## A letter beside a text -/

theorem firstCased?_letter {c : Char} (low : 97 ≤ c.toNat) (high : c.toNat ≤ 122)
    (rest : List Char) : firstCased? (c :: rest) = some true := by
  simp [firstCased?, isCaseIgnorable_letter low high, isCased_letter low high]

theorem firstCased?_a : firstCased? ['a'] = some true :=
  firstCased?_letter (by decide) (by decide) []

/-- A letter before a text leaves no more sigmas that are not final. -/
theorem count_small_before_le (before : List Char) (c : Char) (after : List Char) :
    (small (before ++ ['a']) c after).count 'σ' ≤ (small before c after).count 'σ' := by
  rw [small, small]
  split
  · simp only [isFinal, meetsCased_eq, firstCased?_append, firstCased?_a]
    rcases firstCased? before with _ | _ | _ <;> cases (firstCased? after).getD false <;> simp
  · exact Nat.le_refl _

/-- A letter after a text leaves no more final sigmas. -/
theorem count_small_after_le (before : List Char) (c : Char) (after : List Char) :
    (small before c (after ++ ['a'])).count 'ς' ≤ (small before c after).count 'ς' := by
  rw [small, small]
  split
  · simp only [isFinal, meetsCased_eq, firstCased?_append, firstCased?_a]
    rcases firstCased? after with _ | _ | _ <;> cases (firstCased? before).getD false <;> simp
  · exact Nat.le_refl _

/-- Where a letter on either side changes nothing, a capital sigma is fixed. -/
theorem isFixed_of_counts {before after : List Char}
    (first : (small before 'Σ' after).count 'σ' ≤ (small (before ++ ['a']) 'Σ' after).count 'σ')
    (last : (small before 'Σ' after).count 'ς' ≤ (small before 'Σ' (after ++ ['a'])).count 'ς') :
    IsFixed before after := by
  simp only [small, if_true, isFinal, meetsCased_eq, firstCased?_append, firstCased?_a]
    at first last
  revert first last
  rw [IsFixed]
  rcases firstCased? before with _ | _ | _ <;> rcases firstCased? after with _ | _ | _ <;>
    simp

theorem count_charsAfter_le (before cs : List Char) :
    (charsAfter (before ++ ['a']) cs).count 'σ' ≤ (charsAfter before cs).count 'σ' := by
  induction cs generalizing before with
  | nil => exact Nat.le_refl _
  | cons c rest ih =>
    rw [charsAfter_cons, charsAfter_cons, List.count_append, List.count_append]
    exact Nat.add_le_add (count_small_before_le before c rest) (ih (c :: before))

theorem count_charsBetween_le (before cs : List Char) :
    (charsBetween before cs ['a']).count 'ς' ≤ (charsAfter before cs).count 'ς' := by
  induction cs generalizing before with
  | nil => exact Nat.le_refl _
  | cons c rest ih =>
    rw [charsBetween, charsAfter_cons, List.count_append, List.count_append]
    exact Nat.add_le_add (count_small_after_le before c rest) (ih (c :: before))

/-- Where a letter on either side of a text changes none of its small letters, it is settled. -/
theorem settledAfter_of_counts {before cs : List Char}
    (first : (charsAfter before cs).count 'σ' ≤ (charsAfter (before ++ ['a']) cs).count 'σ')
    (last : (charsAfter before cs).count 'ς' ≤ (charsBetween before cs ['a']).count 'ς') :
    SettledAfter before cs := by
  induction cs generalizing before with
  | nil => trivial
  | cons c rest ih =>
    have firstHere := count_small_before_le before c rest
    have firstLater := count_charsAfter_le (c :: before) rest
    have lastHere := count_small_after_le before c rest
    have lastLater := count_charsBetween_le (c :: before) rest
    simp only [charsAfter_cons, charsBetween, List.count_append] at first last
    rw [← List.cons_append] at first
    refine ⟨?_, ih (by omega) (by omega)⟩
    rintro rfl
    exact isFixed_of_counts (by omega) (by omega)

end Text.Lowercase

/-! ## Containment -/

theorem occursIn_iff {part cs : List Char} : occursIn part cs = true ↔ part <:+: cs := by
  induction cs with
  | nil => simp [occursIn]
  | cons c rest ih => simp [occursIn, List.infix_cons_iff, ih]

namespace Text

open Lowercase

/-- A text all of whose capital sigmas stand between characters of it that fix them. -/
def IsSettled (text : String) : Prop :=
  SettledAfter [] text.toList

instance (text : String) : Decidable (IsSettled text) :=
  inferInstanceAs (Decidable (SettledAfter _ _))

theorem toList_lowercase (text : String) : (lowercase text).toList = charsAfter [] text.toList := by
  rw [lowercase, String.toList_ofList]

/-- A settled text occurs in lower case wherever it occurs. -/
theorem infix_lowercase {part whole : String} (settled : IsSettled part)
    (occurs : part.toList <:+: whole.toList) :
    (lowercase part).toList <:+: (lowercase whole).toList := by
  obtain ⟨before, after, split⟩ := occurs
  have middle := charsBetween_of_settled settled before.reverse after
  rw [toList_lowercase, toList_lowercase, ← split, List.append_assoc, charsAfter_append,
    charsAfter_append, List.append_nil, ← middle, List.nil_append]
  exact List.infix_append' _ _ _

/-- A text that keeps occurring with a letter before and after it is settled. -/
theorem settledAfter_of_infix {cs : List Char}
    (first : charsAfter [] cs <:+: charsAfter [] ('a' :: cs))
    (last : charsAfter [] cs <:+: charsAfter [] (cs ++ ['a'])) : SettledAfter [] cs := by
  have small (before after : List Char) : small before 'a' after = ['a'] := rfl
  have first := first.sublist.count_le 'σ'
  have last := last.sublist.count_le 'ς'
  rw [charsAfter_cons, small] at first
  rw [charsAfter_append, charsAfter_cons, small] at last
  refine settledAfter_of_counts ?_ ?_
  · simpa [charsAfter] using first
  · simpa [charsAfter] using last

end Text

/-- Ignoring case keeps all values that contain a text exactly if the text is settled. -/
theorem containsText_ignoreCase_iff (raw : String) :
    (∀ value, containsText value raw false = true → containsText value raw true = true) ↔
      Text.IsSettled raw := by
  simp only [containsText, Bool.false_eq_true, if_false, if_true, occursIn_iff]
  constructor
  · intro keeps
    have before := keeps (.string (String.ofList ('a' :: raw.toList)))
    have after := keeps (.string (String.ofList (raw.toList ++ ['a'])))
    simp only [Value.text, Text.toList_lowercase, String.toList_ofList] at before after
    exact Text.settledAfter_of_infix (before (List.suffix_cons 'a' _).isInfix)
      (after (List.prefix_append _ ['a']).isInfix)
  · intro settled value occurs
    exact Text.infix_lowercase settled occurs

/-! ## Equality -/

/-- Ignoring case keeps all values that are equal to another. -/
theorem valuesEqual_ignoreCase {value : Value} {prepared : Prepared} {coercion : Coercion}
    (equal : valuesEqual value prepared false coercion = true) :
    valuesEqual value prepared true coercion = true := by
  simp only [valuesEqual, Bool.or_eq_true] at equal ⊢
  rcases equal with (form | text) | number
  · exact .inl (.inl form)
  · refine .inl (.inr ?_)
    simp only [sameText, Bool.false_eq_true, if_false, if_true, beq_iff_eq] at text ⊢
    rw [text]
  · exact .inr number

/-! ## Operators -/

variable {coercion : Coercion}

/-- Ignoring case keeps all values that satisfy an operator, unless the operator is inequality or
asks for a text that is not settled. -/
theorem Operator.holds_ignoreCase {operator : Operator} {value : Value} {prepared : Prepared}
    (equality : operator ≠ .notEquals)
    (settled : operator = .contains → Text.IsSettled prepared.text)
    (holds : operator.holds value prepared false coercion = true) :
    operator.holds value prepared true coercion = true := by
  cases operator with
  | equals => exact valuesEqual_ignoreCase holds
  | notEquals => exact absurd rfl equality
  | contains => exact (containsText_ignoreCase_iff _).mpr (settled rfl) value holds
  | «matches» => exact holds
  | present => exact holds
  | greaterThan => exact holds
  | lessThan => exact holds

section
variable {operator : Operator} (equality : operator ≠ .notEquals)

include equality

theorem Comparator.accepts_bind_ignoreCase {raw : Option String} {value : Value}
    (settled : operator = .contains → Text.IsSettled (raw.getD ""))
    (accepts : (bind operator raw coercion false false).accepts value = true) :
    (bind operator raw coercion true false).accepts value = true := by
  simp only [bind, if_neg equality, Comparator.accepts] at accepts ⊢
  refine Operator.holds_ignoreCase equality (fun containment => ?_) accepts
  rw [containment] at settled ⊢
  exact (Coercion.text_preparePlain coercion (raw.getD "")).symm ▸ settled rfl

theorem Comparator.any_accepts_ignoreCase {raw : Option String} {values : List Value}
    (settled : operator = .contains → Text.IsSettled (raw.getD ""))
    (accepts : values.any (bind operator raw coercion false false).accepts = true) :
    values.any (bind operator raw coercion true false).accepts = true := by
  rw [List.any_eq_true] at accepts ⊢
  obtain ⟨value, mem, accepts⟩ := accepts
  exact ⟨value, mem, accepts_bind_ignoreCase equality settled accepts⟩

theorem Generator.isInverse_of_ne : isInverse operator = false :=
  beq_false_of_ne equality

end

/-! ## Filters -/

section
variable {comparison : Comparison} (positive : comparison.negated = false)
  (equality : comparison.operator ≠ .notEquals)
  (settled : comparison.operator = .contains → Text.IsSettled (comparison.value.getD ""))

include positive equality settled

theorem Predicate.test_ignoreCase {rules : MatchRules} {record : Record}
    (accepts : test coercion { rules with ignoreCase := false } record comparison = true) :
    test coercion { rules with ignoreCase := true } record comparison = true := by
  simp only [test, FieldTest.accepts, FieldTest.ofComparison, Comparator.testAny_bind, positive,
    Generator.isInverse_of_ne equality, Bool.xor_false] at accepts ⊢
  exact Comparator.any_accepts_ignoreCase equality settled accepts

theorem Generator.test_ignoreCase (generator : Generator) {event : Event}
    (accepts : ({ generator with ignoreCase := false }).test event comparison = true) :
    ({ generator with ignoreCase := true }).test event comparison = true := by
  by_cases anywhere : comparison.isAnywhere = true
  · rw [test_anywhere _ _ anywhere] at accepts ⊢
    exact accepts
  · rw [test_named _ _ anywhere, leafAccepts_leaf, positive, isInverse_of_ne equality,
      Bool.xor_false, Bool.xor_false] at accepts ⊢
    exact Comparator.any_accepts_ignoreCase equality settled accepts

end

/-- Ignoring case keeps all values that are equal to another, and it keeps all values that contain a
text exactly if the text is settled. So it keeps what a filter without negations accepts if all
texts that the filter looks for are settled, whether the filter is made into a predicate or a
tree. -/
theorem Filter.accepts_ignoreCase (coercion : Coercion) :
    (∀ value prepared, valuesEqual value prepared false coercion = true →
      valuesEqual value prepared true coercion = true) ∧
    (∀ raw, (∀ value, containsText value raw false = true → containsText value raw true = true) ↔
      Text.IsSettled raw) ∧
    ∀ filter : Filter, filter.IsPositive → (∀ comparison ∈ filter.comparisons,
      comparison.operator = .contains → Text.IsSettled (comparison.value.getD "")) →
      (∀ (rules : MatchRules) (record : Record),
        (Predicate.ofFilter coercion { rules with ignoreCase := false } filter).accepts record =
          true →
        (Predicate.ofFilter coercion { rules with ignoreCase := true } filter).accepts record =
          true) ∧
      (∀ (registry : Registry) (event : Event),
        (Generator.tree { registry, coercion, ignoreCase := false } filter).accepts event = true →
        (Generator.tree { registry, coercion, ignoreCase := true } filter).accepts event =
          true) := by
  refine ⟨fun _ _ => valuesEqual_ignoreCase, containsText_ignoreCase_iff, ?_⟩
  intro filter positive settled
  constructor
  · intro rules record accepts
    rw [Predicate.accepts_ofFilter] at accepts ⊢
    refine outcome_mono positive (fun comparison mem => ?_) accepts
    have ⟨notNegated, equality⟩ := positive.comparisons comparison mem
    exact Predicate.test_ignoreCase notNegated equality (settled comparison mem)
  · intro registry event accepts
    rw [Generator.accepts_tree] at accepts ⊢
    refine outcome_mono positive (fun comparison mem => ?_) accepts
    have ⟨notNegated, equality⟩ := positive.comparisons comparison mem
    exact Generator.test_ignoreCase notNegated equality (settled comparison mem)
      { registry, coercion }

/-- A capital sigma between letters is settled, so a filter that looks for it accepts no fewer
records and events where case is ignored. -/
theorem Filter.accepts_ignoreCase_among :
    let filter : Filter := { clauses := [
      { left := { field := "name", operator := .contains, value := some "aΣb" }
        connective := some .or
        right := some { field := "prio", operator := .equals, value := some "low" } }] }
    (∀ (rules : MatchRules) (record : Record),
      (Predicate.ofFilter {} { rules with ignoreCase := false } filter).accepts record = true →
      (Predicate.ofFilter {} { rules with ignoreCase := true } filter).accepts record = true) ∧
    (∀ (registry : Registry) (event : Event),
      (Generator.tree { registry, ignoreCase := false } filter).accepts event = true →
      (Generator.tree { registry, ignoreCase := true } filter).accepts event = true) := by
  intro filter
  have positive : filter.IsPositive := by
    refine ⟨rfl, ?_, ?_⟩
    · simp [filter]
    · simp [filter, comparisons, Clause.comparisons]
  have settled : Text.IsSettled "aΣb" := by
    refine ⟨?_, ?_, ?_, trivial⟩
    · intro sigma
      cases sigma
    · intro _
      exact .inr (.inl (Text.Lowercase.firstCased?_letter (by decide) (by decide) []))
    · intro sigma
      cases sigma
  refine (accepts_ignoreCase {}).2.2 filter positive ?_
  simp [filter, comparisons, Clause.comparisons, settled]

open Text.Lowercase in
/-- A text that ends in a capital sigma occurs in another, but not where case is ignored: the sigma
is final only in the part. -/
theorem containsText_ignoreCase_ne :
    containsText (.string "aΣa") "aΣ" false = true ∧
    containsText (.string "aΣa") "aΣ" true = false := by
  have letter (before after : List Char) : small before 'a' after = ['a'] := rfl
  have amid : small ['a'] 'Σ' ['a'] = ['σ'] := by
    simp [small, isFinal, meetsCased_eq, firstCased?_a]
  have final : small ['a'] 'Σ' [] = ['ς'] := by
    have none : firstCased? [] = none := by simp [firstCased?]
    simp [small, isFinal, meetsCased_eq, firstCased?_a, none]
  have whole : charsAfter [] ['a', 'Σ', 'a'] = ['a', 'σ', 'a'] := by
    rw [charsAfter_cons, charsAfter_cons, charsAfter_cons, letter, amid, letter]
    rfl
  have part : charsAfter [] ['a', 'Σ'] = ['a', 'ς'] := by
    rw [charsAfter_cons, charsAfter_cons, letter, final]
    rfl
  have wholeText : "aΣa".toList = ['a', 'Σ', 'a'] := by simp
  have partText : "aΣ".toList = ['a', 'Σ'] := by simp
  refine ⟨by decide, ?_⟩
  simp only [containsText, if_true, Value.text, Text.toList_lowercase, wholeText, partText, whole,
    part]
  decide

end EventSieve
