import EventSieve.Comparator
import EventSieve.Proofs.Integers
import EventSieve.Proofs.Timestamps

/-!
# Instants compared with their texts

The text of an instant is read as this instant by all rules. So an instant is compared with the text
of another one as the two instants are, also where case is ignored: the text has capitals, but no
small letters that they could be taken for.

## Main definitions

* `Text.IsUnmixed` — texts of ASCII characters without small letters

## Main statements

* `Text.lowercase_inj` — such texts stay apart in lower case
* `Operator.holdBy_instants` — instants are compared as instants
* `Comparator.test_instants` — the outcome of each operator for an instant and a text
-/
namespace EventSieve

/-! ## Lower case -/

namespace Text

/-- Texts of ASCII characters none of which is a small letter. -/
def IsUnmixed (text : String) : Prop :=
  ∀ c ∈ text.toList, c.toNat < 0x80 ∧ c.isLower = false

/-- What holds of each code below 128 holds of the ASCII characters. -/
theorem forall_ascii {P : Char → Prop} (each : ∀ n < 0x80, P (Char.ofNat n)) {c : Char}
    (ascii : c.toNat < 0x80) : P c := by
  have known := each c.toNat ascii
  rwa [Char.ofNat_toNat] at known

/-- A capital is what its small letter is made a capital again. -/
theorem toUpper_toLower {c : Char} (ascii : c.toNat < 0x80) :
    c.isLower = false → c.toLower.toUpper = c :=
  @forall_ascii (fun c => c.isLower = false → c.toLower.toUpper = c) (by decide +kernel) c ascii

theorem isLower_of_isDigit {c : Char} (ascii : c.toNat < 0x80) :
    c.isDigit = true → c.isLower = false :=
  @forall_ascii (fun c => c.isDigit = true → c.isLower = false) (by decide +kernel) c ascii

theorem IsUnmixed.toUpper_lowercase {text : String} (h : IsUnmixed text) :
    (lowercase text).toList.map Char.toUpper = text.toList := by
  rw [lowercase, String.toList_ofList, Lowercase.charsAfter_of_ascii fun c mem => (h c mem).1,
    List.map_map]
  refine (List.map_congr_left fun c mem => ?_).trans (List.map_id _)
  exact toUpper_toLower (h c mem).1 (h c mem).2

/-- Unmixed texts with one lower-case form are the same. -/
theorem lowercase_inj {one other : String} (h : IsUnmixed one) (h' : IsUnmixed other) :
    lowercase one = lowercase other ↔ one = other := by
  constructor
  · intro same
    rw [← String.toList_inj, ← h.toUpper_lowercase, ← h'.toUpper_lowercase, same]
  · exact congrArg lowercase

end Text

/-! ## Texts of instants -/

namespace Instant

/-- An instant is written with digits, the marks between them and two capitals. -/
theorem mem_timestampChars {nanos : Int} {c : Char} (mem : c ∈ timestampChars nanos) :
    c.isDigit = true ∨ c ∈ ['-', 'T', ':', '.', 'Z'] := by
  have digits {width n : Nat} (mem : c ∈ padded width n) : c.isDigit = true :=
    isDigit_of_mem_padded mem
  rw [timestampChars] at mem
  simp only [List.mem_append, List.mem_cons, List.not_mem_nil, or_false] at mem ⊢
  grind

theorem isUnmixed_timestampText (nanos : Int) : Text.IsUnmixed (timestampText nanos) := by
  intro c mem
  rw [timestampText, String.toList_ofList] at mem
  cases mem_timestampChars mem with
  | inl digit =>
    have bounds := Number.toNat_bounds_of_isDigit digit
    have ascii : c.toNat < 0x80 := by omega
    exact ⟨ascii, Text.isLower_of_isDigit ascii digit⟩
  | inr mark =>
    simp only [List.mem_cons, List.not_mem_nil, or_false] at mark
    rcases mark with rfl | rfl | rfl | rfl | rfl <;> decide

/-- Instants of 64 bits have the same text only if they are the same. -/
theorem timestampText_inj {a b : Int64} :
    timestampText a.toInt = timestampText b.toInt ↔ a = b := by
  constructor
  · intro same
    have read := ({} : Coercion).instant?_timestampText a
    rw [same, Coercion.instant?_timestampText] at read
    exact (Option.some.inj read).symm
  · rintro rfl
    rfl

end Instant

/-- They have it only then even where case is ignored. -/
theorem sameText_timestampText (ignoreCase : Bool) (a b : Int64) :
    sameText ignoreCase (Instant.timestampText a.toInt) (Instant.timestampText b.toInt) = true ↔
      a = b := by
  rw [← Instant.timestampText_inj]
  cases ignoreCase with
  | false => exact beq_iff_eq
  | true =>
    rw [← Text.lowercase_inj (Instant.isUnmixed_timestampText _)
      (Instant.isUnmixed_timestampText _)]
    exact beq_iff_eq

/-! ## Comparing -/

/-- An instant is compared with the text of another one as the two instants are. -/
theorem Operator.holdBy_instants (coercion : Coercion) (ignoreCase : Bool) (a b : Int64) :
    HoldBy (compare a.toInt b.toInt) (.timestamp a)
      (coercion.preparePlain (Value.timestamp b).text) ignoreCase coercion := by
  refine holdBy_of_numbers rfl (coercion.number?_timestampText b) rfl ?_
  intro same
  rw [Value.text, Value.text, sameText_timestampText] at same
  rw [same, compare_eq_iff_eq]

namespace Comparator

variable (coercion : Coercion) (ignoreCase negated : Bool)

/-- Inequality is negated equality. -/
theorem bind_notEquals (raw : Option String) : bind .notEquals raw coercion ignoreCase negated =
    bind .equals raw coercion ignoreCase (!negated) := rfl

/-- The outcome for one value and a text that is not matched as a pattern. -/
theorem test_bind {operator : Operator} (noMatch : operator ≠ .matches)
    (equality : operator ≠ .notEquals) (raw : String) (value : Value) :
    (bind operator (some raw) coercion ignoreCase negated).test (some value) =
      (operator.holds value (coercion.preparePlain raw) ignoreCase coercion ^^ negated) := by
  have prepared : coercion.prepare raw (operator == .matches) = coercion.preparePlain raw := by
    rw [beq_false_of_ne noMatch]
    rfl
  rw [bind, if_neg equality, Option.getD_some, prepared, test, Option.toList, testAny,
    List.any_cons, List.any_nil, Bool.or_false, accepts]

variable (a b : Int64)

/-- The text of an instant is read as this instant by all rules, and as this number. So an instant
is above, below or equal to the text of another one exactly if it is above, below or equal to this
one. -/
theorem test_instants :
    coercion.instant? (Value.timestamp b).text = some b ∧
    coercion.number? (Value.timestamp b).text = some (.integer b) ∧
    (bind .greaterThan (some (Value.timestamp b).text) coercion ignoreCase negated).test
      (some (.timestamp a)) = (decide (a > b) ^^ negated) ∧
    (bind .lessThan (some (Value.timestamp b).text) coercion ignoreCase negated).test
      (some (.timestamp a)) = (decide (a < b) ^^ negated) ∧
    (bind .equals (some (Value.timestamp b).text) coercion ignoreCase negated).test
      (some (.timestamp a)) = (decide (a = b) ^^ negated) ∧
    (bind .notEquals (some (Value.timestamp b).text) coercion ignoreCase negated).test
      (some (.timestamp a)) = (decide (a ≠ b) ^^ negated) := by
  have byOrder := Operator.holdBy_instants coercion ignoreCase a b
  have greater : Operator.greaterThan.holds (.timestamp a)
      (coercion.preparePlain (Value.timestamp b).text) ignoreCase coercion = decide (a > b) := by
    rw [Bool.eq_iff_iff, byOrder.greater, compare_gt_iff_gt, decide_eq_true_iff]
    exact Int64.lt_iff_toInt_lt.symm
  have less : Operator.lessThan.holds (.timestamp a)
      (coercion.preparePlain (Value.timestamp b).text) ignoreCase coercion = decide (a < b) := by
    rw [Bool.eq_iff_iff, byOrder.less, compare_lt_iff_lt, decide_eq_true_iff]
    exact Int64.lt_iff_toInt_lt.symm
  have equal : Operator.equals.holds (.timestamp a)
      (coercion.preparePlain (Value.timestamp b).text) ignoreCase coercion = decide (a = b) := by
    rw [Bool.eq_iff_iff, byOrder.equal, compare_eq_iff_eq, decide_eq_true_iff]
    exact Int64.toInt_inj
  refine ⟨coercion.instant?_timestampText b, coercion.number?_timestampText b, ?_, ?_, ?_, ?_⟩
  · rw [test_bind _ _ _ (by decide) (by decide), greater]
  · rw [test_bind _ _ _ (by decide) (by decide), less]
  · rw [test_bind _ _ _ (by decide) (by decide), equal]
  · rw [bind_notEquals, test_bind _ _ _ (by decide) (by decide), equal, decide_not, Bool.not_xor,
      Bool.xor_not]

end Comparator

end EventSieve
