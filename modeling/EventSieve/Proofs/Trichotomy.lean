import EventSieve.Proofs.DecimalRounding
import EventSieve.Proofs.Timestamps

/-!
# One of three operators

Of equality and the two operators of order exactly one holds between a value and a text, unless the
text is the one of the value and is read as another number than the value. Then equality holds, as
that of texts, and so does one of the other two. There are few such texts: a point in the text of a
floating-point number separates a group of three digits, or no numeral but a template of timestamps
takes it, as it may take the digits of the least integer.

## Main definitions

* `Value.IsNumeric` — a floating-point value is a number
* `Coercion.Misreads` — the text of a value is read as another number

## Main statements

* `Coercion.misreads_iff` — no other texts are read as another number
* `Operator.exists_holdBy_default` — by the default rules exactly one of the operators holds
* `Operator.exists_holdBy` — and by others, up to the texts that are misread
-/
namespace EventSieve

open Number (Binary64)

/-! ## Numbers that have an order -/

namespace Number

theorem Binary64.ofInt_ne_nan (i : Int) : Binary64.ofInt i ≠ .nan := by
  rw [Binary64.ofInt, Binary64.ofRatio]
  exact Binary64.ofUnitRatio_ne_nan _ _ _

theorem normalized_ne_nan {x : Binary64} (isNumber : x ≠ .nan) :
    normalized x ≠ .float .nan := by
  cases x with
  | nan => exact absurd rfl isNumber
  | infinite negative => simp [normalized]
  | finite negative units =>
    rw [normalized]
    split <;> simp

theorem exists_rank? {x : Binary64} (isNumber : x ≠ .nan) : ∃ i, x.rank? = some i := by
  cases x with
  | nan => exact absurd rfl isNumber
  | infinite negative => exact ⟨_, rfl⟩
  | finite negative units => exact ⟨_, rfl⟩

theorem toBinary64_ne_nan {a : Number} (isNumber : a ≠ .float .nan) : a.toBinary64 ≠ .nan := by
  cases a with
  | integer i => exact Binary64.ofInt_ne_nan i.toInt
  | float x => exact fun same => isNumber (congrArg Number.float same)

/-- Numbers have an order. -/
theorem exists_compare? {a b : Number} (one : a ≠ .float .nan) (other : b ≠ .float .nan) :
    ∃ order, a.compare? b = some order := by
  obtain ⟨i, left⟩ := exists_rank? (toBinary64_ne_nan one)
  obtain ⟨j, right⟩ := exists_rank? (toBinary64_ne_nan other)
  have compared : a.toBinary64.compare? b.toBinary64 = some (compare i j) := by
    rw [Binary64.compare?, left, right]
  cases a <;> cases b
  · exact ⟨_, rfl⟩
  · exact ⟨_, compared⟩
  · exact ⟨_, compared⟩
  · exact ⟨_, compared⟩

theorem numEq_integers {i j : Int64} : (integer i).numEq (integer j) = true ↔ i = j := by
  rw [numEq, compare?, beq_iff_eq, Option.some.injEq, compare_eq_iff_eq, Int64.toInt_inj]

theorem numEq_self {a : Number} (isNumber : a ≠ .float .nan) : a.numEq a = true := by
  obtain ⟨i, rank⟩ := exists_rank? (toBinary64_ne_nan isNumber)
  cases a with
  | integer i => exact numEq_integers.mpr rfl
  | float x =>
    have rank : x.rank? = some i := rank
    simp [numEq, compare?, toBinary64, Binary64.compare?, rank]

end Number

/-! ## Numbers of texts -/

namespace Coercion

theorem scale?_ne_nan (negative : Bool) (whole fraction : List Char) (exponent : Int) :
    scale? negative whole fraction exponent ≠ some (.float .nan) := by
  intro read
  rw [scale?] at read
  split at read
  · cases read
  · split at read
    · obtain ⟨_, -, read⟩ := Option.bind_eq_some_iff.mp read
      obtain ⟨_, -, read⟩ := Option.bind_eq_some_iff.mp read
      obtain ⟨_, -, read⟩ := Option.bind_eq_some_iff.mp read
      cases read
    · split at read
      · obtain ⟨_, -, read⟩ := Option.bind_eq_some_iff.mp read
        cases read
      · obtain ⟨_, -, read⟩ := Option.bind_eq_some_iff.mp read
        exact Number.normalized_ne_nan (Binary64.ofDecimal_ne_nan _ _ _) (Option.some.inj read)

theorem withUnit?_ne_nan (units : List (List Char × Int)) (raw : List Char) :
    withUnit? units raw ≠ some (.float .nan) := by
  intro read
  rw [withUnit?] at read
  simp only at read
  obtain ⟨_, -, read⟩ := Option.bind_eq_some_iff.mp read
  obtain ⟨_, -, read⟩ := Option.bind_eq_some_iff.mp read
  exact scale?_ne_nan _ _ _ _ read

/-- A text is never read as what is no number. -/
theorem number?_ne_nan (coercion : Coercion) (raw : String) :
    coercion.number? raw ≠ some (.float .nan) := by
  have literal : integerLiteral? raw.toList ≠ some (.float .nan) := by
    intro read
    rw [integerLiteral?] at read
    simp only at read
    obtain ⟨_, -, read⟩ := Option.bind_eq_some_iff.mp read
    obtain ⟨_, -, read⟩ := Option.bind_eq_some_iff.mp read
    cases read
  have grouped : groupedDecimal? coercion.grouping coercion.decimal raw.toList ≠
      some (.float .nan) := by
    intro read
    rw [groupedDecimal?] at read
    simp only at read
    split at read
    · cases read
    · split at read
      · obtain ⟨_, -, read⟩ := Option.bind_eq_some_iff.mp read
        exact scale?_ne_nan _ _ _ _ read
      · cases read
  have time : duration? raw.toList ≠ some (.float .nan) := by
    intro read
    rw [duration?] at read
    obtain ⟨number, -, read⟩ := Option.map_eq_some_iff.mp read
    cases number <;> cases read
  intro read
  rw [number?] at read
  simp only [Option.orElse_eq_orElse, Option.orElse_eq_or, Option.or_eq_some_iff] at read
  rcases read with read | ⟨-, read | ⟨-, read | ⟨-, read | ⟨-, read⟩⟩⟩⟩
  · exact literal read
  · exact grouped read
  · exact withUnit?_ne_nan _ _ read
  · exact time read
  · obtain ⟨t, -, same⟩ := Option.map_eq_some_iff.mp read
    cases same

end Coercion

/-! ## Texts that are read as another number -/

/-- A floating-point value is a number, and one of the format. -/
def Value.IsNumeric (value : Value) : Prop :=
  ∀ x, value = .float x → x ≠ .nan ∧ x.Representable

/-- What is read from digits is a number of the format. -/
theorem Value.isNumeric_ofDecimal (negative : Bool) (digits : Nat) (exponent : Int) :
    (Value.float (.ofDecimal negative digits exponent)).IsNumeric := by
  rintro x ⟨⟩
  exact ⟨Binary64.ofDecimal_ne_nan _ _ _, Binary64.representable_ofDecimal _ _ _⟩

/-- The ways in which rules read the text of a value as another number than the value. The point in
the text of a floating-point number separates a group, or no numeral but a template of timestamps
takes the text. A template may also take the digits of the least integer, which are no numeral
because they fit 64 bits only with their sign. -/
inductive Coercion.Misreads (coercion : Coercion) : Value → Prop
  | group {x : Binary64} (grouping : coercion.grouping = '.') (points : x.PointsGroup) :
    Misreads coercion (.float x)
  | float {x : Binary64} {t : Int64} (noNumeral : coercion.numeral? x.plainText = none)
    (taken : coercion.instant? x.plainText = some t)
    (differs : (Number.float x).numEq (.integer t) = false) : Misreads coercion (.float x)
  | least {t : Int64} (taken : coercion.instant? (Value.integer Int64.minValue).text = some t)
    (differs : Int64.minValue ≠ t) : Misreads coercion (.integer Int64.minValue)

namespace Coercion

variable {coercion : Coercion} {value : Value}

theorem numberOf?_ne_nan (numeric : value.IsNumeric) :
    coercion.numberOf? value ≠ some (.float .nan) := by
  cases value with
  | float x =>
    intro same
    exact (numeric x rfl).1 (Number.float.inj (Option.some.inj same))
  | string text => exact number?_ne_nan coercion text
  | _ => exact nofun

/-- By the default rules no text is misread: a point is the decimal separator, and no template takes
a number. -/
theorem not_misreads_default (numeric : value.IsNumeric) :
    ¬({} : Coercion).Misreads value := by
  rintro (⟨grouping, -⟩ | ⟨-, taken, -⟩ | ⟨taken, -⟩)
  · exact absurd grouping (by decide)
  · next x t =>
    have plain := Binary64.hyphen_notMem_plainChars (numeric x rfl).2
    rw [instant?_eq_none (by rwa [Binary64.plainText, String.toList_ofList])] at taken
    cases taken
  · rw [instant?_eq_none (by decide)] at taken
    cases taken

variable (separated : coercion.Separated) (numeric : value.IsNumeric)

include separated numeric

/-- The texts that are misread are those that are read as another number. -/
theorem misreads_iff : coercion.Misreads value ↔ ∃ own number, coercion.numberOf? value = some own ∧
    coercion.number? value.text = some number ∧ own.numEq number = false := by
  have least : coercion.numeral? (Value.integer Int64.minValue).text = none := by
    rw [Value.text, ← WholeNumeral.text_ofInt]
    exact WholeNumeral.numeral?_of_beyond _ separated (by decide)
  constructor
  · rintro (⟨grouping, points⟩ | ⟨noNumeral, taken, differs⟩ | ⟨taken, differs⟩)
    · next x =>
      obtain ⟨i, read, differs⟩ :=
        numeral?_plainText_of_pointsGroup separated (numeric x rfl).2 grouping points
      refine ⟨.float x, .integer i, rfl, ?_, differs⟩
      rw [number?_eq, Value.text, read, Option.some_or]
    · next x t =>
      refine ⟨.float x, .integer t, rfl, ?_, differs⟩
      rw [number?_eq, Value.text, noNumeral, taken]
      rfl
    · next t =>
      refine ⟨.integer Int64.minValue, .integer t, rfl, ?_, ?_⟩
      · rw [number?_eq, least, taken]
        rfl
      · exact Bool.eq_false_iff.mpr fun same => differs (Number.numEq_integers.mp same)
  · rintro ⟨own, number, known, read, differs⟩
    cases value with
    | integer i =>
      cases known
      by_cases isLeast : i = Int64.minValue
      · rw [isLeast, number?_eq, least, Option.none_or] at read
        obtain ⟨t, taken, rfl⟩ := Option.map_eq_some_iff.mp read
        rw [isLeast] at differs ⊢
        exact .least taken fun same =>
          Bool.eq_false_iff.mp differs (Number.numEq_integers.mpr same)
      · rw [Value.text, number?_intText coercion isLeast] at read
        cases read
        exact absurd (Number.numEq_integers.mpr rfl) (Bool.eq_false_iff.mp differs)
    | float x =>
      cases known
      obtain ⟨isNumber, rep⟩ := numeric x rfl
      rw [Value.text, number?_eq] at read
      cases numeral : coercion.numeral? x.plainText with
      | none =>
        rw [numeral, Option.none_or] at read
        obtain ⟨t, taken, rfl⟩ := Option.map_eq_some_iff.mp read
        exact .float numeral taken differs
      | some found =>
        rw [numeral, Option.some_or] at read
        cases read
        by_cases group : coercion.grouping = '.' ∧ x.PointsGroup
        · exact .group group.1 group.2
        · rw [numEq_of_numeral?_plainText separated isNumber rep group numeral] at differs
          cases differs
    | boolean b => cases known
    | timestamp t =>
      rw [Value.text, number?_timestampText] at read
      cases known
      cases read
      exact absurd (Number.numEq_integers.mpr rfl) (Bool.eq_false_iff.mp differs)
    | string text =>
      have same : own = number := Option.some.inj (known.symm.trans read)
      rw [same, Number.numEq_self fun nan => number?_ne_nan coercion text (nan ▸ read)] at differs
      cases differs

end Coercion

/-! ## Exactly one of three -/

namespace Operator

variable {coercion : Coercion} {value : Value} {raw : String}

/-- An order decides, unless the text is that of the value and is read as another number. -/
theorem exists_holdBy_of_numEq (numeric : value.IsNumeric)
    (agree : ∀ own number, raw = value.text → coercion.numberOf? value = some own →
      coercion.number? raw = some number → own.numEq number = true) :
    ∃ order, HoldBy order value (coercion.preparePlain raw) false coercion := by
  have texts (unknown : coercion.numberOf? value = none ∨ coercion.number? raw = none) :
      ∃ order, HoldBy order value (coercion.preparePlain raw) false coercion :=
    ⟨_, holdBy_of_texts unknown fun same => beq_iff_eq.mp same⟩
  cases known : coercion.numberOf? value with
  | none => exact texts (.inl known)
  | some own =>
    cases read : coercion.number? raw with
    | none => exact texts (.inr read)
    | some number =>
      obtain ⟨order, compared⟩ := Number.exists_compare?
        (fun nan => coercion.numberOf?_ne_nan numeric (nan ▸ known))
        (fun nan => coercion.number?_ne_nan raw (nan ▸ read))
      refine ⟨order, holdBy_of_numbers known read compared fun same => ?_⟩
      have equal := agree own number (beq_iff_eq.mp same).symm known read
      rw [Number.numEq, compared] at equal
      exact Option.some.inj (beq_iff_eq.mp equal)

/-- An order decides, unless the text is one of those that are misread. -/
theorem exists_holdBy_of_not_misreads (separated : coercion.Separated) (numeric : value.IsNumeric)
    (rightly : ¬(raw = value.text ∧ coercion.Misreads value)) :
    ∃ order, HoldBy order value (coercion.preparePlain raw) false coercion := by
  rw [coercion.misreads_iff separated numeric] at rightly
  refine exists_holdBy_of_numEq numeric fun own number same known read => ?_
  by_contra differs
  exact rightly ⟨same, own, number, known, same ▸ read, Bool.eq_false_iff.mpr differs⟩

/-- By the default rules exactly one of equality and the two operators of order holds between a
value and a text. -/
theorem exists_holdBy_default (numeric : value.IsNumeric) (raw : String) :
    ∃ order, HoldBy order value (({} : Coercion).prepare raw false) false {} :=
  exists_holdBy_of_not_misreads ⟨by decide, rfl, rfl⟩ numeric fun misread =>
    Coercion.not_misreads_default numeric misread.2

/-- Where the text of a value is read as another number, equality holds as that of texts, and one of
the two operators of order as that of the numbers. -/
theorem holds_of_misread {own number : Number} (numeric : value.IsNumeric)
    (known : coercion.numberOf? value = some own)
    (read : coercion.number? value.text = some number) (differs : own.numEq number = false) :
    equals.holds value (coercion.preparePlain value.text) false coercion = true ∧
      greaterThan.holds value (coercion.preparePlain value.text) false coercion =
        !lessThan.holds value (coercion.preparePlain value.text) false coercion := by
  obtain ⟨order, compared⟩ := Number.exists_compare?
    (fun nan => coercion.numberOf?_ne_nan numeric (nan ▸ known))
    (fun nan => coercion.number?_ne_nan value.text (nan ▸ read))
  have ordered : compareValues? value (coercion.preparePlain value.text) coercion = some order := by
    rw [compareValues?, known, Coercion.number?_preparePlain, read]
    exact compared
  constructor
  · exact valuesEqual_iff.mpr (.inl (sameText_self false value.text))
  · rw [Number.numEq, compared] at differs
    rw [holds, holds, ordered]
    cases order with
    | lt => rfl
    | eq => cases differs
    | gt => rfl

/-- With two different separators that are no digits, exactly one of equality and the two operators
of order holds between a value and a text, unless the text is the one of the value and is misread. A
floating-point number that is misread equals its text, and exactly one of the other two operators
holds besides. -/
theorem exists_holdBy (separated : coercion.Separated) (numeric : value.IsNumeric) (raw : String) :
    (¬(raw = value.text ∧ coercion.Misreads value) →
      ∃ order, HoldBy order value (coercion.prepare raw false) false coercion) ∧
    ∀ x, value = .float x → raw = value.text → coercion.Misreads value →
      equals.holds value (coercion.prepare raw false) false coercion = true ∧
        greaterThan.holds value (coercion.prepare raw false) false coercion =
          !lessThan.holds value (coercion.prepare raw false) false coercion := by
  have prepared : coercion.prepare raw false = coercion.preparePlain raw := rfl
  rw [prepared]
  constructor
  · exact exists_holdBy_of_not_misreads separated numeric
  · rintro x - rfl misread
    obtain ⟨own, number, known, read, differs⟩ :=
      (coercion.misreads_iff separated numeric).mp misread
    exact holds_of_misread numeric known read differs

/-- By the default rules 1.5 is compared with `1.25` in one way. By rules where points separate
groups 1.234 equals its own text, which is read as 1234, and one of the two orders holds besides. -/
theorem exists_holdBy_group :
    let dots : Coercion := { grouping := '.', decimal := ',' }
    let value : Value := .float (.ofDecimal false 1234 (-3))
    (∃ order, HoldBy order (.float (.ofDecimal false 15 (-1)))
      (({} : Coercion).prepare "1.25" false) false {}) ∧
    equals.holds value (dots.prepare "1.234" false) false dots = true ∧
      greaterThan.holds value (dots.prepare "1.234" false) false dots =
        !lessThan.holds value (dots.prepare "1.234" false) false dots := by
  intro dots value
  have points : (Binary64.ofDecimal false 1234 (-3)).PointsGroup := by decide +kernel
  have text : "1.234" = value.text := by decide +kernel
  have default : Coercion.Separated {} := ⟨by decide, rfl, rfl⟩
  have separated : dots.Separated := ⟨by decide, rfl, rfl⟩
  refine ⟨(exists_holdBy default (Value.isNumeric_ofDecimal false 15 (-1)) "1.25").1 ?_,
    (exists_holdBy separated (Value.isNumeric_ofDecimal false 1234 (-3)) "1.234").2 _ rfl text
      (.group rfl points)⟩
  rintro ⟨same, -⟩
  exact absurd same (by decide +kernel)

/-- Where points separate groups, the text of 1.234 both equals the number and is above it. -/
theorem exists_holdBy_ne :
    let dots : Coercion := { grouping := '.', decimal := ',' }
    let value : Value := .float (.ofDecimal false 1234 (-3))
    dots.Separated ∧ value.IsNumeric ∧
      equals.holds value (dots.prepare "1.234" false) false dots = true ∧
      lessThan.holds value (dots.prepare "1.234" false) false dots = true ∧
      ¬∃ order, HoldBy order value (dots.prepare "1.234" false) false dots := by
  intro dots value
  have equal : equals.holds value (dots.prepare "1.234" false) false dots = true := by
    decide +kernel
  have less : lessThan.holds value (dots.prepare "1.234" false) false dots = true := by
    decide +kernel
  refine ⟨⟨by decide, rfl, rfl⟩, Value.isNumeric_ofDecimal false 1234 (-3), equal, less, ?_⟩
  rintro ⟨order, byOrder⟩
  have isEqual := byOrder.equal.mp equal
  have isLess := byOrder.less.mp less
  rw [isEqual] at isLess
  cases isLess

end Operator

end EventSieve
