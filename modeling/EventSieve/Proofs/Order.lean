import EventSieve.Operator
import Mathlib.Data.String.Basic
import Mathlib.Order.Compare

/-!
# The order of a value and a text

Equality and the two operators of order are three questions about a value and a text. Where both
have a number the numbers answer them, and where one has none the texts do. Equality also holds of
two equal texts, whatever their numbers.

## Main definitions

* `Operator.HoldBy` — the operators of order and of equality hold as an order says

## Main statements

* `valuesEqual_iff` — equality is that of texts or that of numbers
* `Operator.holdBy_of_numbers`, `Operator.holdBy_of_texts` — the order of numbers decides, or that
  of texts
-/
namespace EventSieve

open Number (Binary64)

/-! ## Orders of numbers -/

namespace Number

variable {a b : Number} {x y : Binary64} {order : Ordering}

theorem Binary64.compare?_swap (x y : Binary64) :
    y.compare? x = (x.compare? y).map Ordering.swap := by
  rw [Binary64.compare?, Binary64.compare?]
  cases x.rank? with
  | none => cases y.rank? <;> rfl
  | some i =>
    cases y.rank? with
    | none => rfl
    | some j => exact congrArg some Std.OrientedOrd.eq_swap

theorem Binary64.numEq_comm (x y : Binary64) : x.numEq y = y.numEq x := by
  rw [Binary64.numEq, Binary64.numEq, Binary64.compare?_swap]
  cases y.compare? x with
  | none => rfl
  | some order => cases order <;> rfl

end Number

/-! ## Equality -/

theorem sameText_self (ignoreCase : Bool) (text : String) :
    sameText ignoreCase text text = true := by
  cases ignoreCase <;> exact beq_self_eq_true _

section
variable {coercion : Coercion} {value : Value} {raw : String} {ignoreCase : Bool}

/-- What has the form of a text has the text or the number. -/
theorem sameText_or_numEq_of_sameForm (same : sameForm value (coercion.preparePlain raw) = true) :
    sameText ignoreCase value.text raw = true ∨
      ∃ own number, coercion.numberOf? value = some own ∧ coercion.number? raw = some number ∧
        own.numEq number = true := by
  rw [Coercion.preparePlain] at same
  cases read : coercion.number? raw with
  | none =>
    rw [read] at same
    cases value with
    | string text =>
      rw [beq_iff_eq.mp (show (text == raw) = true from same)]
      exact .inl (sameText_self ignoreCase raw)
    | _ => cases same
  | some number =>
    rw [read] at same
    refine .inr ?_
    cases value with
    | integer i =>
      cases number with
      | integer j =>
        have equal : j = i := by simpa [sameForm, Number.toInt64?] using same
        rw [equal]
        exact ⟨_, _, rfl, rfl, by simp [Number.numEq, Number.compare?]⟩
      | float x => cases same
    | float x =>
      have equal : number.toBinary64.numEq x = true := same
      rw [Number.Binary64.numEq_comm] at equal
      refine ⟨_, _, rfl, rfl, ?_⟩
      cases number <;> exact equal
    | _ => cases same

/-- Equality is that of texts or that of numbers. -/
theorem valuesEqual_iff :
    valuesEqual value (coercion.preparePlain raw) ignoreCase coercion = true ↔
      sameText ignoreCase value.text raw = true ∨
        ∃ own number, coercion.numberOf? value = some own ∧ coercion.number? raw = some number ∧
          own.numEq number = true := by
  rw [valuesEqual, Coercion.text_preparePlain, Coercion.number?_preparePlain, Bool.or_eq_true,
    Bool.or_eq_true]
  constructor
  · rintro ((form | text) | number)
    · exact sameText_or_numEq_of_sameForm form
    · exact .inl text
    · split at number
      · next own other known read => exact .inr ⟨own, other, known, read, number⟩
      · cases number
  · rintro (text | ⟨own, other, known, read, equal⟩)
    · exact .inl (.inr text)
    · rw [known, read]
      exact .inr equal

end

/-! ## Operators as an order -/

namespace Operator

/-- The operators of order and of equality hold of a value as an order says. -/
structure HoldBy (order : Ordering) (value : Value) (prepared : Prepared) (ignoreCase : Bool)
    (coercion : Coercion) : Prop where
  greater : greaterThan.holds value prepared ignoreCase coercion = true ↔ order = .gt
  less : lessThan.holds value prepared ignoreCase coercion = true ↔ order = .lt
  equal : equals.holds value prepared ignoreCase coercion = true ↔ order = .eq

variable {coercion : Coercion} {value : Value} {raw : String} {ignoreCase : Bool}
  {order : Ordering}

/-- At most one order fits. -/
theorem HoldBy.unique {prepared : Prepared} {other : Ordering}
    (h : HoldBy order value prepared ignoreCase coercion)
    (h' : HoldBy other value prepared ignoreCase coercion) : order = other := by
  cases order with
  | lt => exact (h'.less.mp (h.less.mpr rfl)).symm
  | eq => exact (h'.equal.mp (h.equal.mpr rfl)).symm
  | gt => exact (h'.greater.mp (h.greater.mpr rfl)).symm

theorem holdBy_of_compareValues
    (compared : compareValues? value (coercion.preparePlain raw) coercion = some order)
    (equal : valuesEqual value (coercion.preparePlain raw) ignoreCase coercion = true ↔
      order = .eq) : HoldBy order value (coercion.preparePlain raw) ignoreCase coercion := by
  refine ⟨?_, ?_, equal⟩
  · rw [holds, compared, beq_iff_eq, Option.some.injEq]
  · rw [holds, compared, beq_iff_eq, Option.some.injEq]

/-- Where both sides have a number, their order decides, if equal texts have equal numbers. -/
theorem holdBy_of_numbers {own number : Number} (known : coercion.numberOf? value = some own)
    (read : coercion.number? raw = some number) (compared : own.compare? number = some order)
    (text : sameText ignoreCase value.text raw = true → order = .eq) :
    HoldBy order value (coercion.preparePlain raw) ignoreCase coercion := by
  have numEq : own.numEq number = true ↔ order = .eq := by
    rw [Number.numEq, compared, beq_iff_eq, Option.some.injEq]
  refine holdBy_of_compareValues ?_ ?_
  · rw [compareValues?, known, Coercion.number?_preparePlain, read]
    exact compared
  · rw [valuesEqual_iff]
    constructor
    · rintro (same | ⟨_, _, one, other, equal⟩)
      · exact text same
      · rw [known] at one
        rw [read] at other
        cases one
        cases other
        exact numEq.mp equal
    · exact fun equal => .inr ⟨own, number, known, read, numEq.mpr equal⟩

/-- Where a side has no number, the order of the texts decides, if equal texts are the same. -/
theorem holdBy_of_texts
    (unknown : coercion.numberOf? value = none ∨ coercion.number? raw = none)
    (text : sameText ignoreCase value.text raw = true → value.text = raw) :
    HoldBy (compare value.text raw) value (coercion.preparePlain raw) ignoreCase coercion := by
  refine holdBy_of_compareValues ?_ ?_
  · rw [compareValues?, Coercion.number?_preparePlain, Coercion.text_preparePlain]
    rcases unknown with none | none
    · rw [none]
      rfl
    · rw [none]
      cases coercion.numberOf? value <;> rfl
  · rw [valuesEqual_iff, compare_eq_iff_eq]
    constructor
    · rintro (same | ⟨_, _, one, other, -⟩)
      · exact text same
      · rcases unknown with none | none
        · rw [none] at one
          cases one
        · rw [none] at other
          cases other
    · intro same
      rw [same]
      exact .inl (sameText_self ignoreCase raw)

end Operator

end EventSieve
