import EventSieve.Proofs.DecimalRounding

/-!
# Numerals with a unit

Decimal numbers with a unit such as `2.5k` or `200 ms`. Of the readers of numbers only the one of
the measure of the unit takes them, and it scales their digits by the power of ten of the unit.

## Main definitions

* `Coercion.Measure` — what a unit measures
* `Coercion.UnitNumeral` — a decimal number with a unit
* `Coercion.UnitNumeral.product` — the number that it stands for

## Main statements

* `Coercion.UnitNumeral.number?_text` — a numeral is read by scaling its digits
-/
namespace EventSieve

open Number (Binary64)

namespace Coercion

/-- What a unit measures: an amount, or a time in nanoseconds. -/
inductive Measure where
  | amount
  | time
deriving DecidableEq, Repr

namespace Measure

/-- The units of a measure with their powers of ten. -/
def units : Measure → List (List Char × Int)
  | amount => amountUnits
  | time => timeUnits

/-- What is made of a scaled number: a time is a whole number of nanoseconds. -/
def settle : Measure → Number → Number
  | time, .float ticks => .integer (Number.clamp ticks.round)
  | _, number => number

@[simp] theorem settle_integer (measure : Measure) (value : Int64) :
    measure.settle (.integer value) = .integer value := by
  cases measure <;> rfl

theorem exists_settle_time (number : Number) : ∃ value, time.settle number = .integer value := by
  cases number <;> exact ⟨_, rfl⟩

/-- The characters of units. -/
def letters : List Char :=
  ['k', 'M', 'G', 'T', 'P', 'm', 'u', 'µ', 'n', 'p', 's']

theorem letters_of_units {measure : Measure} {unit : List Char} {exponent : Int}
    (known : (unit, exponent) ∈ measure.units) : unit ≠ [] ∧ ∀ c ∈ unit, c ∈ letters := by
  have all : ∀ measure : Measure, ∀ unit ∈ measure.units,
      unit.1 ≠ [] ∧ ∀ c ∈ unit.1, c ∈ letters := by
    intro measure
    cases measure with
    | amount => simp [units, amountUnits, letters]
    | time => simp [units, timeUnits, letters]
  exact all measure _ known

/-- A unit is found among those of its measure only. -/
theorem lookup_units {measure : Measure} {unit : List Char} {exponent : Int}
    (known : (unit, exponent) ∈ measure.units) (other : Measure) :
    other.units.lookup unit = if other = measure then some exponent else none := by
  have all : ∀ measure other : Measure, ∀ unit ∈ measure.units,
      other.units.lookup unit.1 = if other = measure then some unit.2 else none := by
    intro measure other
    cases measure <;> cases other <;> decide
  exact all measure other _ known

/-- The powers of ten of units are few enough for 64 bits. -/
theorem exponent_le {measure : Measure} {unit : List Char} {exponent : Int}
    (known : (unit, exponent) ∈ measure.units) : exponent ≤ 18 := by
  have all : ∀ measure : Measure, ∀ unit ∈ measure.units, unit.2 ≤ 18 := by
    intro measure
    cases measure <;> decide
  exact all measure _ known

end Measure

/-- A decimal number with a unit: an optional sign, digits with a point among or beside them, and
the unit, which a blank may stand before. -/
structure UnitNumeral where
  sign : Sign
  whole : List Char
  /-- The digits after the point, if there is one. -/
  fraction : Option (List Char)
  nonempty : whole ++ fraction.getD [] ≠ []
  isDigit : ∀ c ∈ whole ++ fraction.getD [], c.isDigit = true
  spaced : Bool
  measure : Measure
  unit : List Char
  exponent : Int
  known : (unit, exponent) ∈ measure.units

namespace UnitNumeral

variable (n : UnitNumeral)

/-- The digits after the point. -/
def places : List Char :=
  n.fraction.getD []

/-- The digits with their point. -/
def decimal : List Char :=
  match n.fraction with
  | none => n.whole
  | some fraction => n.whole ++ '.' :: fraction

/-- The unit with the blank before it. -/
def ending : List Char :=
  if n.spaced then ' ' :: n.unit else n.unit

/-- A numeral as a text. -/
def text : String :=
  String.ofList (n.sign.chars ++ (n.decimal ++ n.ending))

/-- The number that all digits stand for. -/
def mantissa : Nat :=
  Nat.ofDigitChars 10 (n.whole ++ n.places) 0

/-- The number of a numeral, in the units of its measure. -/
def product : ℚ :=
  n.sign.apply n.mantissa * 10 ^ (n.exponent - n.places.length)

/-! ## Reading -/

theorem digits_ne_nil : n.whole ++ n.places ≠ [] :=
  n.nonempty

theorem isDigit_digits : ∀ c ∈ n.whole ++ n.places, c.isDigit = true :=
  n.isDigit

theorem isDigit_whole {c : Char} (mem : c ∈ n.whole) : c.isDigit = true :=
  n.isDigit c (List.mem_append_left _ mem)

theorem isDigit_places {c : Char} (mem : c ∈ n.places) : c.isDigit = true :=
  n.isDigit c (List.mem_append_right _ mem)

/-- A character of a numeral after its sign is a digit, the point, the blank or a letter of its
unit. -/
theorem mem_body {c : Char} (mem : c ∈ n.decimal ++ n.ending) :
    c.isDigit = true ∨ c ∈ '.' :: ' ' :: Measure.letters := by
  have letters := (Measure.letters_of_units n.known).2
  rcases List.mem_append.mp mem with decimal | ending
  · have places := n.isDigit_places (c := c)
    rw [UnitNumeral.decimal] at decimal
    rw [UnitNumeral.places] at places
    split at decimal
    · exact .inl (n.isDigit_whole decimal)
    · next fraction same =>
      rw [same, Option.getD_some] at places
      rcases List.mem_append.mp decimal with whole | point
      · exact .inl (n.isDigit_whole whole)
      · rcases List.mem_cons.mp point with rfl | fraction
        · exact .inr List.mem_cons_self
        · exact .inl (places fraction)
  · right
    rw [UnitNumeral.ending] at ending
    split at ending
    · rcases List.mem_cons.mp ending with rfl | unit
      · simp
      · simp [letters c unit]
    · simp [letters c ending]

/-- The first character after the digits is the blank or a letter. -/
theorem head_ending : ∀ c ∈ n.ending.head?, c.isDigit = false ∧ c ≠ '.' := by
  obtain ⟨some, letters⟩ := Measure.letters_of_units n.known
  have plain : ∀ c ∈ Measure.letters, c.isDigit = false ∧ c ≠ '.' := by simp [Measure.letters]
  intro c head
  rw [ending] at head
  split at head
  · cases head
    decide
  · exact plain c (letters c (List.mem_of_mem_head? head))

theorem takeDecimal?_body :
    takeDecimal? (n.decimal ++ n.ending) = some (n.whole, n.places, n.ending) := by
  have nonempty := n.nonempty
  have isDigit := n.isDigit
  rw [decimal, places]
  cases point : n.fraction with
  | none =>
    rw [point, Option.getD_none, List.append_nil] at nonempty isDigit
    exact takeDecimal?_whole nonempty isDigit n.head_ending
  | some fraction =>
    rw [point, Option.getD_some] at nonempty isDigit
    simp only [List.append_assoc, List.cons_append, Option.getD_some]
    exact takeDecimal?_point nonempty isDigit fun c head => (n.head_ending c head).1

theorem noSign_body : ∀ c ∈ (n.decimal ++ n.ending).head?, c ∉ ['-', '+'] := by
  intro c head mem
  have plain : ∀ c ∈ ['-', '+'], c.isDigit = false ∧ c ∉ '.' :: ' ' :: Measure.letters := by
    simp [Measure.letters]
  obtain ⟨noDigit, other⟩ := plain c mem
  rcases n.mem_body (List.mem_of_mem_head? head) with digit | letter
  · exact Number.ne_of_isDigit digit noDigit rfl
  · exact other letter

theorem splitSign_text :
    splitSign n.text.toList = (n.sign.isMinus, n.decimal ++ n.ending) := by
  rw [text, String.toList_ofList]
  exact n.sign.splitSign_chars n.noSign_body

/-- The digits are scaled by the power of ten of the unit. -/
theorem withUnit?_text (measure : Measure) :
    withUnit? measure.units n.text.toList =
      if measure = n.measure then scale? n.sign.isMinus n.whole n.places n.exponent else none := by
  have found := Measure.lookup_units n.known measure
  rw [withUnit?, n.splitSign_text]
  simp only [n.takeDecimal?_body, Option.bind_eq_bind, Option.bind_some]
  split
  · next more blank =>
    have name : more = n.unit := by
      rw [ending] at blank
      split at blank
      · exact (List.cons.inj blank).2.symm
      · have letters := (Measure.letters_of_units n.known).2
        exact absurd (letters ' ' (by simp [blank])) (by decide)
    rw [name, found]
    split <;> rfl
  · next noBlank =>
    have name : n.ending = n.unit := by
      rw [ending] at noBlank ⊢
      split
      · next spaced => exact absurd (if_pos spaced) (noBlank n.unit)
      · rfl
    rw [name, found]
    split <;> rfl

/-- Only the reader of its measure takes a numeral with a unit. -/
theorem number?_text : ({} : Coercion).number? n.text =
    (scale? n.sign.isMinus n.whole n.places n.exponent).map n.measure.settle := by
  obtain ⟨some, letters⟩ := Measure.letters_of_units n.known
  obtain ⟨c, more, same⟩ := List.exists_cons_of_ne_nil some
  have letter : c ∈ Measure.letters := letters c (by simp [same])
  have mem : c ∈ (splitSign n.text.toList).2 := by
    rw [n.splitSign_text, ending]
    split <;> simp [same]
  have noInteger : integerLiteral? n.text.toList = none := by
    have other : ∀ c ∈ Measure.letters,
        Number.digitValue? c = none ∧ c ∉ ['x', 'X', '#'] := by
      simp [Measure.letters, Number.digitValue?]
    exact integerLiteral?_of_mem mem (other c letter).1 (other c letter).2
  have noGroups : groupedDecimal? ',' '.' n.text.toList = none := by
    have other : ∀ c ∈ Measure.letters, c ≠ ',' ∧ c ≠ '.' ∧ ¬c.isDigit = true := by
      simp [Measure.letters]
    obtain ⟨grouping, point, digit⟩ := other c letter
    refine Option.eq_none_iff_forall_ne_some.mpr fun number read => ?_
    rcases isDigit_of_groupedDecimal? read mem with same | same | same
    · exact grouping same
    · exact point same
    · exact digit same
  have noInstant : ({} : Coercion).instant? n.text = none := by
    refine instant?_eq_none fun mem => ?_
    have body : '-' ∈ n.decimal ++ n.ending := by
      rw [text, String.toList_ofList] at mem
      cases sign : n.sign with
      | absent =>
        rw [sign] at mem
        exact List.mem_of_mem_drop mem
      | plus => simpa [sign, Sign.chars] using mem
      | minus => simpa [sign, Sign.chars] using mem
    rcases n.mem_body body with digit | letter
    · cases digit
    · exact absurd letter (by decide)
  have amount : unitScaled? n.text.toList = _ := n.withUnit?_text .amount
  have time : duration? n.text.toList = _ := congrArg (Option.map _) (n.withUnit?_text .time)
  rw [number?, noInteger, noGroups, amount, time, noInstant]
  cases n.measure with
  | amount => cases scale? n.sign.isMinus n.whole n.places n.exponent <;> rfl
  | time =>
    cases scale? n.sign.isMinus n.whole n.places n.exponent with
    | none => rfl
    | some number => cases number <;> rfl

/-! ## Magnitudes -/

/-- The number of a numeral without its sign. -/
def magnitude : ℚ :=
  n.mantissa * 10 ^ (n.exponent - n.places.length)

theorem magnitude_nonneg : 0 ≤ n.magnitude :=
  mul_nonneg (Nat.cast_nonneg _) (by positivity)

theorem product_eq : n.product = if n.sign.isMinus then -n.magnitude else n.magnitude := by
  rw [product, magnitude, Sign.apply, Binary64.signed]
  split
  · push_cast
    ring
  · push_cast
    ring

theorem abs_product : |n.product| = n.magnitude := by
  rw [product_eq]
  split
  · rw [abs_neg, abs_of_nonneg n.magnitude_nonneg]
  · rw [abs_of_nonneg n.magnitude_nonneg]

theorem product_of_plus {n : UnitNumeral} {k : Nat} (plus : n.sign.isMinus = false)
    (mantissa : n.mantissa = k) : n.product = k * 10 ^ (n.exponent - n.places.length) := by
  rw [product_eq, plus, magnitude, mantissa]
  exact if_neg Bool.false_ne_true

theorem product_eq_iff (k : Nat) : n.product = n.sign.apply k ↔ n.magnitude = k := by
  rw [product_eq, Sign.apply, Binary64.signed]
  split
  · push_cast
    exact neg_inj
  · push_cast
    exact Iff.rfl

/-- A whole product is the magnitude with the sign. -/
theorem exists_of_product_eq {i : Int} (whole : n.product = i) :
    n.magnitude = i.natAbs ∧ i = n.sign.apply i.natAbs := by
  have magnitude : n.magnitude = i.natAbs := by
    rw [← abs_product, whole, Nat.cast_natAbs, Int.cast_abs]
  have same := (n.product_eq_iff i.natAbs).mpr magnitude
  rw [whole] at same
  exact ⟨magnitude, by exact_mod_cast same⟩

end UnitNumeral

end Coercion

end EventSieve
