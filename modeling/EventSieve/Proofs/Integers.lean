import EventSieve.Proofs.Numerals
import EventSieve.Proofs.Order

/-!
# Integers compared with their digits

The digits of a 64-bit integer are read as that integer, so that two integers compare as integers
when one of them is given by its digits. The least integer is the exception: its sign is split off
before its digits are read, and without it they are beyond 64 bits. It is compared as a text, unless
another reader of numbers takes it.

## Main definitions

* `WholeNumeral.ofInt` — the numeral that an integer is written with

## Main statements

* `Coercion.number?_intText` — the digits of an integer are read as the integer
* `Operator.holdBy_integers` — when integers are compared as integers
-/
namespace EventSieve

open Number (intText intChars narrow? readRadix?)

/-! ## The numeral of an integer -/

namespace Number

/-- The digits of a number begin with a zero only if the number is zero. -/
theorem eq_zero_of_head?_toDigits (n : Nat) (zero : (Nat.toDigits 10 n).head? = some '0') :
    n = 0 := by
  induction n using Nat.strongRecOn with
  | ind n ih =>
    by_cases small : n < 10
    · rw [Nat.toDigits_of_lt_base small, List.head?_cons, Option.some.injEq] at zero
      have code := Nat.toNat_digitChar_of_lt_ten small
      rw [zero] at code
      have : '0'.toNat = 48 := rfl
      omega
    · have large : 10 ≤ n := Nat.le_of_not_lt small
      have shorter : (Nat.toDigits 10 (n / 10)).head? = some '0' := by
        rwa [Nat.toDigits_of_base_le (by decide) large, List.head?_append_of_ne_nil _
          Nat.toDigits_ne_nil] at zero
      have := ih (n / 10) (by omega) shorter
      omega

/-- An integer is its magnitude with its sign. -/
theorem Binary64.signed_natAbs (i : Int) : Binary64.signed (decide (i < 0)) i.natAbs = i := by
  by_cases negative : i < 0
  · rw [decide_eq_true negative, Binary64.signed, if_pos rfl]
    omega
  · rw [decide_eq_false negative, Binary64.signed, if_neg Bool.false_ne_true]
    omega

theorem narrow?_of_fits {i : Int} (low : Int64.minValue.toInt ≤ i)
    (high : i ≤ Int64.maxValue.toInt) : narrow? i = some (Int64.ofInt i) :=
  if_pos ⟨low, high⟩

end Number

namespace WholeNumeral

/-- The numeral that an integer is written with. -/
def ofInt (i : Int) : WholeNumeral where
  negative := decide (i < 0)
  digits := Nat.toDigits 10 i.natAbs
  nonempty := Nat.toDigits_ne_nil
  isDigit _ mem := Nat.isDigit_of_mem_toDigits (by decide) (by decide) mem
  canonical zero := by rw [Number.eq_zero_of_head?_toDigits _ zero]; rfl

@[simp] theorem magnitude_ofInt (i : Int) : (ofInt i).magnitude = i.natAbs :=
  Nat.ofDigitChars_ten_toDigits

@[simp] theorem chars_ofInt (i : Int) : (ofInt i).chars = intChars i := by
  by_cases negative : i < 0 <;> simp [chars, ofInt, intChars, negative]

@[simp] theorem text_ofInt (i : Int) : (ofInt i).text = intText i := by
  rw [text, chars_ofInt, intText]

open Coercion in
/-- The digits of a number that 64 bits hold without its sign are read as that number. -/
theorem integerLiteral?_chars {n : WholeNumeral}
    (fits : (n.magnitude : Int) ≤ Int64.maxValue.toInt) : integerLiteral? n.chars =
      some (.integer (withSign n.negative (Int64.ofInt n.magnitude))) := by
  have low : Int64.minValue.toInt ≤ (n.magnitude : Int) :=
    Int.le_trans (by decide) (Int.natCast_nonneg _)
  rw [integerLiteral?, n.splitSign_chars]
  simp only [n.integerDigits_digits, n.readRadix?_digits]
  show (narrow? n.magnitude).bind _ = _
  rw [Number.narrow?_of_fits low fits]
  rfl

end WholeNumeral

namespace Number

/-- Two integers with the same text are the same. -/
theorem intText_inj {i j : Int} : intText i = intText j ↔ i = j := by
  refine ⟨fun same => ?_, congrArg intText⟩
  have chars : intChars i = intChars j := String.ofList_injective same
  have split := congrArg Coercion.splitSign chars
  rw [← WholeNumeral.chars_ofInt, ← WholeNumeral.chars_ofInt, WholeNumeral.splitSign_chars,
    WholeNumeral.splitSign_chars, Prod.mk.injEq] at split
  obtain ⟨sign, digits⟩ := split
  have magnitude : i.natAbs = j.natAbs := by
    rw [← WholeNumeral.magnitude_ofInt, ← WholeNumeral.magnitude_ofInt, WholeNumeral.magnitude,
      digits, WholeNumeral.magnitude]
  have sign : (i < 0) ↔ (j < 0) := decide_eq_decide.mp sign
  omega

/-- An integer is written with digits and a sign. -/
theorem mem_intChars {i : Int} {c : Char} (mem : c ∈ intChars i) : c = '-' ∨ c.isDigit = true := by
  rw [← WholeNumeral.chars_ofInt, WholeNumeral.chars] at mem
  split at mem
  · rcases List.mem_cons.mp mem with rfl | mem
    · exact .inl rfl
    · exact .inr ((WholeNumeral.ofInt i).isDigit c mem)
  · exact .inr ((WholeNumeral.ofInt i).isDigit c mem)

end Number

/-! ## Lower case -/

namespace Text

/-- The lower-case form of ASCII characters does not depend on what stands beside them. -/
theorem Lowercase.charsAfter_of_ascii {cs : List Char} (ascii : ∀ c ∈ cs, c.toNat < 0x80)
    (before : List Char) : charsAfter before cs = cs.map Char.toLower := by
  induction cs generalizing before with
  | nil => rfl
  | cons c cs ih =>
    obtain ⟨small, later⟩ := List.forall_mem_cons.mp ascii
    have noSigma : c ≠ 'Σ' := by
      rintro rfl
      exact absurd small (by decide)
    rw [charsAfter, if_neg noSigma, ofChar, if_pos small, ih later]
    rfl

/-- Digits and signs are no capitals. -/
theorem toLower_of_isDigit {c : Char} (plain : c = '-' ∨ c.isDigit = true) :
    c.toNat < 0x80 ∧ c.toLower = c := by
  rcases plain with rfl | digit
  · exact ⟨by decide, rfl⟩
  · have bounds := Number.toNat_bounds_of_isDigit digit
    have noCapital : ¬('A'.val ≤ c.val ∧ c.val ≤ 'Z'.val) := fun capital =>
      absurd (UInt32.le_iff_toNat_le.mp capital.1) (by
        show ¬65 ≤ c.toNat
        omega)
    exact ⟨by omega, dif_neg noCapital⟩

theorem lowercase_intText (i : Int) : lowercase (intText i) = intText i := by
  have plain (c : Char) (mem : c ∈ intChars i) : c.toNat < 0x80 ∧ c.toLower = c :=
    toLower_of_isDigit (Number.mem_intChars mem)
  have same : (intChars i).map Char.toLower = intChars i :=
    (List.map_congr_left fun c mem => (plain c mem).2).trans (List.map_id _)
  rw [lowercase, intText, String.toList_ofList,
    Lowercase.charsAfter_of_ascii fun c mem => (plain c mem).1, same]

end Text

/-- Integers have the same text only if they are the same, whether or not case is ignored. -/
theorem sameText_intText (ignoreCase : Bool) (i j : Int) :
    sameText ignoreCase (intText i) (intText j) = decide (i = j) := by
  have text : (intText i == intText j) = decide (i = j) := by
    rw [beq_eq_decide, decide_eq_decide]
    exact Number.intText_inj
  rw [sameText, Text.lowercase_intText, Text.lowercase_intText, ite_self, text]

/-! ## Comparing -/

/-- A magnitude below 2⁶³ keeps its sign in 64 bits. -/
theorem Number.toInt_ofInt_signed (negative : Bool) {n : Nat} (small : n < 2 ^ 63) :
    (Int64.ofInt (Binary64.signed negative n)).toInt = Binary64.signed negative n := by
  have max : Int64.maxValue.toInt = 2 ^ 63 - 1 := rfl
  have min : Int64.minValue.toInt = -2 ^ 63 := rfl
  refine Int64.toInt_ofInt_of_le ?_ ?_ <;> rw [Binary64.signed] <;> split <;> omega

namespace Coercion

/-- A number that fits 64 bits, with a sign. -/
theorem toInt_withSign (negative : Bool) {n : Nat} (fits : (n : Int) ≤ Int64.maxValue.toInt) :
    (withSign negative (Int64.ofInt n)).toInt = Number.Binary64.signed negative n := by
  have max : Int64.maxValue.toInt = 2 ^ 63 - 1 := rfl
  have magnitude : (Int64.ofInt n).toInt = n := Int64.toInt_ofInt_of_le (by omega) (by omega)
  cases negative with
  | true =>
    show (-Int64.ofInt n).toInt = -(n : Int)
    rw [Int64.toInt_neg, magnitude, Int.bmod_eq_of_le (by omega) (by omega)]
  | false => exact magnitude

variable (coercion : Coercion) {b : Int64}

/-- The digits of an integer are read as the integer, unless it is the least one. -/
theorem number?_intText (notLeast : b ≠ Int64.minValue) :
    coercion.number? (intText b.toInt) = some (.integer b) := by
  have low := b.le_toInt
  have high := b.toInt_lt
  have above : b.toInt ≠ -2 ^ 63 := fun same => notLeast (Int64.toInt_inj.mp same)
  have max : Int64.maxValue.toInt = 2 ^ 63 - 1 := rfl
  have fits : (b.toInt.natAbs : Int) ≤ Int64.maxValue.toInt := by omega
  have value : withSign (decide (b.toInt < 0)) (Int64.ofInt b.toInt.natAbs) = b := by
    rw [← Int64.toInt_inj, toInt_withSign _ fits, Number.Binary64.signed_natAbs]
  rw [← WholeNumeral.magnitude_ofInt] at fits
  have read := WholeNumeral.integerLiteral?_chars fits
  rw [WholeNumeral.chars_ofInt, WholeNumeral.magnitude_ofInt] at read
  rw [number?, intText, String.toList_ofList, read]
  exact congrArg (fun value => some (Number.integer value)) value

end Coercion

namespace Operator

variable (coercion : Coercion) (ignoreCase : Bool) (a b : Int64)

/-- An integer is compared with the digits of another one as integers are, up to both ends of the
range of the first and down to the least integer of the second. The digits of the least integer are
compared as a text where the rules find no number in them, which is right only where the texts stand
in the order of the integers. -/
theorem holdBy_integers :
    (b ≠ Int64.minValue → HoldBy (compare a.toInt b.toInt) (.integer a)
      (coercion.prepare (intText b.toInt) false) ignoreCase coercion) ∧
    (b = Int64.minValue → coercion.number? (intText b.toInt) = none →
      (HoldBy (compare a.toInt b.toInt) (.integer a) (coercion.prepare (intText b.toInt) false)
        ignoreCase coercion ↔ a = b ∨ intText b.toInt < intText a.toInt)) := by
  have text : sameText ignoreCase (Value.integer a).text (intText b.toInt) = decide (a = b) := by
    rw [Value.text, sameText_intText, decide_eq_decide]
    exact Int64.toInt_inj
  have prepared : coercion.prepare (intText b.toInt) false =
      coercion.preparePlain (intText b.toInt) := rfl
  rw [prepared]
  constructor
  · intro notLeast
    refine holdBy_of_numbers rfl (coercion.number?_intText notLeast) rfl fun same => ?_
    rw [text, decide_eq_true_iff] at same
    rw [same, compare_eq_iff_eq]
  · intro least unread
    have byText : HoldBy (compare (Value.integer a).text (intText b.toInt)) (.integer a)
        (coercion.preparePlain (intText b.toInt)) ignoreCase coercion := by
      refine holdBy_of_texts (.inr unread) fun same => ?_
      rw [text, decide_eq_true_iff] at same
      rw [same, Value.text]
    rw [Value.text] at byText
    have above (different : a ≠ b) : compare a.toInt b.toInt = .gt := by
      have low := a.le_toInt
      have apart : a.toInt ≠ b.toInt := fun same => different (Int64.toInt_inj.mp same)
      have bottom : b.toInt = -2 ^ 63 := by rw [least]; rfl
      rw [compare_gt_iff_gt]
      show b.toInt < a.toInt
      omega
    constructor
    · intro byNumber
      by_cases same : a = b
      · exact .inl same
      · exact .inr (compare_gt_iff_gt.mp ((byText.unique byNumber).trans (above same)))
    · intro right
      by_cases same : a = b
      · rw [same, compare_eq_iff_eq.mpr rfl] at byText ⊢
        exact byText
      · rw [above same]
        rwa [compare_gt_iff_gt.mpr (right.resolve_left same)] at byText

/-- Both ends of the range compare as integers, and so does an integer above zero with the least
one, whose digits are a text. -/
theorem holdBy_integers_ends :
    HoldBy .lt (.integer Int64.minValue) (({} : Coercion).prepare "9223372036854775807" false) false
      {} ∧
    HoldBy .gt (.integer 7) (({} : Coercion).prepare "-9223372036854775808" false) true {} := by
  have unread : ({} : Coercion).number? (intText Int64.minValue.toInt) = none := by
    rw [← WholeNumeral.text_ofInt]
    exact WholeNumeral.number?_eq_none _ (by decide)
  exact ⟨(holdBy_integers {} false Int64.minValue Int64.maxValue).1 (by decide),
    ((holdBy_integers {} true 7 Int64.minValue).2 rfl unread).mpr (.inr (by decide))⟩

/-- Minus one is above the least integer, but is taken to be below it: its digits come first as a
text. -/
theorem holdBy_integers_ne :
    ¬HoldBy (compare (-1 : Int64).toInt Int64.minValue.toInt) (.integer (-1))
      (({} : Coercion).prepare "-9223372036854775808" false) false {} ∧
    Operator.lessThan.holds (.integer (-1)) (({} : Coercion).prepare "-9223372036854775808" false)
      false {} = true := by
  have unread : ({} : Coercion).number? "-9223372036854775808" = none :=
    WholeNumeral.number?_eq_none (.ofInt Int64.minValue.toInt) (by decide)
  have less : Operator.lessThan.holds (.integer (-1))
      (({} : Coercion).prepare "-9223372036854775808" false) false {} = true := by
    rw [Coercion.prepare, if_neg Bool.false_ne_true, Coercion.preparePlain, unread]
    decide
  exact ⟨fun right => absurd (right.less.mp less) (by decide), less⟩

end Operator

end EventSieve
