import EventSieve.Filter.Token
import EventSieve.Proofs.DefaultTemplates

/-!
# Whole numerals

A whole number as JSON writes it, and what the readers of numbers make of its digits. Those of
filter values refuse every numeral beyond 64 bits: none of them takes it for a number of another
form.

## Main definitions

* `WholeNumeral` — an optional minus sign and digits, of which none is a zero before others
* `WholeNumeral.value`, `WholeNumeral.FitsInt64` — its number, and whether 64 bits hold it

## Main statements

* `WholeNumeral.intText_value` — a number is written with the digits that it is read from
* `WholeNumeral.number?_eq_none` — a text beyond 64 bits has no number
-/
namespace EventSieve

open Number (readRadix? readRadixFrom? readInt64? narrow? intText intChars digitValue?)

/-! ## Digits -/

namespace Number

theorem ne_of_isDigit {c d : Char} (digit : c.isDigit = true) (other : d.isDigit = false) :
    c ≠ d := by
  rintro rfl
  rw [digit] at other
  cases other

theorem beq_of_isDigit {c d : Char} (digit : c.isDigit = true) (other : d.isDigit = false) :
    (c == d) = false :=
  beq_eq_false_iff_ne.mpr (ne_of_isDigit digit other)

theorem toNat_bounds_of_isDigit {c : Char} (digit : c.isDigit = true) :
    48 ≤ c.toNat ∧ c.toNat ≤ 57 := by
  simpa [Char.isDigit, UInt32.le_iff_toNat_le] using digit

theorem isBlank_of_isDigit {c : Char} (digit : c.isDigit = true) : Text.isBlank c = false := by
  have bounds := toNat_bounds_of_isDigit digit
  simp only [Text.isBlank, Bool.or_eq_false_iff, Bool.and_eq_false_iff, decide_eq_false_iff_not,
    beq_eq_false_iff_ne]
  omega

theorem digitChar_of_isDigit {c : Char} (digit : c.isDigit = true) :
    Nat.digitChar (c.toNat - 48) = c := by
  have bounds := toNat_bounds_of_isDigit digit
  have small : c.toNat - 48 < 10 := by omega
  have same : (Nat.digitChar (c.toNat - 48)).toNat = c.toNat := by
    rw [Nat.toNat_digitChar_of_lt_ten small]
    omega
  exact Char.toNat_inj.mp same

/-- Digits are read up to what is none. -/
theorem takeWhile_isDigit {digits rest : List Char} (isDigit : ∀ c ∈ digits, c.isDigit = true)
    (ends : ∀ c ∈ rest.head?, c.isDigit = false) :
    (digits ++ rest).takeWhile Char.isDigit = digits := by
  rw [List.takeWhile_append_of_pos isDigit]
  cases rest with
  | nil => simp
  | cons c rest => simp [ends c rfl]

theorem dropWhile_isDigit {digits rest : List Char} (isDigit : ∀ c ∈ digits, c.isDigit = true)
    (ends : ∀ c ∈ rest.head?, c.isDigit = false) :
    (digits ++ rest).dropWhile Char.isDigit = rest := by
  rw [List.dropWhile_append_of_pos isDigit]
  cases rest with
  | nil => simp
  | cons c rest => simp [ends c rfl]

/-- Digits are read as the number that they stand for. -/
theorem readRadixFrom?_digits {digits : List Char} (isDigit : ∀ c ∈ digits, c.isDigit = true)
    (value : Nat) : readRadixFrom? 10 value digits = some (Nat.ofDigitChars 10 digits value) := by
  induction digits generalizing value with
  | nil => rfl
  | cons c digits ih =>
    have digit := isDigit c List.mem_cons_self
    have bounds := toNat_bounds_of_isDigit digit
    have small : c.toNat - 48 < 10 := by omega
    have known : digitValue? c = some (c.toNat - 48) := by rw [digitValue?, if_pos digit]
    rw [readRadixFrom?, known]
    simp only [small, if_true]
    rw [ih fun d mem => isDigit d (List.mem_cons_of_mem _ mem), Nat.ofDigitChars_cons,
      Nat.mul_comm]
    rfl

theorem readRadix?_digits {digits : List Char} (nonempty : digits ≠ [])
    (isDigit : ∀ c ∈ digits, c.isDigit = true) :
    readRadix? 10 digits = some (Nat.ofDigitChars 10 digits 0) := by
  obtain ⟨c, rest, same⟩ := List.exists_cons_of_ne_nil nonempty
  rw [← readRadixFrom?_digits isDigit 0, same]
  rfl

theorem readInt64?_digits {digits : List Char} (nonempty : digits ≠ [])
    (isDigit : ∀ c ∈ digits, c.isDigit = true) :
    readInt64? digits = narrow? (Nat.ofDigitChars 10 digits 0) := by
  rw [readInt64?, readRadix?_digits nonempty isDigit]
  rfl

/-- Digits after those of a positive number are the last ones of the number that they all stand
for. -/
theorem toDigits_ofDigitChars {digits : List Char} (isDigit : ∀ c ∈ digits, c.isDigit = true)
    {value : Nat} (positive : 0 < value) :
    Nat.toDigits 10 (Nat.ofDigitChars 10 digits value) = Nat.toDigits 10 value ++ digits := by
  induction digits generalizing value with
  | nil => rw [Nat.ofDigitChars_nil, List.append_nil]
  | cons c digits ih =>
    have digit := isDigit c List.mem_cons_self
    have bounds := toNat_bounds_of_isDigit digit
    have small : c.toNat - 48 < 10 := by omega
    have last : Nat.toDigits 10 (10 * value + (c.toNat - 48)) = Nat.toDigits 10 value ++ [c] := by
      rw [← Nat.toDigits_append_toDigits (by decide) positive small, Nat.toDigits_of_lt_base small,
        digitChar_of_isDigit digit]
    have grown : 0 < 10 * value + (c.toNat - 48) := by omega
    have split := ih (fun d mem => isDigit d (List.mem_cons_of_mem _ mem)) grown
    rw [last, List.append_assoc] at split
    rw [Nat.ofDigitChars_cons]
    exact split

end Number

/-! ## Digits with a point -/

namespace Coercion

section
variable {whole fraction rest : List Char}

/-- Digits are taken up to what begins neither with a digit nor with a point. -/
theorem takeDecimal?_whole (nonempty : whole ≠ []) (isDigit : ∀ c ∈ whole, c.isDigit = true)
    (ends : ∀ c ∈ rest.head?, c.isDigit = false ∧ c ≠ '.') :
    takeDecimal? (whole ++ rest) = some (whole, [], rest) := by
  have stops : ∀ c ∈ rest.head?, c.isDigit = false := fun c head => (ends c head).1
  rw [takeDecimal?, Number.takeWhile_isDigit isDigit stops, Number.dropWhile_isDigit isDigit stops]
  split
  · exact absurd rfl (ends '.' rfl).2
  · simp [nonempty]

/-- Digits with a point are taken up to what begins with no digit. -/
theorem takeDecimal?_point (nonempty : whole ++ fraction ≠ [])
    (isDigit : ∀ c ∈ whole ++ fraction, c.isDigit = true)
    (ends : ∀ c ∈ rest.head?, c.isDigit = false) :
    takeDecimal? (whole ++ '.' :: (fraction ++ rest)) = some (whole, fraction, rest) := by
  obtain ⟨before, after⟩ := List.forall_mem_append.mp isDigit
  have point : ∀ c ∈ ('.' :: (fraction ++ rest)).head?, c.isDigit = false := by simp
  rw [takeDecimal?, Number.takeWhile_isDigit before point, Number.dropWhile_isDigit before point]
  simp only [Number.takeWhile_isDigit after ends, Number.dropWhile_isDigit after ends]
  rw [if_neg]
  simpa using nonempty

/-- What digits are taken from up to its end has no unit. -/
theorem withUnit?_of_takeDecimal? {negative : Bool} {raw body : List Char}
    (sign : splitSign raw = (negative, body))
    (taken : takeDecimal? body = some (whole, fraction, [])) {units : List (List Char × Int)}
    (unknown : units.lookup [] = none) : withUnit? units raw = none := by
  rw [withUnit?, sign]
  simp only [taken, Option.bind_eq_bind, Option.bind_some, unknown, Option.bind_none]

end

/-! ## Separators -/


variable {mark : Char} {cs before after : List Char}

theorem splitFirst_of_notMem (absent : mark ∉ cs) : splitFirst mark cs = (cs, []) := by
  have other : ∀ c ∈ cs, (c != mark) = true := fun c mem =>
    bne_iff_ne.mpr fun same => absent (same ▸ mem)
  rw [splitFirst, ← List.append_nil cs, List.takeWhile_append_of_pos other,
    List.dropWhile_append_of_pos other]
  simp

theorem splitFirst_append (absent : mark ∉ before) :
    splitFirst mark (before ++ mark :: after) = (before, after) := by
  have other : ∀ c ∈ before, (c != mark) = true := fun c mem =>
    bne_iff_ne.mpr fun same => absent (same ▸ mem)
  rw [splitFirst, List.takeWhile_append_of_pos other, List.dropWhile_append_of_pos other]
  simp

theorem splitAll_ne_nil (mark : Char) (cs : List Char) : splitAll mark cs ≠ [] := by
  cases cs with
  | nil => exact List.cons_ne_nil _ _
  | cons c rest =>
    rw [splitAll]
    split
    · exact List.cons_ne_nil _ _
    · split <;> exact List.cons_ne_nil _ _

theorem splitAll_of_notMem (absent : mark ∉ cs) : splitAll mark cs = [cs] := by
  induction cs with
  | nil => rfl
  | cons c rest ih =>
    rw [List.mem_cons, not_or] at absent
    rw [splitAll, ih absent.2]
    exact if_neg (Ne.symm absent.1)

/-- The first part of a text is what stands before the first of a character. -/
theorem splitAll_append (absent : mark ∉ before) :
    splitAll mark (before ++ mark :: after) = before :: splitAll mark after := by
  induction before with
  | nil =>
    obtain ⟨part, later, parts⟩ := List.exists_cons_of_ne_nil (splitAll_ne_nil mark after)
    rw [List.nil_append, splitAll, parts]
    exact if_pos rfl
  | cons c rest ih =>
    rw [List.mem_cons, not_or] at absent
    rw [List.cons_append, splitAll, ih absent.2]
    exact if_neg (Ne.symm absent.1)

/-- Digits without separators are one group. -/
theorem wholeDigits?_of_notMem (absent : mark ∉ cs) :
    wholeDigits? mark cs = if cs.all Char.isDigit then some cs else none := by
  rw [wholeDigits?, if_neg (by simpa using absent)]

end Coercion

/-! ## Numerals -/

/-- A whole number as JSON writes it: digits, of which none is a zero before others, after an
optional minus sign. -/
structure WholeNumeral where
  negative : Bool
  digits : List Char
  nonempty : digits ≠ []
  isDigit : ∀ c ∈ digits, c.isDigit = true
  canonical : digits.head? = some '0' → digits = ['0']

namespace WholeNumeral

variable (n : WholeNumeral)

/-- The characters of a numeral. -/
def chars : List Char :=
  if n.negative then '-' :: n.digits else n.digits

/-- A numeral as a text. -/
def text : String :=
  String.ofList n.chars

/-- The number that the digits stand for. -/
def magnitude : Nat :=
  Nat.ofDigitChars 10 n.digits 0

/-- The number of a numeral. -/
def value : Int :=
  Number.Binary64.signed n.negative n.magnitude

/-- Whether 64 bits with a sign hold the number. -/
def FitsInt64 : Prop :=
  Int64.minValue.toInt ≤ n.value ∧ n.value ≤ Int64.maxValue.toInt

instance : Decidable n.FitsInt64 :=
  inferInstanceAs (Decidable (_ ∧ _))

theorem readRadix?_digits : readRadix? 10 n.digits = some n.magnitude :=
  Number.readRadix?_digits n.nonempty n.isDigit

/-- The first digit, and those after it. -/
theorem exists_digits : ∃ c rest, n.digits = c :: rest ∧ c.isDigit = true ∧
    (∀ d ∈ rest, d.isDigit = true) ∧ (c = '0' → rest = []) := by
  obtain ⟨c, rest, same⟩ := List.exists_cons_of_ne_nil n.nonempty
  have isDigit := n.isDigit
  have canonical := n.canonical
  rw [same] at isDigit canonical
  refine ⟨c, rest, same, isDigit c List.mem_cons_self,
    fun d mem => isDigit d (List.mem_cons_of_mem _ mem), ?_⟩
  rintro rfl
  exact (List.cons.inj (canonical rfl)).2

/-- What begins with digits does not begin with another character. -/
theorem digits_append_ne_cons {d : Char} (other : d.isDigit = false) (rest more : List Char) :
    n.digits ++ rest ≠ d :: more := by
  obtain ⟨c, cs, same, digit, -⟩ := n.exists_digits
  rw [same]
  exact fun h => Number.ne_of_isDigit digit other (List.cons.inj h).1

theorem digits_ne_cons {d : Char} (other : d.isDigit = false) (more : List Char) :
    n.digits ≠ d :: more := by
  rw [← List.append_nil n.digits]
  exact n.digits_append_ne_cons other [] more

/-- A zero is the only digit where it is the first. -/
theorem digits_append_ne_zero {rest : List Char} {d : Char} (other : rest.head? ≠ some d)
    (more : List Char) : n.digits ++ rest ≠ '0' :: d :: more := by
  obtain ⟨c, cs, same, -, -, zero⟩ := n.exists_digits
  rw [same]
  intro h
  obtain ⟨first, later⟩ := List.cons.inj h
  rw [zero first] at later
  exact other (congrArg List.head? later)

theorem digits_ne_zero (d : Char) (more : List Char) : n.digits ≠ '0' :: d :: more := by
  rw [← List.append_nil n.digits]
  exact n.digits_append_ne_zero (by simp) more

/-- A number is written with the digits that it is read from. -/
theorem toDigits_magnitude : Nat.toDigits 10 n.magnitude = n.digits := by
  obtain ⟨c, rest, same, digit, isDigit, zero⟩ := n.exists_digits
  rw [magnitude, same]
  by_cases isZero : c = '0'
  · rw [zero isZero, isZero]
    rfl
  · have bounds := Number.toNat_bounds_of_isDigit digit
    have notZero : c.toNat ≠ 48 := fun same => isZero (Char.toNat_inj.mp same)
    have positive : 0 < c.toNat - 48 := by omega
    have small : c.toNat - 48 < 10 := by omega
    have start : Nat.ofDigitChars 10 (c :: rest) 0 = Nat.ofDigitChars 10 rest (c.toNat - 48) := by
      rw [Nat.ofDigitChars_cons, Nat.mul_zero, Nat.zero_add]
      rfl
    rw [start, Number.toDigits_ofDigitChars isDigit positive, Nat.toDigits_of_lt_base small,
      Number.digitChar_of_isDigit digit]
    rfl

/-- A number is written as the numeral that it is read from, unless that is minus zero. -/
theorem intText_value (notMinusZero : n.negative = true → 0 < n.magnitude) :
    intText n.value = n.text := by
  rw [intText, text, intChars, chars, value, Number.Binary64.signed]
  by_cases negative : n.negative = true
  · have positive := notMinusZero negative
    have below : -(n.magnitude : Int) < 0 := by omega
    rw [if_pos negative, if_pos negative, if_pos below, Int.natAbs_neg, Int.natAbs_natCast,
      n.toDigits_magnitude]
  · have notBelow : ¬(n.magnitude : Int) < 0 := by omega
    rw [if_neg negative, if_neg negative, if_neg notBelow, Int.natAbs_natCast,
      n.toDigits_magnitude]

/-- The digits of a number beyond 64 bits are beyond them, whatever its sign. -/
theorem magnitude_of_not_fits (beyond : ¬n.FitsInt64) : Int64.maxValue.toInt < n.magnitude := by
  have max : Int64.maxValue.toInt = 9223372036854775807 := rfl
  have min : Int64.minValue.toInt = -9223372036854775808 := rfl
  rw [FitsInt64, value, Number.Binary64.signed, max, min] at beyond
  rw [max]
  split at beyond <;> omega

/-! ## Numbers of texts -/

theorem notMem_digits {c : Char} (other : c.isDigit = false) : c ∉ n.digits := by
  intro mem
  rw [n.isDigit c mem] at other
  cases other

theorem takeWhile_digits {rest : List Char} (ends : ∀ c ∈ rest.head?, c.isDigit = false) :
    (n.digits ++ rest).takeWhile Char.isDigit = n.digits :=
  Number.takeWhile_isDigit n.isDigit ends

theorem dropWhile_digits {rest : List Char} (ends : ∀ c ∈ rest.head?, c.isDigit = false) :
    (n.digits ++ rest).dropWhile Char.isDigit = rest :=
  Number.dropWhile_isDigit n.isDigit ends

open Coercion in
theorem splitSign_chars : splitSign n.chars = (n.negative, n.digits) := by
  rw [chars]
  by_cases negative : n.negative = true
  · rw [if_pos negative, splitSign, negative]
  · rw [if_neg negative, Bool.eq_false_iff.mpr negative]
    exact splitSign.eq_3 n.digits (fun _ => n.digits_ne_cons rfl _)
      (fun _ => n.digits_ne_cons rfl _)

open Coercion in
theorem integerDigits_digits : integerDigits n.digits = (10, n.digits) := by
  exact integerDigits.eq_5 n.digits (n.digits_ne_zero 'x') (n.digits_ne_zero 'X')
    (n.digits_ne_cons rfl) n.digits_ne_zero

section Beyond

variable {n} (beyond : Int64.maxValue.toInt < n.magnitude)

include beyond

theorem narrow?_magnitude : narrow? n.magnitude = none := by
  rw [narrow?, if_neg]
  exact fun range => Int.not_le.mpr beyond range.2

theorem readInt64?_digits : readInt64? n.digits = none := by
  rw [readInt64?, n.readRadix?_digits]
  exact narrow?_magnitude beyond

open Coercion in
theorem integerLiteral?_eq_none : integerLiteral? n.chars = none := by
  rw [integerLiteral?, n.splitSign_chars]
  simp only [n.integerDigits_digits, n.readRadix?_digits]
  show (narrow? n.magnitude).bind _ = none
  rw [narrow?_magnitude beyond]
  rfl

open Coercion in
theorem scale?_digits (negative : Bool) : scale? negative n.digits [] 0 = none := by
  have nonempty : n.digits.isEmpty = false := List.isEmpty_eq_false_iff.mpr n.nonempty
  rw [scale?]
  simp only [List.append_nil, nonempty, readInt64?_digits beyond]
  rfl

omit beyond in
open Coercion in
/-- Digits without separators are one group. -/
theorem groupedDecimal?_chars {grouping decimal : Char} (noDigit : grouping.isDigit = false)
    (noDigit' : decimal.isDigit = false) :
    groupedDecimal? grouping decimal n.chars = scale? n.negative n.digits [] 0 := by
  have nonempty : n.digits.isEmpty = false := List.isEmpty_eq_false_iff.mpr n.nonempty
  rw [groupedDecimal?, n.splitSign_chars]
  simp only [splitFirst_of_notMem (n.notMem_digits noDigit'), nonempty, Bool.false_and,
    Bool.false_eq_true, if_false, List.all_nil, if_true,
    wholeDigits?_of_notMem (n.notMem_digits noDigit), List.all_eq_true.mpr n.isDigit]
  show scale? n.negative (if n.digits.isEmpty then ['0'] else n.digits) [] 0 = _
  rw [nonempty]
  rfl

theorem groupedDecimal?_eq_none {grouping decimal : Char} (noDigit : grouping.isDigit = false)
    (noDigit' : decimal.isDigit = false) :
    Coercion.groupedDecimal? grouping decimal n.chars = none := by
  rw [n.groupedDecimal?_chars noDigit noDigit', scale?_digits beyond]

omit beyond in
open Coercion in
/-- A numeral has no unit. -/
theorem withUnit?_eq_none {units : List (List Char × Int)} (unknown : units.lookup [] = none) :
    withUnit? units n.chars = none := by
  have taken : takeDecimal? (n.digits ++ []) = some (n.digits, [], []) :=
    takeDecimal?_whole n.nonempty n.isDigit nofun
  rw [List.append_nil] at taken
  exact withUnit?_of_takeDecimal? n.splitSign_chars taken unknown

end Beyond

/-! ## The first character -/

theorem exists_chars : ∃ c cs, n.chars = c :: cs ∧ (∀ d ∈ cs, d.isDigit = true) ∧
    (c = '-' ∨ c.isDigit = true) := by
  obtain ⟨c, rest, same, digit, isDigit, -⟩ := n.exists_digits
  rw [chars]
  by_cases negative : n.negative = true
  · exact ⟨'-', n.digits, if_pos negative, n.isDigit, .inl rfl⟩
  · exact ⟨c, rest, by rw [if_neg negative, same], isDigit, .inr digit⟩

/-- A numeral begins with a sign or a digit. -/
theorem chars_append_ne_cons {d : Char} (other : d.isDigit = false) (noSign : d ≠ '-')
    (rest more : List Char) : n.chars ++ rest ≠ d :: more := by
  obtain ⟨c, cs, same, -, first⟩ := n.exists_chars
  rw [same]
  intro h
  have head : c = d := (List.cons.inj h).1
  rcases first with sign | digit
  · exact noSign (head.symm.trans sign)
  · exact Number.ne_of_isDigit digit other head

theorem chars_ne_cons {d : Char} (other : d.isDigit = false) (noSign : d ≠ '-')
    (more : List Char) : n.chars ≠ d :: more := by
  rw [← List.append_nil n.chars]
  exact n.chars_append_ne_cons other noSign [] more

/-- A hyphen is at most the sign of a numeral, so a numeral names no instant. -/
theorem hyphen_notMem_chars : '-' ∉ n.chars.drop 1 := by
  obtain ⟨c, cs, same, isDigit, -⟩ := n.exists_chars
  rw [same]
  exact fun mem => Number.ne_of_isDigit (isDigit _ mem) rfl rfl

/-- A numeral beyond 64 bits is no number by the default rules: every reader refuses it. -/
theorem number?_eq_none (beyond : Int64.maxValue.toInt < n.magnitude) :
    ({} : Coercion).number? n.text = none := by
  have noInstant : ({} : Coercion).instant? n.text = none := by
    refine Coercion.instant?_eq_none ?_
    rw [text, String.toList_ofList]
    exact n.hyphen_notMem_chars
  rw [Coercion.number?, noInstant, text, String.toList_ofList, integerLiteral?_eq_none beyond,
    groupedDecimal?_eq_none beyond rfl rfl, Coercion.unitScaled?,
    Coercion.duration?, withUnit?_eq_none rfl, withUnit?_eq_none rfl]
  rfl

end WholeNumeral

end EventSieve
