import EventSieve.Proofs.Integers
import Mathlib.Data.List.Perm.Subperm

/-!
# Decimal numerals

What the readers of numerals make of digits, and of digits with a point among them, under any two
separators that are no digits. A point is the decimal separator, or it groups three digits after it,
or it is no part of a number.

## Main definitions

* `Coercion.Separated` — rules with two different separators that are no digits
* `Coercion.numeral?` — the number of a text by the readers of numerals
* `PointNumeral` — a whole numeral, a point and digits

## Main statements

* `WholeNumeral.numeral?_of_fits`, `WholeNumeral.numeral?_of_beyond` — digits
* `PointNumeral.numeral?_of_decimal`, `PointNumeral.numeral?_of_grouping`,
  `PointNumeral.numeral?_of_other` — digits with a point among them
-/
namespace EventSieve

open Number (Binary64 readRadix? readInt64? narrow? digitValue?)

/-- A character that is no digit in a base keeps a text from being read in it. -/
theorem Number.readRadix?_of_mem {radix : Nat} {c : Char} {cs : List Char} (mem : c ∈ cs)
    (other : ∀ digit ∈ digitValue? c, radix ≤ digit) : readRadix? radix cs = none := by
  have unread (value : Nat) : Number.readRadixFrom? radix value cs = none := by
    induction cs generalizing value with
    | nil => cases mem
    | cons d rest ih =>
      rw [Number.readRadixFrom?]
      cases known : digitValue? d with
      | none => rfl
      | some digit =>
        simp only
        split
        · next small =>
          rcases List.mem_cons.mp mem with rfl | later
          · exact absurd small (Nat.not_lt.mpr (other digit known))
          · exact ih later _
        · rfl
  cases cs with
  | nil => cases mem
  | cons d rest => exact unread 0

namespace Coercion

/-- The grouping and the decimal separator are two different characters, and no digits. -/
structure Separated (coercion : Coercion) : Prop where
  apart : coercion.grouping ≠ coercion.decimal
  grouping : coercion.grouping.isDigit = false
  decimal : coercion.decimal.isDigit = false

/-- The number of a text by the readers of numerals, which are tried before instants. -/
def numeral? (coercion : Coercion) (raw : String) : Option Number :=
  integerLiteral? raw.toList
  <|> groupedDecimal? coercion.grouping coercion.decimal raw.toList
  <|> unitScaled? raw.toList
  <|> duration? raw.toList

theorem number?_eq (coercion : Coercion) (raw : String) : coercion.number? raw =
    (coercion.numeral? raw).or ((coercion.instant? raw).map .integer) := by
  rw [number?, numeral?]
  cases integerLiteral? raw.toList <;> cases groupedDecimal? _ _ raw.toList <;>
    cases unitScaled? raw.toList <;> cases duration? raw.toList <;> rfl

/-- A character that is no digit of any base, nor part of a mark before digits, keeps a text from
being an integer. -/
theorem integerLiteral?_of_mem {raw : List Char} {c : Char} (mem : c ∈ (splitSign raw).2)
    (other : digitValue? c = none) (noMark : c ∉ ['x', 'X', '#']) : integerLiteral? raw = none := by
  have noZero : c ≠ '0' := by
    rintro rfl
    cases other
  have stays (body : List Char) (mem : c ∈ body) : c ∈ (integerDigits body).2 := by
    unfold integerDigits
    split <;> simp_all
  have unread : readRadix? (integerDigits (splitSign raw).2).1
      (integerDigits (splitSign raw).2).2 = none := by
    refine Number.readRadix?_of_mem (stays _ mem) ?_
    rw [other]
    exact nofun
  rw [integerLiteral?]
  simp only [unread]
  rfl

/-- Only the first two readers of numerals take a text without a unit. -/
theorem numeral?_of_noUnit {coercion : Coercion} {raw : String}
    (noAmount : withUnit? amountUnits raw.toList = none)
    (noTime : withUnit? timeUnits raw.toList = none) : coercion.numeral? raw =
    (integerLiteral? raw.toList).or
      (groupedDecimal? coercion.grouping coercion.decimal raw.toList) := by
  rw [numeral?, unitScaled?, duration?, noAmount, noTime]
  cases integerLiteral? raw.toList <;> cases groupedDecimal? _ _ raw.toList <;> rfl

section
variable {mark c : Char} {cs : List Char}

theorem mem_splitFirst (mem : c ∈ cs) :
    c = mark ∨ c ∈ (splitFirst mark cs).1 ∨ c ∈ (splitFirst mark cs).2 := by
  rw [splitFirst]
  rw [← List.takeWhile_append_dropWhile (p := (· != mark)) (l := cs), List.mem_append] at mem
  rcases mem with before | after
  · exact .inr (.inl before)
  · cases rest : cs.dropWhile (· != mark) with
    | nil =>
      rw [rest] at after
      cases after
    | cons d later =>
      rw [rest] at after
      rcases List.mem_cons.mp after with rfl | after
      · have stops := List.head_dropWhile_not (· != mark)
          (show cs.dropWhile (· != mark) ≠ [] by simp [rest])
        simp only [rest, List.head_cons] at stops
        exact .inl (by simpa using stops)
      · exact .inr (.inr after)

theorem mem_splitAll (mem : c ∈ cs) : c = mark ∨ ∃ part ∈ splitAll mark cs, c ∈ part := by
  induction cs with
  | nil => cases mem
  | cons d rest ih =>
    rw [splitAll]
    obtain ⟨first, later, parts⟩ := List.exists_cons_of_ne_nil (splitAll_ne_nil mark rest)
    rw [parts] at ih ⊢
    simp only
    by_cases isMark : d = mark
    · rw [if_pos isMark]
      rcases List.mem_cons.mp mem with rfl | mem
      · exact .inl isMark
      · refine (ih mem).imp_right ?_
        rintro ⟨part, here, inside⟩
        exact ⟨part, List.mem_cons_of_mem _ here, inside⟩
    · rw [if_neg isMark]
      rcases List.mem_cons.mp mem with rfl | mem
      · exact .inr ⟨_, List.mem_cons_self, List.mem_cons_self⟩
      · refine (ih mem).imp_right ?_
        rintro ⟨part, here, inside⟩
        rcases List.mem_cons.mp here with rfl | here
        · exact ⟨_, List.mem_cons_self, List.mem_cons_of_mem _ inside⟩
        · exact ⟨part, List.mem_cons_of_mem _ here, inside⟩

/-- Grouped digits are digits and separators. -/
theorem isDigit_of_wholeDigits? {digits : List Char} (read : wholeDigits? mark cs = some digits)
    (mem : c ∈ cs) : c = mark ∨ c.isDigit = true := by
  rw [wholeDigits?] at read
  split at read
  · simp only at read
    split at read
    · next wells =>
      refine (mem_splitAll mem).imp_right ?_
      rintro ⟨part, here, inside⟩
      obtain ⟨i, less, same⟩ := List.getElem_of_mem here
      have well := List.all_eq_true.mp wells _
        (List.mem_mapIdx.mpr ⟨i, less, rfl⟩)
      rw [same, id, Bool.and_eq_true] at well
      exact List.all_eq_true.mp well.2 c inside
    · cases read
  · split at read
    · next digits => exact .inr (List.all_eq_true.mp digits c mem)
    · cases read

/-- A grouped decimal number is digits and separators after its sign. -/
theorem isDigit_of_groupedDecimal? {grouping decimal : Char} {raw : List Char} {number : Number}
    (read : groupedDecimal? grouping decimal raw = some number) (mem : c ∈ (splitSign raw).2) :
    c = grouping ∨ c = decimal ∨ c.isDigit = true := by
  rw [groupedDecimal?] at read
  simp only at read
  split at read
  · cases read
  · split at read
    · next fraction =>
      obtain ⟨digits, whole, -⟩ := Option.bind_eq_some_iff.mp read
      rcases @mem_splitFirst decimal c _ mem with mark | before | after
      · exact .inr (.inl mark)
      · exact (isDigit_of_wholeDigits? whole before).imp_right .inr
      · exact .inr (.inr (List.all_eq_true.mp fraction c after))
    · cases read

/-- Two separators do not make a number of a text with three characters that are no digits. -/
theorem groupedDecimal?_eq_none {grouping decimal : Char} {raw : List Char}
    (others : List Char) (distinct : others.Nodup) (many : 2 < others.length)
    (present : ∀ c ∈ others, c ∈ (splitSign raw).2) (noDigit : others.any Char.isDigit = false) :
    groupedDecimal? grouping decimal raw = none := by
  refine Option.eq_none_iff_forall_ne_some.mpr fun number read => ?_
  have separators : others ⊆ [grouping, decimal] := by
    intro c mem
    rcases isDigit_of_groupedDecimal? read (present c mem) with rfl | rfl | digit
    · exact List.mem_cons_self
    · exact List.mem_cons_of_mem _ List.mem_cons_self
    · exact absurd digit (List.any_eq_false.mp noDigit c mem)
  have few := (List.subperm_of_subset distinct separators).length_le
  exact absurd many (Nat.not_lt.mpr few)

end

end Coercion

namespace WholeNumeral

variable {coercion : Coercion} (n : WholeNumeral)

open Coercion

theorem numeral?_of_fits (fits : (n.magnitude : Int) ≤ Int64.maxValue.toInt) :
    coercion.numeral? n.text =
      some (.integer (withSign n.negative (Int64.ofInt n.magnitude))) := by
  rw [numeral?, text, String.toList_ofList, integerLiteral?_chars fits]
  rfl

/-- Digits beyond 64 bits are no numeral. -/
theorem numeral?_of_beyond (separated : coercion.Separated)
    (beyond : Int64.maxValue.toInt < n.magnitude) : coercion.numeral? n.text = none := by
  have noUnit {units : List (List Char × Int)} (unknown : units.lookup [] = none) :
      withUnit? units n.text.toList = none := by
    rw [text, String.toList_ofList, n.withUnit?_eq_none unknown]
  rw [numeral?_of_noUnit (noUnit rfl) (noUnit rfl), text, String.toList_ofList,
    integerLiteral?_eq_none beyond,
    groupedDecimal?_eq_none beyond separated.grouping separated.decimal]
  rfl

theorem splitSign_chars_append (rest : List Char) :
    splitSign (n.chars ++ rest) = (n.negative, n.digits ++ rest) := by
  rw [chars]
  by_cases negative : n.negative = true
  · rw [if_pos negative, List.cons_append, splitSign, negative]
  · rw [if_neg negative, Bool.eq_false_iff.mpr negative]
    exact splitSign.eq_3 (n.digits ++ rest) (fun _ => n.digits_append_ne_cons rfl _ _)
      (fun _ => n.digits_append_ne_cons rfl _ _)

end WholeNumeral

/-- A whole numeral, a point, and digits after it. -/
structure PointNumeral where
  whole : WholeNumeral
  fraction : List Char
  nonempty : fraction ≠ []
  isDigit : ∀ c ∈ fraction, c.isDigit = true

namespace PointNumeral

variable (n : PointNumeral)

/-- The characters of a numeral with a point. -/
def chars : List Char :=
  n.whole.chars ++ '.' :: n.fraction

/-- A numeral with a point as a text. -/
def text : String :=
  String.ofList n.chars

/-- The number that all digits stand for. -/
def mantissa : Nat :=
  Nat.ofDigitChars 10 (n.whole.digits ++ n.fraction) 0

theorem isDigit_of_mem {c : Char} (mem : c ∈ n.whole.digits ++ n.fraction) : c.isDigit = true := by
  rcases List.mem_append.mp mem with whole | fraction
  · exact n.whole.isDigit c whole
  · exact n.isDigit c fraction

theorem digits_ne_nil : n.whole.digits ++ n.fraction ≠ [] :=
  List.append_ne_nil_of_left_ne_nil n.whole.nonempty n.fraction

open Coercion

theorem splitSign_chars :
    splitSign n.chars = (n.whole.negative, n.whole.digits ++ '.' :: n.fraction) :=
  n.whole.splitSign_chars_append _

theorem integerLiteral?_eq_none : integerLiteral? n.chars = none := by
  refine integerLiteral?_of_mem (c := '.') ?_ rfl (by decide)
  rw [n.splitSign_chars]
  simp

theorem withUnit?_eq_none {units : List (List Char × Int)} (unknown : units.lookup [] = none) :
    withUnit? units n.chars = none := by
  have taken : takeDecimal? (n.whole.digits ++ '.' :: (n.fraction ++ [])) =
      some (n.whole.digits, n.fraction, []) :=
    takeDecimal?_point n.digits_ne_nil (fun _ => n.isDigit_of_mem) nofun
  rw [List.append_nil] at taken
  exact withUnit?_of_takeDecimal? n.splitSign_chars taken unknown

theorem numeral?_eq (coercion : Coercion) : coercion.numeral? n.text =
    groupedDecimal? coercion.grouping coercion.decimal n.chars := by
  have noUnit {units : List (List Char × Int)} (unknown : units.lookup [] = none) :
      withUnit? units n.text.toList = none := by
    rw [text, String.toList_ofList, n.withUnit?_eq_none unknown]
  rw [numeral?_of_noUnit (noUnit rfl) (noUnit rfl), text, String.toList_ofList,
    n.integerLiteral?_eq_none, Option.none_or]

section
variable {coercion : Coercion} (separated : coercion.Separated)

include separated

/-- A point that is the decimal separator. -/
theorem numeral?_of_decimal (point : coercion.decimal = '.') : coercion.numeral? n.text =
    scale? n.whole.negative n.whole.digits n.fraction 0 := by
  have noGroups : coercion.grouping ∉ n.whole.digits :=
    n.whole.notMem_digits separated.grouping
  have nonempty : n.whole.digits.isEmpty = false :=
    List.isEmpty_eq_false_iff.mpr n.whole.nonempty
  have noPoint : '.' ∉ n.whole.digits := n.whole.notMem_digits rfl
  rw [n.numeral?_eq, point, groupedDecimal?, n.splitSign_chars]
  simp only [splitFirst_append noPoint, nonempty, Bool.false_and, Bool.false_eq_true, if_false,
    wholeDigits?_of_notMem noGroups, List.all_eq_true.mpr n.isDigit,
    List.all_eq_true.mpr n.whole.isDigit, if_true]
  show scale? _ (if n.whole.digits.isEmpty then ['0'] else n.whole.digits) _ 0 = _
  rw [nonempty]
  rfl

/-- Where the point is not the decimal separator, nothing is after it. -/
theorem groupedDecimal?_chars (noDecimal : coercion.decimal ≠ '.') :
    groupedDecimal? coercion.grouping coercion.decimal n.chars =
      (wholeDigits? coercion.grouping (n.whole.digits ++ '.' :: n.fraction)).bind fun digits =>
        scale? n.whole.negative (if digits.isEmpty then ['0'] else digits) [] 0 := by
  have absent : coercion.decimal ∉ n.whole.digits ++ '.' :: n.fraction := by
    rw [List.mem_append, List.mem_cons]
    rintro (whole | point | fraction)
    · exact n.whole.notMem_digits separated.decimal whole
    · exact noDecimal point
    · exact Number.ne_of_isDigit (n.isDigit _ fraction) separated.decimal rfl
  have nonempty : (n.whole.digits ++ '.' :: n.fraction).isEmpty = false := by simp
  rw [groupedDecimal?, n.splitSign_chars]
  simp only [splitFirst_of_notMem absent, nonempty, Bool.false_and, Bool.false_eq_true, if_false,
    List.all_nil, if_true]
  rfl

/-- A point that separates groups. -/
theorem numeral?_of_grouping (point : coercion.grouping = '.') : coercion.numeral? n.text =
    if n.whole.digits.length ≤ 3 ∧ n.fraction.length = 3 then
      scale? n.whole.negative (n.whole.digits ++ n.fraction) [] 0
    else none := by
  have noDecimal : coercion.decimal ≠ '.' := fun same => separated.apart (point.trans same.symm)
  have groups : splitAll '.' (n.whole.digits ++ '.' :: n.fraction) =
      [n.whole.digits, n.fraction] := by
    rw [splitAll_append (n.whole.notMem_digits rfl), splitAll_of_notMem]
    exact fun mem => Number.ne_of_isDigit (n.isDigit _ mem) rfl rfl
  have some : 1 ≤ n.whole.digits.length := List.length_pos_iff.mpr n.whole.nonempty
  have nonempty : (n.whole.digits ++ n.fraction).isEmpty = false := by
    simp [n.whole.nonempty]
  have digits : wholeDigits? '.' (n.whole.digits ++ '.' :: n.fraction) =
      if n.whole.digits.length ≤ 3 ∧ n.fraction.length = 3 then
        Option.some (n.whole.digits ++ n.fraction)
      else none := by
    rw [wholeDigits?, if_pos (by simp), groups]
    simp [List.mapIdx_cons, some, List.all_eq_true.mpr n.isDigit,
      List.all_eq_true.mpr n.whole.isDigit]
  rw [n.numeral?_eq, n.groupedDecimal?_chars separated noDecimal, point, digits]
  split
  · rw [Option.bind_some, nonempty]
    rfl
  · rfl

/-- A point that is no separator. -/
theorem numeral?_of_other (noGrouping : coercion.grouping ≠ '.')
    (noDecimal : coercion.decimal ≠ '.') : coercion.numeral? n.text = none := by
  have absent : coercion.grouping ∉ n.whole.digits ++ '.' :: n.fraction := by
    rw [List.mem_append, List.mem_cons]
    rintro (whole | point | fraction)
    · exact n.whole.notMem_digits separated.grouping whole
    · exact noGrouping point
    · exact Number.ne_of_isDigit (n.isDigit _ fraction) separated.grouping rfl
  rw [n.numeral?_eq, n.groupedDecimal?_chars separated noDecimal, wholeDigits?_of_notMem absent,
    if_neg (by simp), Option.bind_none]

end

end PointNumeral

end EventSieve
