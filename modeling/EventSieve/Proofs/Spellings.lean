import EventSieve.Proofs.PlainTexts

/-!
# The spellings of an integer

An integer can be written in decimal, in hexadecimal or in octal digits, with its digits grouped by
threes, and with zeros after a decimal separator. Under any two separators that are no digits all
these spellings are read as the integer. The reader of integers is asked first and takes the first
three; what it makes of the others depends on the separators, which may be letters or signs, and is
nothing or the same number.

## Main definitions

* `Coercion.inGroups` — digits with a mark between every three of them
* `Coercion.Spells` — the ways to write a number without its sign

## Main statements

* `Coercion.number?_of_spells` — every spelling of an integer is read as the integer
-/
namespace EventSieve

open Number (Binary64 readRadix? readRadixFrom? readInt64? narrow? digitValue?)

/-! ## Digits in other bases -/

namespace Number

/-- The case of a hexadecimal digit does not matter. -/
theorem digitValue?_toLower (c : Char) : digitValue? c.toLower = digitValue? c := by
  by_cases capital : 'A'.val ≤ c.val ∧ c.val ≤ 'Z'.val
  · have all : ∀ i < 26, digitValue? (Char.ofNat (65 + i)).toLower =
        digitValue? (Char.ofNat (65 + i)) := by decide
    have low : 65 ≤ c.toNat := UInt32.le_iff_toNat_le.mp capital.1
    have high : c.toNat ≤ 90 := UInt32.le_iff_toNat_le.mp capital.2
    have same : Char.ofNat (65 + (c.toNat - 65)) = c := by
      rw [Nat.add_sub_cancel' low, Char.ofNat_toNat]
    rw [← same]
    exact all _ (by omega)
  · have same : c.toLower = c := dif_neg capital
    rw [same]

/-- What is no decimal digit has a value of ten or more, if it has one. -/
theorem ten_le_of_digitValue? {c : Char} {digit : Nat} (other : c.isDigit = false)
    (known : digitValue? c = some digit) : 10 ≤ digit := by
  have notDigit : ¬c.isDigit = true := by simp [other]
  rw [digitValue?, if_neg notDigit] at known
  split at known
  · next small =>
    have low : 97 ≤ c.toNat := UInt32.le_iff_toNat_le.mp small.1
    cases known
    omega
  · split at known
    · next capital =>
      have low : 65 ≤ c.toNat := UInt32.le_iff_toNat_le.mp capital.1
      cases known
      omega
    · cases known

theorem readRadixFrom?_map_toLower (radix value : Nat) (cs : List Char) :
    readRadixFrom? radix value (cs.map Char.toLower) = readRadixFrom? radix value cs := by
  induction cs generalizing value with
  | nil => rfl
  | cons c cs ih =>
    rw [List.map_cons, readRadixFrom?, readRadixFrom?, digitValue?_toLower]
    cases digitValue? c with
    | none => rfl
    | some digit => simp only [ih]

theorem readRadix?_map_toLower (radix : Nat) (cs : List Char) :
    readRadix? radix (cs.map Char.toLower) = readRadix? radix cs := by
  cases cs with
  | nil => rfl
  | cons c cs => exact readRadixFrom?_map_toLower radix 0 (c :: cs)

theorem readRadixFrom?_append (radix value : Nat) (cs more : List Char) :
    readRadixFrom? radix value (cs ++ more) =
      (readRadixFrom? radix value cs).bind fun n => readRadixFrom? radix n more := by
  induction cs generalizing value with
  | nil => rfl
  | cons c cs ih =>
    rw [List.cons_append, readRadixFrom?, readRadixFrom?]
    cases digitValue? c with
    | none => rfl
    | some digit =>
      simp only
      split
      · exact ih _
      · rfl

theorem digitValue?_digitChar {digit : Nat} (small : digit < 16) :
    digitValue? (Nat.digitChar digit) = some digit := by
  have all : ∀ d < 16, digitValue? (Nat.digitChar d) = some d := by decide
  exact all digit small

/-- A number is read from the digits that it is written with in any base that has digits. -/
theorem readRadixFrom?_toDigits {radix : Nat} (base : 1 < radix) (known : radix ≤ 16) (n : Nat) :
    readRadixFrom? radix 0 (Nat.toDigits radix n) = some n := by
  induction n using Nat.strongRecOn with
  | ind n ih =>
    by_cases small : n < radix
    · rw [Nat.toDigits_of_lt_base small, readRadixFrom?,
        digitValue?_digitChar (Nat.lt_of_lt_of_le small known)]
      simp [small, readRadixFrom?]
    · have large : radix ≤ n := Nat.le_of_not_lt small
      have rest : n % radix < radix := Nat.mod_lt n (by omega)
      rw [Nat.toDigits_of_base_le base large, readRadixFrom?_append,
        ih (n / radix) (Nat.div_lt_self (by omega) base), Option.bind_some, readRadixFrom?,
        digitValue?_digitChar (Nat.lt_of_lt_of_le rest known)]
      simp [rest, readRadixFrom?, Nat.div_add_mod']

theorem readRadix?_toDigits {radix : Nat} (base : 1 < radix) (known : radix ≤ 16) (n : Nat) :
    readRadix? radix (Nat.toDigits radix n) = some n := by
  obtain ⟨c, rest, digits⟩ := List.exists_cons_of_ne_nil (Nat.toDigits_ne_nil (b := radix) (n := n))
  have read := readRadixFrom?_toDigits base known n
  rw [digits] at read ⊢
  exact read

theorem readRadix?_zeros (radix zeros : Nat) :
    readRadix? (radix + 1) (List.replicate (zeros + 1) '0') = some 0 := by
  have read (count : Nat) : readRadixFrom? (radix + 1) 0 (List.replicate count '0') = some 0 := by
    induction count with
    | zero => rfl
    | succ count ih =>
      have known : digitValue? '0' = some 0 := rfl
      simp [List.replicate_succ, readRadixFrom?, known, ih]
  exact read (zeros + 1)

end Number

namespace Coercion

/-- Digits with a mark between every three of them, counted from the last. -/
def inGroups (mark : Char) : List Char → List Char
  | [] => []
  | c :: rest =>
    if rest ≠ [] ∧ rest.length % 3 = 0 then c :: mark :: inGroups mark rest
    else c :: inGroups mark rest

/-- The ways to write a number without its sign. -/
inductive Spells (coercion : Coercion) (n : Nat) : List Char → Prop
  | decimal : Spells coercion n (Nat.toDigits 10 n)
  /-- Hexadecimal digits are written in either case. -/
  | hexadecimal {mark digits : List Char} (isMark : mark ∈ [['0', 'x'], ['0', 'X'], ['#']])
      (written : digits.map Char.toLower = Nat.toDigits 16 n) :
      Spells coercion n (mark ++ digits)
  | octal : Spells coercion n ('0' :: Nat.toDigits 8 n)
  | grouped : Spells coercion n (inGroups coercion.grouping (Nat.toDigits 10 n))
  /-- The count of digits after the separator has to fit the 32 bits of an exponent. -/
  | pointed {zeros : Nat} (few : zeros < 2 ^ 30) :
      Spells coercion n (Nat.toDigits 10 n ++ coercion.decimal :: List.replicate zeros '0')

variable {n : Nat}

/-! ## The reader of integers -/

section
variable (sign : Sign) {radix : Nat} {body digits : List Char}
  (noSign : ∀ c ∈ body.head?, c ∉ ['-', '+']) (mark : integerDigits body = (radix, digits))

include noSign mark

theorem integerLiteral?_of_read (read : readRadix? radix digits = some n)
    (fits : (n : Int) ≤ Int64.maxValue.toInt) :
    integerLiteral? (sign.chars ++ body) = some (.integer (Int64.ofInt (sign.apply n))) := by
  have low : Int64.minValue.toInt ≤ (n : Int) := Int.le_trans (by decide) (Int.natCast_nonneg n)
  rw [integerLiteral?, sign.splitSign_chars noSign, ← sign.withSign_ofInt fits]
  simp only [mark, read, Option.bind_eq_bind, Option.bind_some, Number.narrow?_of_fits low fits]
  rfl

theorem integerLiteral?_of_unread (unread : readRadix? radix digits = none) :
    integerLiteral? (sign.chars ++ body) = none := by
  rw [integerLiteral?, sign.splitSign_chars noSign]
  simp only [mark, unread]
  rfl

end

/-- The first digit of a number is a zero only if it is the only one. -/
theorem exists_toDigits (n : Nat) : ∃ c rest, Nat.toDigits 10 n = c :: rest ∧ c.isDigit = true ∧
    (c = '0' → n = 0 ∧ rest = []) := by
  obtain ⟨c, rest, same, digit, -, zero⟩ := (WholeNumeral.ofNat false n).exists_digits
  have written : Nat.toDigits 10 n = c :: rest := same
  refine ⟨c, rest, written, digit, fun isZero => ⟨?_, zero isZero⟩⟩
  exact Number.eq_zero_of_head?_toDigits n (by simp [written, isZero])

theorem isDigit_toDigits {c : Char} (mem : c ∈ Nat.toDigits 10 n) : c.isDigit = true :=
  Nat.isDigit_of_mem_toDigits (by decide) (by decide) mem

theorem notSign_of_isDigit {c : Char} {rest : List Char} (digit : c.isDigit = true) :
    ∀ d ∈ (c :: rest).head?, d ∉ ['-', '+'] := by
  intro d head mem
  cases head
  rcases List.mem_pair.mp mem with rfl | rfl <;> cases digit

theorem integerDigits_of_head {c : Char} {rest : List Char} (digit : c.isDigit = true)
    (nonzero : c ≠ '0') : integerDigits (c :: rest) = (10, c :: rest) := by
  have noZero (more : List Char) : c :: rest ≠ '0' :: more := by
    intro same
    exact nonzero (List.cons.inj same).1
  have noMark (more : List Char) : c :: rest ≠ '#' :: more := by
    intro same
    exact Number.ne_of_isDigit digit rfl (List.cons.inj same).1
  exact integerDigits.eq_5 _ (fun _ => noZero _) (fun _ => noZero _) noMark fun _ _ => noZero _

/-- Digits of a number other than zero are no integer together with what is no digit. -/
theorem integerLiteral?_of_noDigit (sign : Sign) {c other : Char} {rest : List Char}
    (digit : c.isDigit = true) (nonzero : c ≠ '0') (mem : other ∈ c :: rest)
    (noDigit : other.isDigit = false) : integerLiteral? (sign.chars ++ c :: rest) = none :=
  integerLiteral?_of_unread sign (notSign_of_isDigit digit) (integerDigits_of_head digit nonzero)
    (Number.readRadix?_of_mem mem fun _ known => Number.ten_le_of_digitValue? noDigit known)

/-! ## The reader of grouped digits -/

/-- Grouped digits begin with the first digit. -/
theorem exists_inGroups_cons (mark c : Char) (rest : List Char) :
    ∃ more, inGroups mark (c :: rest) = c :: more := by
  rw [inGroups]
  split
  · exact ⟨_, rfl⟩
  · exact ⟨_, rfl⟩

theorem mem_inGroups {mark c : Char} {digits : List Char} (mem : c ∈ inGroups mark digits) :
    c = mark ∨ c ∈ digits := by
  induction digits with
  | nil => cases mem
  | cons d rest ih =>
    rw [inGroups] at mem
    split at mem
    · simp only [List.mem_cons] at mem ⊢
      grind
    · simp only [List.mem_cons] at mem ⊢
      grind

/-- Digits without a mark among them are one group. -/
theorem inGroups_of_notMem {mark : Char} {digits : List Char}
    (absent : mark ∉ inGroups mark digits) : inGroups mark digits = digits := by
  induction digits with
  | nil => rfl
  | cons c rest ih =>
    rw [inGroups] at absent ⊢
    split at absent
    · exact absurd (by simp) absent
    · next single =>
      rw [if_neg single, ih fun mem => absent (List.mem_cons_of_mem c mem)]

/-- Grouped digits are split into the groups again: the first has what the threes leave over. -/
theorem splitAll_inGroups {mark : Char} (noDigit : mark.isDigit = false) {digits : List Char}
    (nonempty : digits ≠ []) (isDigit : ∀ c ∈ digits, c.isDigit = true) :
    ∃ first later, splitAll mark (inGroups mark digits) = first :: later ∧
      first.length = (digits.length - 1) % 3 + 1 ∧ (∀ group ∈ later, group.length = 3) ∧
      first ++ later.flatten = digits := by
  induction digits with
  | nil => exact absurd rfl nonempty
  | cons c rest ih =>
    obtain ⟨digit, restDigit⟩ := List.forall_mem_cons.mp isDigit
    have other : c ≠ mark := Number.ne_of_isDigit digit noDigit
    by_cases single : rest = []
    · refine ⟨[c], [], ?_, by simp [single], nofun, by simp [single]⟩
      simp [single, inGroups, splitAll, other]
    · obtain ⟨first, later, split, length, threes, flat⟩ := ih single restDigit
      have some : 0 < rest.length := List.length_pos_iff.mpr single
      rw [inGroups]
      split
      · next full =>
        -- The rest is whole groups, so its first one is full and the digit begins a new one.
        refine ⟨[c], first :: later, ?_, ?_, ?_, by simp [flat]⟩
        · simp [splitAll, split, other]
        · simp [full.2]
        · intro group mem
          rcases List.mem_cons.mp mem with rfl | mem
          · omega
          · exact threes group mem
      · next notFull =>
        have leftover : rest.length % 3 ≠ 0 := by
          intro zero
          exact notFull ⟨single, zero⟩
        refine ⟨c :: first, later, ?_, ?_, threes, by simp [flat]⟩
        · simp [splitAll, split, other]
        · simp only [List.length_cons]
          omega

/-- The digits of a grouped number are read without the marks. -/
theorem wholeDigits?_inGroups {mark : Char} (noDigit : mark.isDigit = false) {digits : List Char}
    (nonempty : digits ≠ []) (isDigit : ∀ c ∈ digits, c.isDigit = true) :
    wholeDigits? mark (inGroups mark digits) = some digits := by
  obtain ⟨first, later, split, length, threes, flat⟩ :=
    splitAll_inGroups noDigit nonempty isDigit
  have digitsOf {group : List Char} (mem : group ∈ first :: later) :
      group.all Char.isDigit = true := by
    refine List.all_eq_true.mpr fun c inside => isDigit c ?_
    rw [← flat, ← List.flatten_cons]
    exact List.mem_flatten_of_mem mem inside
  rw [wholeDigits?]
  split
  · have well : (((first :: later).mapIdx fun place group =>
        (if place = 0 then 1 ≤ group.length && group.length ≤ 3 else group.length == 3) &&
          group.all Char.isDigit).all id) = true := by
      rw [List.all_eq_true]
      intro good mem
      obtain ⟨place, inRange, rfl⟩ := List.mem_mapIdx.mp mem
      rw [id, digitsOf (List.getElem_mem inRange), Bool.and_true]
      cases place with
      | zero =>
        simp only [List.getElem_cons_zero, if_true, Bool.and_eq_true, decide_eq_true_eq]
        omega
      | succ place =>
        simp [threes _ (List.getElem_mem (Nat.lt_of_succ_lt_succ inRange))]
    simp only [split, well, if_true, List.flatten_cons, flat]
  · next absent =>
    rw [inGroups_of_notMem (by simpa using absent), if_pos (List.all_eq_true.mpr isDigit)]

/-- The separators do not matter to what is read from the parts before and after the decimal
separator. -/
theorem groupedDecimal?_of_parts (sign : Sign) {grouping decimal : Char}
    {body whole fraction digits : List Char} (noSign : ∀ c ∈ body.head?, c ∉ ['-', '+'])
    (parts : splitFirst decimal body = (whole, fraction))
    (read : wholeDigits? grouping whole = some digits) (some : whole ≠ []) (nonempty : digits ≠ [])
    (isDigit : ∀ c ∈ fraction, c.isDigit = true) :
    groupedDecimal? grouping decimal (sign.chars ++ body) =
      scale? sign.isMinus digits fraction 0 := by
  have notEmpty : whole.isEmpty = false := List.isEmpty_eq_false_iff.mpr some
  rw [groupedDecimal?, sign.splitSign_chars noSign]
  simp [parts, notEmpty, nonempty, read, List.all_eq_true.mpr isDigit]

/-- Zeros after the digits of a number do not change it. -/
theorem scale?_toDigits (sign : Sign) (fits : (n : Int) ≤ Int64.maxValue.toInt) (zeros : Nat) :
    scale? sign.isMinus (Nat.toDigits 10 n) (List.replicate zeros '0') 0 =
      some (.integer (Int64.ofInt (sign.apply n))) := by
  have low : Int64.minValue.toInt ≤ (n : Int) := Int.le_trans (by decide) (Int.natCast_nonneg n)
  have nonempty : Nat.toDigits 10 n ≠ [] := Nat.toDigits_ne_nil
  have isDigit : ∀ c ∈ Nat.toDigits 10 n, c.isDigit = true := fun c => isDigit_toDigits
  rw [← sign.withSign_ofInt fits]
  cases zeros with
  | zero =>
    have nonempty : Nat.toDigits 10 n ++ [] ≠ [] := by simp
    have read := scale?_of_reaching sign.isMinus nonempty (by simpa using isDigit) (Nat.zero_le 18)
    simp only [List.append_nil, Nat.ofDigitChars_ten_toDigits, Nat.pow_zero, Nat.mul_one,
      Number.narrow?_of_fits low fits] at read
    exact read
  | succ zeros =>
    rw [scale?_of_zeros sign.isMinus _ (by simp) (by simp),
      Number.readInt64?_digits nonempty isDigit, Nat.ofDigitChars_ten_toDigits,
      Number.narrow?_of_fits low fits]
    rfl

/-! ## The number of a spelling -/

theorem number?_of_integerLiteral? {coercion : Coercion} {cs : List Char} {number : Number}
    (read : integerLiteral? cs = some number) :
    coercion.number? (String.ofList cs) = some number := by
  rw [number?, String.toList_ofList, read]
  rfl

theorem number?_of_groupedDecimal? {coercion : Coercion} {cs : List Char} {number : Number}
    (unread : integerLiteral? cs = none)
    (read : groupedDecimal? coercion.grouping coercion.decimal cs = some number) :
    coercion.number? (String.ofList cs) = some number := by
  rw [number?, String.toList_ofList, unread, read]
  rfl

section
variable {coercion : Coercion} (separated : coercion.Separated)
  (fits : (n : Int) ≤ Int64.maxValue.toInt) (sign : Sign)

include fits

theorem integerLiteral?_decimal : integerLiteral? (sign.chars ++ Nat.toDigits 10 n) =
    some (.integer (Int64.ofInt (sign.apply n))) := by
  obtain ⟨c, rest, digits, digit, -⟩ := exists_toDigits n
  have mark : integerDigits (Nat.toDigits 10 n) = (10, Nat.toDigits 10 n) :=
    (WholeNumeral.ofNat false n).integerDigits_digits
  refine integerLiteral?_of_read sign ?_ mark ?_ fits
  · rw [digits]
    exact notSign_of_isDigit digit
  · exact Number.readRadix?_toDigits (by decide) (by decide) n

theorem integerLiteral?_hexadecimal {mark digits : List Char}
    (isMark : mark ∈ [['0', 'x'], ['0', 'X'], ['#']])
    (written : digits.map Char.toLower = Nat.toDigits 16 n) :
    integerLiteral? (sign.chars ++ (mark ++ digits)) =
      some (.integer (Int64.ofInt (sign.apply n))) := by
  have read : readRadix? 16 digits = some n := by
    rw [← Number.readRadix?_map_toLower, written]
    exact Number.readRadix?_toDigits (by decide) (by decide) n
  simp only [List.mem_cons, List.not_mem_nil, or_false] at isMark
  rcases isMark with rfl | rfl | rfl
  · exact integerLiteral?_of_read sign (by simp) rfl read fits
  · exact integerLiteral?_of_read sign (by simp) rfl read fits
  · exact integerLiteral?_of_read sign (by simp) rfl read fits

theorem integerLiteral?_octal : integerLiteral? (sign.chars ++ '0' :: Nat.toDigits 8 n) =
    some (.integer (Int64.ofInt (sign.apply n))) := by
  have mark : integerDigits ('0' :: Nat.toDigits 8 n) = (8, Nat.toDigits 8 n) := by
    obtain ⟨c, rest, digits⟩ := List.exists_cons_of_ne_nil (Nat.toDigits_ne_nil (b := 8) (n := n))
    have digit : c.isDigit = true :=
      Nat.isDigit_of_mem_toDigits (b := 8) (n := n) (by decide) (by decide) (by simp [digits])
    rw [digits]
    exact integerDigits.eq_4 c rest (Number.ne_of_isDigit digit rfl)
      (Number.ne_of_isDigit digit rfl)
  exact integerLiteral?_of_read sign (by simp) mark
    (Number.readRadix?_toDigits (by decide) (by decide) n) fits

include separated

theorem number?_grouped :
    coercion.number? (String.ofList (sign.chars ++ inGroups coercion.grouping
      (Nat.toDigits 10 n))) = some (.integer (Int64.ofInt (sign.apply n))) := by
  by_cases mem : coercion.grouping ∈ inGroups coercion.grouping (Nat.toDigits 10 n)
  · have isDigit : ∀ c ∈ Nat.toDigits 10 n, c.isDigit = true := fun c => isDigit_toDigits
    have read := wholeDigits?_inGroups separated.grouping Nat.toDigits_ne_nil isDigit
    obtain ⟨c, rest, digits, digit, zero⟩ := exists_toDigits n
    obtain ⟨more, body⟩ : ∃ more, inGroups coercion.grouping (Nat.toDigits 10 n) = c :: more := by
      rw [digits]
      exact exists_inGroups_cons coercion.grouping c rest
    have noDecimal : coercion.decimal ∉ inGroups coercion.grouping (Nat.toDigits 10 n) := by
      intro mem
      rcases mem_inGroups mem with same | mem
      · exact separated.apart same.symm
      · exact Number.ne_of_isDigit (isDigit _ mem) separated.decimal rfl
    have nonzero : c ≠ '0' := by
      intro isZero
      rw [digits, (zero isZero).2] at mem
      have alone : coercion.grouping = c := by simpa [inGroups] using mem
      exact Number.ne_of_isDigit digit separated.grouping alone.symm
    rw [body] at read mem noDecimal ⊢
    refine number?_of_groupedDecimal?
      (integerLiteral?_of_noDigit sign digit nonzero mem separated.grouping) ?_
    rw [groupedDecimal?_of_parts sign (notSign_of_isDigit digit) (splitFirst_of_notMem noDecimal)
      read (by simp) Nat.toDigits_ne_nil nofun]
    exact scale?_toDigits sign fits 0
  · rw [inGroups_of_notMem mem]
    exact number?_of_integerLiteral? (integerLiteral?_decimal fits sign)

/-- The reader of integers takes zeros after a decimal separator only where it is the letter of the
mark for hexadecimal digits, and then they stand for zero. -/
theorem integerLiteral?_pointed (zeros : Nat) :
    let body := Nat.toDigits 10 n ++ coercion.decimal :: List.replicate zeros '0'
    integerLiteral? (sign.chars ++ body) = none ∨
      integerLiteral? (sign.chars ++ body) = some (.integer (Int64.ofInt (sign.apply n))) := by
  intro body
  obtain ⟨c, rest, digits, digit, zero⟩ := exists_toDigits n
  by_cases isZero : c = '0'
  · obtain ⟨rfl, -⟩ := zero isZero
    have body_eq : body = '0' :: coercion.decimal :: List.replicate zeros '0' := rfl
    have noSign : ∀ c ∈ body.head?, c ∉ ['-', '+'] := by simp [body_eq]
    by_cases letter : coercion.decimal = 'x' ∨ coercion.decimal = 'X'
    · have mark : integerDigits body = (16, List.replicate zeros '0') := by
        rw [body_eq]
        rcases letter with same | same <;> rw [same] <;> rfl
      cases zeros with
      | zero => exact .inl (integerLiteral?_of_unread sign noSign mark rfl)
      | succ zeros =>
        have read := Number.readRadix?_zeros 15 zeros
        exact .inr (integerLiteral?_of_read sign noSign mark read fits)
    · rw [not_or] at letter
      have mark : integerDigits body = (8, coercion.decimal :: List.replicate zeros '0') :=
        integerDigits.eq_4 _ _ letter.1 letter.2
      refine .inl (integerLiteral?_of_unread sign noSign mark ?_)
      refine Number.readRadix?_of_mem List.mem_cons_self fun digit known => ?_
      have := Number.ten_le_of_digitValue? separated.decimal known
      omega
  · have body_eq : body = c :: (rest ++ coercion.decimal :: List.replicate zeros '0') := by
      simp [body, digits]
    rw [body_eq]
    exact .inl (integerLiteral?_of_noDigit sign digit isZero (by simp) separated.decimal)

theorem number?_pointed (zeros : Nat) :
    coercion.number? (String.ofList (sign.chars ++ (Nat.toDigits 10 n ++
      coercion.decimal :: List.replicate zeros '0'))) =
        some (.integer (Int64.ofInt (sign.apply n))) := by
  have notMem {mark : Char} (noDigit : mark.isDigit = false) : mark ∉ Nat.toDigits 10 n := by
    intro mem
    exact Number.ne_of_isDigit (isDigit_toDigits mem) noDigit rfl
  have whole : wholeDigits? coercion.grouping (Nat.toDigits 10 n) = some (Nat.toDigits 10 n) := by
    rw [wholeDigits?_of_notMem (notMem separated.grouping), if_pos]
    exact List.all_eq_true.mpr fun c => isDigit_toDigits
  obtain ⟨c, rest, digits, digit, -⟩ := exists_toDigits n
  rcases integerLiteral?_pointed separated fits sign zeros with unread | read
  · refine number?_of_groupedDecimal? unread ?_
    rw [groupedDecimal?_of_parts sign ?_ (splitFirst_append (notMem separated.decimal)) whole
      Nat.toDigits_ne_nil Nat.toDigits_ne_nil ?_]
    · exact scale?_toDigits sign fits zeros
    · rw [digits]
      exact notSign_of_isDigit digit
    · intro c mem
      rw [List.eq_of_mem_replicate mem]
      rfl
  · exact number?_of_integerLiteral? read

/-- Every spelling of an integer with an optional sign is read as the integer. -/
theorem number?_of_spells {body : List Char} (spelled : Spells coercion n body) :
    coercion.number? (String.ofList (sign.chars ++ body)) =
      some (.integer (Int64.ofInt (sign.apply n))) := by
  cases spelled with
  | decimal => exact number?_of_integerLiteral? (integerLiteral?_decimal fits sign)
  | hexadecimal isMark written =>
    exact number?_of_integerLiteral? (integerLiteral?_hexadecimal fits sign isMark written)
  | octal => exact number?_of_integerLiteral? (integerLiteral?_octal fits sign)
  | grouped => exact number?_grouped separated fits sign
  | pointed => exact number?_pointed separated fits sign _

end

/-- A letter groups the digits, and a minus sign stands before them and would separate decimals. -/
theorem number?_of_spells_letter :
    ({ grouping := 'x', decimal := '-' } : Coercion).number? "-1x234x567" =
      some (.integer (-1234567)) := by
  have digits : Nat.toDigits 10 1234567 = ['1', '2', '3', '4', '5', '6', '7'] := by decide
  have spelled : Spells { grouping := 'x', decimal := '-' } 1234567 _ := .grouped
  rw [digits] at spelled
  exact number?_of_spells ⟨by decide, rfl, rfl⟩ (by decide) .minus spelled

end Coercion

end EventSieve
