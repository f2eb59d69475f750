import EventSieve.Proofs.MachineSteps
import EventSieve.Proofs.UnitNumerals

/-!
# Reading numbers without overflow

The readers of numbers on a machine give what the exact readers give, and nothing that they do
without a check goes out of range. Two bounds carry this. A numeral is scaled without its sign, so
that what is negated or multiplied by the sign is a magnitude of 64 bits; and the digits after a
point are fewer than 2³⁰, so that their number can be taken from a power of ten in 32 bits.

## Main statements

* `Machine.scale_gives` — scaling a numeral goes right where few digits stand after its point
* `Machine.integerLiteral_gives`, `Machine.groupedDecimal_gives`, `Machine.withUnit_gives`,
  `Machine.duration_gives` — what the readers give
* `Coercion.numberRun_safe` — the number of a text is read right, and safely
-/
namespace EventSieve.Coercion

namespace Machine

open EventSieve.Filter (byteLength)
open Number (Binary64 readRadix? readInt64? narrow? digitValue?)

/-! ## Parsing -/

/-- A sign is none of the digits. -/
theorem parse?_of_digits {radix : Nat} {digits : List Char}
    (known : ∀ c ∈ digits, (digitValue? c).isSome = true) :
    parse? radix digits = (readRadix? radix digits).bind fun n => narrow? n := by
  have noSign : splitSign digits = (false, digits) := by
    refine splitSign.eq_3 digits ?_ ?_ <;>
    · rintro rest rfl
      exact absurd (known _ List.mem_cons_self) (by decide)
  rw [parse?, noSign]
  rfl

theorem isSome_digitValue? {c : Char} (digit : c.isDigit = true) :
    (digitValue? c).isSome = true := by
  rw [digitValue?, if_pos digit]
  rfl

theorem parse?_of_isDigit {digits : List Char} (isDigit : ∀ c ∈ digits, c.isDigit = true) :
    parse? 10 digits = readInt64? digits :=
  parse?_of_digits fun c mem => isSome_digitValue? (isDigit c mem)

/-- What digits stand for is a magnitude. -/
theorem nonneg_of_narrow? {n : Nat} {value : Int64} (narrow : narrow? n = some value) :
    0 ≤ value.toInt := by
  rw [Number.toInt_of_narrow? narrow]
  exact Int.natCast_nonneg n

theorem nonneg_of_readInt64? {digits : List Char} {value : Int64}
    (read : readInt64? digits = some value) : 0 ≤ value.toInt := by
  obtain ⟨n, -, narrow⟩ := Option.bind_eq_some_iff.mp read
  exact nonneg_of_narrow? narrow

/-! ## Integers -/

/-- What is empty, or has a character that is no digit in any base, is no number. -/
theorem readRadix?_of_noDigits {radix : Nat} {digits : List Char}
    (noDigits : (digits.isEmpty || !digits.all fun c => (digitValue? c).isSome) = true) :
    readRadix? radix digits = none := by
  rw [Bool.or_eq_true, List.isEmpty_iff, Bool.not_eq_true', List.all_eq_false] at noDigits
  rcases noDigits with rfl | ⟨c, mem, unknown⟩
  · rfl
  · refine Number.readRadix?_of_mem mem fun digit found => ?_
    rw [Option.mem_def.mp found] at unknown
    exact absurd rfl unknown

theorem integerDigits_gives (body : List Char) :
    (integerDigits body).Gives (some (Coercion.integerDigits body)) := by
  rw [integerDigits]
  cases hex : stripHex? body with
  | some digits =>
    have same : Coercion.integerDigits body = (16, digits) := by
      rw [stripHex?.eq_def] at hex
      split at hex <;> cases hex <;> rfl
    rw [same]
    exact .pure _
  | none =>
    simp only
    split
    · next octal =>
      obtain ⟨long, zero⟩ := octal
      obtain ⟨rest, rfl⟩ := List.head?_eq_some_iff.mp zero
      have same : Coercion.integerDigits ('0' :: rest) = (8, rest) := by
        rw [Coercion.integerDigits.eq_def]
        split
        · next here => cases here; cases hex
        · next here => cases here; cases hex
        · next here => cases here
        · next here => cases here; rfl
        · next other =>
          cases rest with
          | nil => exact absurd long (by decide)
          | cons c more => exact absurd rfl (other c more)
      rw [same]
      exact (cut_one_gives rfl rest).bind_some (.pure _)
    · next decimal =>
      have same : Coercion.integerDigits body = (10, body) := by
        rw [Coercion.integerDigits.eq_def]
        split
        · cases hex
        · cases hex
        · cases hex
        · next c digits _ _ =>
          have positive := c.utf8Size_pos
          have zero : '0'.utf8Size = 1 := rfl
          refine absurd ⟨?_, rfl⟩ decimal
          rw [Filter.byteLength_cons, Filter.byteLength_cons]
          omega
        · rfl
      rw [same]
      exact .pure _

theorem integerLiteral_gives (raw : List Char) :
    (integerLiteral raw).Gives (integerLiteral? raw) := by
  rw [integerLiteral, integerLiteral?]
  generalize splitSign raw = parts
  obtain ⟨negative, body⟩ := parts
  obtain ⟨radix, digits, same⟩ : ∃ radix digits, Coercion.integerDigits body = (radix, digits) :=
    ⟨_, _, rfl⟩
  have gives := integerDigits_gives body
  rw [same] at gives
  simp only [same]
  refine gives.bind_some ?_
  split
  · next noDigits =>
    rw [readRadix?_of_noDigits noDigits]
    exact .ofOption _
  · next allDigits =>
    have known : ∀ c ∈ digits, (digitValue? c).isSome = true := by
      rw [Bool.not_eq_true, Bool.or_eq_false_iff, Bool.not_eq_false', List.all_eq_true] at allDigits
      exact allDigits.2
    rw [parse?_of_digits known]
    cases readRadix? radix digits with
    | none => exact .ofOption _
    | some n =>
      refine Run.Gives.bind (.ofOption _) fun value narrow => ?_
      cases negative with
      | true => exact (negate_gives (nonneg_of_narrow? narrow)).bind_some (.pure _)
      | false => exact .pure _

/-! ## Scaling -/

theorem normalized_gives (x : Binary64) : (normalized x).Gives (some (Number.normalized x)) := by
  cases x with
  | nan => exact .pure _
  | infinite negative => exact .pure _
  | finite negative units =>
    rw [normalized, Number.normalized]
    split
    · next whole =>
      have max : Int64.maxValue.toInt = 2 ^ 63 - 1 := rfl
      have min : Int64.minValue.toInt = -2 ^ 63 := rfl
      have small : units / Binary64.one < Nat.pow 2 63 :=
        (Nat.div_lt_iff_lt_mul Binary64.one_pos).mpr whole.2
      have bound : units / Binary64.one < 2 ^ 63 := small
      have fits : Fits64 (Binary64.signed negative (units / Binary64.one)) := by
        generalize units / Binary64.one = n at bound
        rw [Binary64.signed]
        constructor <;> split <;> omega
      exact (narrowWhole_gives fits).bind_some (.pure _)
    · exact .pure _

/-- As many zeros as characters stand at the end of what is zeros only. -/
theorem trailing_eq_iff {fraction : List Char} :
    byteLength fraction - byteLength (fraction.rdropWhile (· == '0')) = byteLength fraction ↔
      fraction.all (· == '0') = true := by
  have le := byteLength_le_of_sublist (List.rdropWhile_prefix (· == '0') fraction).sublist
  have nothing : byteLength (fraction.rdropWhile (· == '0')) = 0 ↔
      fraction.all (· == '0') = true := by
    rw [byteLength_eq_zero, List.rdropWhile_eq_nil_iff, List.all_eq_true]
  rw [← nothing]
  omega

section
variable {negative : Bool} {whole fraction : List Char}
  (isDigit : ∀ c ∈ whole ++ fraction, c.isDigit = true)

include isDigit

/-- Digits that reach down to one are scaled in checked arithmetic, and get their sign at the
end. -/
theorem scaleUp_gives {shift : Int32} {places : Int} (exact : shift.toInt = places) :
    (do
      let base ← Run.ofOption (parse? 10 (whole ++ fraction))
      let power ← Run.ofOption (power? 10 shift.toNatClampNeg)
      let scaled ← Run.ofOption (multiply? base power)
      return Number.integer (← multiply (if negative then -1 else 1) scaled)).Gives (do
        let base ← readInt64? (whole ++ fraction)
        let power ← narrow? (Nat.pow 10 places.toNat)
        let value ← narrow? (base.toInt * power.toInt)
        return .integer (withSign negative value)) := by
  have power : power? 10 shift.toNatClampNeg = narrow? (Nat.pow 10 places.toNat) := by
    rw [← exact, power?]
    exact congrArg narrow? (Int.natCast_pow 10 shift.toInt.toNat).symm
  rw [parse?_of_isDigit isDigit, power]
  refine Run.Gives.bind (.ofOption _) fun base read => ?_
  refine Run.Gives.bind (.ofOption _) fun power raised => ?_
  refine Run.Gives.bind (.ofOption _) fun scaled product => ?_
  have nonneg : 0 ≤ scaled.toInt := by
    rw [Number.toInt_of_narrow? product]
    exact Int.mul_nonneg (nonneg_of_readInt64? read) (nonneg_of_narrow? raised)
  exact (multiply_gives nonneg negative).bind_some (.pure _)

/-- Digits before zeros get their sign. -/
theorem scaleZeros_gives :
    (do
      let base ← Run.ofOption (parse? 10 whole)
      return Number.integer (← multiply (if negative then -1 else 1) base)).Gives (do
        return .integer (withSign negative (← readInt64? whole))) := by
  rw [parse?_of_isDigit fun c mem => isDigit c (List.mem_append_left _ mem)]
  refine Run.Gives.bind (.ofOption _) fun base read => ?_
  exact (multiply_gives (nonneg_of_readInt64? read) negative).bind_some (.pure _)

/-- A numeral of digits is scaled right, and safely, where few digits stand after its point. -/
theorem scale_gives {mantissa body : List Char} {exponent : Int}
    (sign : splitSign mantissa = (negative, body))
    (parts : splitFirst '.' body = (whole, fraction)) (short : fraction.length < 2 ^ 30)
    (low : -2 ^ 30 ≤ exponent) (high : exponent < 2 ^ 30) :
    (scale mantissa (.ofInt exponent)).Gives (scale? negative whole fraction exponent) := by
  have bytes : byteLength fraction = fraction.length :=
    byteLength_of_isDigit fun c mem => isDigit c (List.mem_append_right _ mem)
  have exponent_toInt : (Int32.ofInt exponent).toInt = exponent :=
    Int32.toInt_ofInt_of_le (by omega) (by omega)
  have shift_toInt :
      (Int32.ofInt (exponent - fraction.length)).toInt = exponent - fraction.length :=
    Int32.toInt_ofInt_of_le (by omega) (by omega)
  have isZero : Int32.ofInt exponent = 0 ↔ exponent = 0 := by
    rw [← Int32.toInt_inj, exponent_toInt]
    rfl
  have isUp : 0 ≤ Int32.ofInt (exponent - fraction.length) ↔ 0 ≤ exponent - fraction.length := by
    rw [Int32.le_iff_toInt_le, shift_toInt]
    rfl
  have le := byteLength_le_of_sublist (List.rdropWhile_prefix (· == '0') fraction).sublist
  rw [scale, scale?, sign]
  simp only [parts]
  split
  · exact .ofOption _
  · refine (narrowLength_gives (bytes ▸ short)).bind_some ?_
    rw [bytes]
    refine (subtract_gives low high short).bind_some ?_
    simp only [isUp]
    split
    · exact scaleUp_gives isDigit shift_toInt
    · rw [← bytes]
      refine (subtractLengths_gives le).bind_some ?_
      simp only [isZero, trailing_eq_iff]
      split
      · exact scaleZeros_gives isDigit
      · refine Run.Gives.bind (.ofOption _) fun magnitude _ => ?_
        rw [bytes, shift_toInt]
        exact normalized_gives _

end

/-! ## Parts of a text -/

section
variable {cs : List Char}

/-- A sign is split off the text that it stands before. -/
theorem exists_sign (raw : List Char) : ∃ sign : Sign,
    raw = sign.chars ++ (splitSign raw).2 ∧ (splitSign raw).1 = sign.isMinus := by
  rw [splitSign.eq_def]
  split
  · exact ⟨.minus, rfl, rfl⟩
  · exact ⟨.plus, rfl, rfl⟩
  · exact ⟨.absent, rfl, rfl⟩

theorem splitSign_suffix (raw : List Char) : (splitSign raw).2 <:+ raw := by
  obtain ⟨sign, same, -⟩ := exists_sign raw
  exact ⟨sign.chars, same.symm⟩

theorem splitFirst_suffix (mark : Char) (cs : List Char) : (splitFirst mark cs).2 <:+ cs :=
  (List.drop_suffix 1 _).trans (List.dropWhile_suffix _)

/-- Digits are no signs. -/
theorem noSign_of_isDigit {digits : List Char} (nonempty : digits ≠ [])
    (isDigit : ∀ c ∈ digits, c.isDigit = true) (rest : List Char) :
    ∀ c ∈ (digits ++ rest).head?, c ∉ ['-', '+'] := by
  obtain ⟨d, more, rfl⟩ := List.exists_cons_of_ne_nil nonempty
  rintro _ ⟨⟩ mem
  have plain : ∀ c ∈ ['-', '+'], c.isDigit = false := by simp
  exact Number.ne_of_isDigit (isDigit d List.mem_cons_self) (plain d mem) rfl

theorem notMem_of_isDigit {digits : List Char} (isDigit : ∀ c ∈ digits, c.isDigit = true) :
    '.' ∉ digits := fun mem =>
  Number.ne_of_isDigit (isDigit _ mem) rfl rfl

/-- The digits of a whole number without its separators are digits. -/
theorem isDigit_wholeDigits? {grouping : Char} {digits : List Char}
    (read : wholeDigits? grouping cs = some digits) : ∀ c ∈ digits, c.isDigit = true := by
  rw [wholeDigits?] at read
  split at read
  · simp only at read
    split at read
    · next wells =>
      cases read
      intro c mem
      obtain ⟨group, here, inside⟩ := List.mem_flatten.mp mem
      obtain ⟨i, less, same⟩ := List.getElem_of_mem here
      have well := List.all_eq_true.mp wells _ (List.mem_mapIdx.mpr ⟨i, less, rfl⟩)
      rw [same, id, Bool.and_eq_true] at well
      exact List.all_eq_true.mp well.2 c inside
    · cases read
  · split at read
    · next isDigit =>
      cases read
      exact List.all_eq_true.mp isDigit
    · cases read

/-- What is taken for a decimal number is one: digits with or without a point among them. -/
theorem exists_of_takeDecimal? {whole fraction rest : List Char}
    (taken : takeDecimal? cs = some (whole, fraction, rest)) :
    (∀ c ∈ whole ++ fraction, c.isDigit = true) ∧ ∃ numeral, cs = numeral ++ rest ∧
      splitFirst '.' numeral = (whole, fraction) ∧ ∀ c ∈ numeral.head?, c ∉ ['-', '+'] := by
  have isDigit (cs : List Char) : ∀ c ∈ cs.takeWhile Char.isDigit, c.isDigit = true :=
    fun c mem => List.mem_takeWhile_imp mem
  have parts := List.takeWhile_append_dropWhile (p := Char.isDigit) (l := cs)
  have noPoint := notMem_of_isDigit (isDigit cs)
  rw [takeDecimal?] at taken
  simp only at taken
  split at taken
  · next more point =>
    split at taken
    · cases taken
    · cases taken
      refine ⟨List.forall_mem_append.mpr ⟨isDigit cs, isDigit more⟩,
        cs.takeWhile Char.isDigit ++ '.' :: more.takeWhile Char.isDigit, ?_,
        splitFirst_append noPoint, ?_⟩
      · rw [List.append_assoc, List.cons_append, List.takeWhile_append_dropWhile, ← point, parts]
      · by_cases empty : cs.takeWhile Char.isDigit = []
        · rw [empty]
          rintro c ⟨⟩
          decide
        · exact noSign_of_isDigit empty (isDigit cs) _
  · split at taken
    · cases taken
    · next nonempty =>
      cases taken
      rw [List.append_nil]
      refine ⟨isDigit cs, cs.takeWhile Char.isDigit, parts.symm, splitFirst_of_notMem noPoint, ?_⟩
      rw [← List.append_nil (cs.takeWhile Char.isDigit)]
      exact noSign_of_isDigit (by simpa using nonempty) (isDigit cs) []

end

/-! ## Readers -/

variable {raw : List Char}

/-- The digits after the point of a text are no more than its bytes. -/
theorem length_le_byteLength {fraction : List Char} (sub : fraction.Sublist raw)
    (isDigit : ∀ c ∈ fraction, c.isDigit = true) : fraction.length ≤ byteLength raw :=
  byteLength_of_isDigit isDigit ▸ byteLength_le_of_sublist sub

/-- A point at the end is left out of what is written for a numeral. -/
theorem rdropWhile_numeral {digits fraction : List Char} (nonempty : digits ≠ [])
    (isDigit : ∀ c ∈ digits ++ fraction, c.isDigit = true) (before : List Char) :
    (before ++ (digits ++ '.' :: fraction)).rdropWhile (· == '.') =
      before ++ if fraction = [] then digits else digits ++ '.' :: fraction := by
  have keeps {cs : List Char} (some : cs ≠ []) (isDigit : ∀ c ∈ cs, c.isDigit = true)
      (before : List Char) : (before ++ cs).rdropWhile (· == '.') = before ++ cs := by
    rw [List.rdropWhile_eq_self_iff]
    intro _ last
    rw [List.getLast_append_of_ne_nil _ some] at last
    exact notMem_of_isDigit isDigit (beq_iff_eq.mp last ▸ List.getLast_mem some)
  split
  · next none =>
    rw [none, ← List.append_assoc, List.rdropWhile_concat_pos _ _ _ rfl]
    exact keeps nonempty (fun c mem => isDigit c (List.mem_append_left _ mem)) before
  · next some =>
    have point : before ++ (digits ++ '.' :: fraction) =
        (before ++ (digits ++ ['.'])) ++ fraction := by
      simp
    rw [point]
    exact keeps some (fun c mem => isDigit c (List.mem_append_right _ mem)) _

/-- What is written for a numeral of digits is taken apart again. -/
theorem scale_written {digits fraction : List Char} (negative : Bool) (nonempty : digits ≠ [])
    (isDigit : ∀ c ∈ digits ++ fraction, c.isDigit = true) (short : fraction.length < 2 ^ 30) :
    (scale (((if negative then ['-'] else []) ++ (digits ++ '.' :: fraction)).rdropWhile
      (· == '.')) 0).Gives (scale? negative digits fraction 0) := by
  obtain ⟨wholes, places⟩ := List.forall_mem_append.mp isDigit
  have noPoint := notMem_of_isDigit wholes
  have sign (rest : List Char) : splitSign ((if negative then ['-'] else []) ++ (digits ++ rest)) =
      (negative, digits ++ rest) := by
    have noSign := noSign_of_isDigit nonempty wholes rest
    cases negative with
    | true => exact Sign.minus.splitSign_chars noSign
    | false => exact Sign.absent.splitSign_chars noSign
  rw [rdropWhile_numeral nonempty isDigit]
  show (scale _ (.ofInt 0)).Gives _
  by_cases none : fraction = []
  · have whole := sign []
    rw [List.append_nil] at whole
    rw [if_pos none]
    exact scale_gives isDigit whole (none ▸ splitFirst_of_notMem noPoint) short (by decide)
      (by decide)
  · rw [if_neg none]
    exact scale_gives isDigit (sign _) (splitFirst_append noPoint) short (by decide) (by decide)

theorem groupedDecimal_gives (grouping decimal : Char) (short : byteLength raw < 2 ^ 30) :
    (groupedDecimal grouping decimal raw).Gives (groupedDecimal? grouping decimal raw) := by
  have suffix := (splitFirst_suffix decimal (splitSign raw).2).trans (splitSign_suffix raw)
  rw [groupedDecimal, groupedDecimal?]
  generalize splitSign raw = parts at suffix
  obtain ⟨negative, body⟩ := parts
  simp only at suffix ⊢
  generalize splitFirst decimal body = parts at suffix
  obtain ⟨whole, fraction⟩ := parts
  simp only at suffix ⊢
  split
  · exact .ofOption _
  · split
    · next allDigits =>
      have places := List.all_eq_true.mp allDigits
      have few := length_le_byteLength suffix.sublist places
      refine Run.Gives.bind (.ofOption _) fun read known => ?_
      refine scale_written negative ?_ (List.forall_mem_append.mpr ⟨?_, places⟩) (by omega)
      · split
        · exact List.cons_ne_nil _ _
        · next nonempty => simpa using nonempty
      · split
        · simp
        · exact isDigit_wholeDigits? known
    · exact .ofOption _

theorem withUnit_gives {units : List (List Char × Int)}
    (small : ∀ unit ∈ units, -2 ^ 30 ≤ unit.2 ∧ unit.2 < 2 ^ 30)
    (short : byteLength raw < 2 ^ 30) : (withUnit units raw).Gives (withUnit? units raw) := by
  obtain ⟨sign, same, isMinus⟩ := exists_sign raw
  have suffix := splitSign_suffix raw
  rw [withUnit, withUnit?, captures?]
  generalize splitSign raw = parts at same isMinus suffix
  obtain ⟨negative, body⟩ := parts
  simp only at same isMinus suffix ⊢
  cases taken : takeDecimal? body with
  | none => exact .ofOption none
  | some parts =>
    obtain ⟨whole, fraction, rest⟩ := parts
    obtain ⟨isDigit, numeral, number, split, noSign⟩ := exists_of_takeDecimal? taken
    have mantissa : raw.take (raw.length - rest.length) = sign.chars ++ numeral := by
      rw [same, number, ← List.append_assoc, List.length_append, Nat.add_sub_cancel,
        List.take_left]
    have few : fraction.length ≤ byteLength raw := by
      have inside := splitFirst_suffix '.' numeral
      rw [split] at inside
      refine length_le_byteLength ?_ fun c mem => isDigit c (List.mem_append_right _ mem)
      exact (inside.sublist.trans (number ▸ List.sublist_append_left numeral rest)).trans
        suffix.sublist
    refine Run.Gives.bind_some (.ofOption _) ?_
    simp only [mantissa, Option.bind_eq_bind, Option.bind_some]
    refine Run.Gives.bind (.ofOption _) fun exponent found => ?_
    obtain ⟨low, high⟩ : -2 ^ 30 ≤ exponent ∧ exponent < 2 ^ 30 := by
      obtain ⟨before, after, here, -⟩ := List.lookup_eq_some_iff.mp found
      exact small (_, exponent) (here ▸ List.mem_append_right _ List.mem_cons_self)
    rw [isMinus]
    exact scale_gives isDigit (sign.splitSign_chars noSign) split (by omega) low high

theorem duration_gives (short : byteLength raw < 2 ^ 30) :
    (duration raw).Gives (duration? raw) := by
  have read : (withUnit timeUnits raw).Gives (withUnit? timeUnits raw) :=
    withUnit_gives (by decide) short
  rw [duration?, Option.map_eq_bind]
  refine read.bind fun number _ => ?_
  cases number <;> exact .pure _

end Machine

/-- A machine reads the number of a text right, and does nothing out of range on the way to it:
texts are cut between characters, integers and lengths stay in range, and what is negated is a
magnitude. -/
theorem numberRun_safe (coercion : Coercion) (raw : String) (short : raw.utf8ByteSize < 2 ^ 30) :
    let run := coercion.numberRun raw
    run.result = coercion.number? raw ∧
      (∀ operation ∈ run.performed, operation.IsSafe) ∧
      ∀ value, .negate value ∈ run.performed →
        0 ≤ value.toInt ∧ value.toInt ≤ Int64.maxValue.toInt := by
  rw [← String.ofList_toList (s := raw), Machine.utf8ByteSize_ofList] at short
  have gives : (coercion.numberRun raw).Gives (coercion.number? raw) :=
    .orElse (Machine.integerLiteral_gives _) <|
    .orElse (Machine.groupedDecimal_gives _ _ short) <|
    .orElse (Machine.withUnit_gives (by decide) short) <|
    .orElse (Machine.duration_gives short) (.ofOption _)
  exact ⟨gives.result_eq, fun operation mem => (gives.harmless operation mem).1,
    fun value mem => (gives.harmless _ mem).2 value rfl⟩

/-- An octal integer with a sign is cut behind its zero, and what its digits stand for is
negated. -/
theorem numberRun_safe_octal :
    let run := ({} : Coercion).numberRun "-052"
    "-052".utf8ByteSize < 2 ^ 30 ∧
    run.performed = [.cut ['0', '5', '2'] 1, .negate 42] ∧
    run.result = ({} : Coercion).number? "-052" ∧
    (∀ operation ∈ run.performed, operation.IsSafe) ∧
    ∀ value, .negate value ∈ run.performed →
      0 ≤ value.toInt ∧ value.toInt ≤ Int64.maxValue.toInt := by
  have short : "-052".utf8ByteSize < 2 ^ 30 := by decide
  exact ⟨short, by decide +kernel, numberRun_safe {} "-052" short⟩

/-- A numeral with a unit is scaled without its sign. -/
example : (({} : Coercion).numberRun "-1.5k").performed =
    [.narrowLength 1, .subtract 3 1, .multiply (-1) 1500] := by
  decide +kernel

end EventSieve.Coercion
