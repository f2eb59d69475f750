import EventSieve.Proofs.Calendar
import EventSieve.Proofs.Decimals

/-!
# Timestamps read back

The text of an instant of 64 bits is read as that instant, before any template is tried. It is no
numeral, whatever the separators are, because a hyphen, a `T` and a colon cannot all be one of two.

## Main statements

* `Instant.readTimestamp?_timestampText` — the text of an instant is read as the instant
* `Coercion.number?_timestampText` — and so it is the number of the text
-/
namespace EventSieve

namespace Instant

open Number (readRadix?)

/-! ## Digits with zeros before them -/

section
variable {width n : Nat} (fits : n < 10 ^ width) (some : 0 < width)

theorem isDigit_of_mem_padded {c : Char} (mem : c ∈ padded width n) : c.isDigit = true := by
  rcases List.mem_append.mp mem with zero | digit
  · rw [List.eq_of_mem_replicate zero]
    rfl
  · exact Nat.isDigit_of_mem_toDigits (by decide) (by decide) digit

include fits some

theorem length_padded : (padded width n).length = width := by
  have short := (Nat.length_toDigits_le_iff (by decide) some).mpr fits
  rw [padded, List.length_append, List.length_replicate]
  omega

theorem readRadix?_padded : readRadix? 10 (padded width n) = Option.some n := by
  have digits : ∀ c ∈ padded width n, c.isDigit = true := fun c => isDigit_of_mem_padded
  have read := Number.readRadixFrom?_digits digits 0
  have value : Nat.ofDigitChars 10 (padded width n) 0 = n := by
    rw [padded, Nat.ofDigitChars_append, Nat.ofDigitChars_replicate_zero, Nat.mul_zero]
    exact Nat.ofDigitChars_ten_toDigits
  rw [value] at read
  obtain ⟨c, rest, same⟩ := List.exists_cons_of_length_pos ((length_padded fits some).symm ▸ some)
  rw [← read, same]
  rfl

/-- A number of so many digits is taken. -/
theorem takeDigits?_padded (rest : List Char) :
    takeDigits? width (padded width n ++ rest) = Option.some (n, rest) := by
  have length := length_padded fits some
  have digits : (padded width n).all Char.isDigit = true :=
    List.all_eq_true.mpr fun c => isDigit_of_mem_padded
  rw [takeDigits?, List.take_left' length, List.drop_left' length]
  simp only [length, digits, and_self, if_true]
  rw [readRadix?_padded fits some]
  rfl

end

/-- A fraction of nine digits is taken. -/
theorem takeFraction?_padded {n : Nat} (fits : n < 10 ^ 9) {c : Char} (other : c.isDigit = false)
    (rest : List Char) : takeFraction? (padded 9 n ++ c :: rest) = some (n, c :: rest) := by
  have digits : ∀ d ∈ padded 9 n, d.isDigit = true := fun d => isDigit_of_mem_padded
  have length := length_padded fits (by decide)
  have taken : (padded 9 n ++ c :: rest).takeWhile Char.isDigit = padded 9 n := by
    rw [List.takeWhile_append_of_pos digits, List.takeWhile_cons_of_neg (by simp [other]),
      List.append_nil]
  have left : (padded 9 n ++ c :: rest).dropWhile Char.isDigit = c :: rest := by
    rw [List.dropWhile_append_of_pos digits, List.dropWhile_cons_of_neg (by simp [other])]
  have kept : (padded 9 n).take 9 = padded 9 n := List.take_of_length_le length.le
  rw [takeFraction?, taken, left, kept, readRadix?_padded fits (by decide), length]
  simp

theorem skip?_self (c : Char) (rest : List Char) : skip? c (c :: rest) = some rest :=
  if_pos rfl

/-! ## Instants -/

/-- The text of an instant begins with digits and a hyphen, and has other marks after them. -/
theorem exists_timestampChars (nanos : Int) : ∃ year rest, (∀ c ∈ year, c.isDigit = true) ∧
    year ≠ [] ∧ timestampChars nanos = year ++ '-' :: rest ∧ ∀ c ∈ ['T', ':', '.'], c ∈ rest := by
  let year := padded 4 (Date.ofDays (nanos / perSecond / 86400)).year.toNat
  have nonempty : year ≠ [] := List.append_ne_nil_of_right_ne_nil _ Nat.toDigits_ne_nil
  have parts : ∃ rest, timestampChars nanos = year ++ '-' :: rest ∧
      ∀ c ∈ ['T', ':', '.'], c ∈ rest := by
    rw [timestampChars]
    simp only [List.append_assoc, List.cons_append]
    exact ⟨_, rfl, by simp⟩
  obtain ⟨rest, chars, present⟩ := parts
  exact ⟨year, rest, fun c => isDigit_of_mem_padded, nonempty, chars, present⟩

/-- The instants of 64 bits are in years of four digits. -/
theorem year_of_range {nanos : Int} (low : Int64.minValue.toInt ≤ nanos)
    (high : nanos ≤ Int64.maxValue.toInt) :
    0 ≤ (Date.ofDays (nanos / perSecond / 86400)).year ∧
      (Date.ofDays (nanos / perSecond / 86400)).year < 10000 := by
  have min : Int64.minValue.toInt = -9223372036854775808 := rfl
  have max : Int64.maxValue.toInt = 9223372036854775807 := rfl
  refine Date.year_ofDays ?_ ?_ <;> rw [perSecond] <;> omega

/-- A date and a clock reading are read as they are written. -/
theorem readTimestampChars?_parts {date : Date} {year month day : Nat}
    (hour minute second nano : Nat) (named : Date.of? year month day = some date)
    (yearFits : year < 10 ^ 4) (monthFits : month < 10 ^ 2) (dayFits : day < 10 ^ 2)
    (hours : hour ≤ 23)
    (minutes : minute ≤ 59) (seconds : second ≤ 59) (nanoFits : nano < 10 ^ 9) :
    readTimestampChars? (padded 4 year ++ '-' :: padded 2 month ++ '-' :: padded 2 day ++
      'T' :: padded 2 hour ++ ':' :: padded 2 minute ++ ':' :: padded 2 second ++
      '.' :: padded 9 nano ++ ['Z']) =
      some (ofParts date.days (hour * 3600 + minute * 60 + second) nano) := by
  have hourFits : hour < 10 ^ 2 := by omega
  have minuteFits : minute < 10 ^ 2 := by omega
  have secondFits : second < 10 ^ 2 := by omega
  have clock : clock? hour minute second = some (hour * 3600 + minute * 60 + second, 0) := by
    rw [clock?, if_pos ⟨hours, minutes⟩, if_pos seconds]
  have zone : takeOffset? (skip? ':') true false ['Z'] = some (0, []) := rfl
  simp only [List.append_assoc, List.cons_append]
  rw [readTimestampChars?]
  refine Option.bind_eq_some_iff.mpr ⟨_, takeDigits?_padded yearFits (by decide) _, ?_⟩
  refine Option.bind_eq_some_iff.mpr ⟨_, skip?_self '-' _, ?_⟩
  refine Option.bind_eq_some_iff.mpr ⟨_, takeDigits?_padded monthFits (by decide) _, ?_⟩
  refine Option.bind_eq_some_iff.mpr ⟨_, skip?_self '-' _, ?_⟩
  refine Option.bind_eq_some_iff.mpr ⟨_, takeDigits?_padded dayFits (by decide) _, ?_⟩
  refine Option.bind_eq_some_iff.mpr ⟨_, rfl, ?_⟩
  refine Option.bind_eq_some_iff.mpr ⟨_, takeDigits?_padded hourFits (by decide) _, ?_⟩
  refine Option.bind_eq_some_iff.mpr ⟨_, skip?_self ':' _, ?_⟩
  refine Option.bind_eq_some_iff.mpr ⟨_, takeDigits?_padded minuteFits (by decide) _, ?_⟩
  refine Option.bind_eq_some_iff.mpr ⟨_, skip?_self ':' _, ?_⟩
  refine Option.bind_eq_some_iff.mpr ⟨_, takeDigits?_padded secondFits (by decide) _, ?_⟩
  refine Option.bind_eq_some_iff.mpr ⟨_, takeFraction?_padded nanoFits rfl _, ?_⟩
  refine Option.bind_eq_some_iff.mpr ⟨_, zone, ?_⟩
  refine Option.bind_eq_some_iff.mpr ⟨_, named, ?_⟩
  refine Option.bind_eq_some_iff.mpr ⟨_, clock, ?_⟩
  simp

/-- The text of an instant of 64 bits is read as the instant. -/
theorem readTimestamp?_timestampText {nanos : Int} (low : Int64.minValue.toInt ≤ nanos)
    (high : nanos ≤ Int64.maxValue.toInt) : readTimestamp? (timestampText nanos) = some nanos := by
  obtain ⟨first, last⟩ := year_of_range low high
  have days := Date.days_ofDays (nanos / perSecond / 86400)
  obtain ⟨-, month, -, day⟩ := Date.isValid_ofDays (nanos / perSecond / 86400)
  have short := Date.daysInMonth_le (Date.ofDays (nanos / perSecond / 86400)).year
    (Date.ofDays (nanos / perSecond / 86400)).month
  have inYear : yearInRange (Date.ofDays (nanos / perSecond / 86400)).year = true := by
    rw [yearInRange, Bool.and_eq_true, decide_eq_true_iff, decide_eq_true_iff]
    omega
  have date := Date.of?_ofDays inYear
  rw [readTimestamp?, timestampText, String.toList_ofList, timestampChars]
  generalize Date.ofDays (nanos / perSecond / 86400) = written at *
  rw [← Int.toNat_of_nonneg first] at date
  obtain ⟨second, ofDay⟩ : ∃ s, s = (nanos / perSecond % 86400).toNat := ⟨_, rfl⟩
  obtain ⟨nano, ofSecond⟩ : ∃ n, n = (nanos % perSecond).toNat := ⟨_, rfl⟩
  have unit : perSecond = 1000000000 := rfl
  rw [unit] at ofDay ofSecond days
  have read := readTimestampChars?_parts (second / 3600) (second / 60 % 60) (second % 60) nano date
    (by omega) (by omega) (by omega) (by omega) (by omega) (by omega) (by omega)
  rw [ofDay, ofSecond] at read
  refine read.trans (congrArg some ?_)
  rw [days, ofParts, unit]
  omega

end Instant

namespace Coercion

variable (coercion : Coercion) (t : Int64)

theorem instant?_timestampText :
    coercion.instant? (Instant.timestampText t.toInt) = some t := by
  have low := t.le_toInt
  have high := t.toInt_lt
  have max : Int64.maxValue.toInt = 2 ^ 63 - 1 := rfl
  have min : Int64.minValue.toInt = -2 ^ 63 := rfl
  rw [instant?, Instant.readTimestamp?_timestampText (by omega) (by omega)]
  show Number.narrow? t.toInt = some t
  rw [Number.narrow?_of_fits (by omega) (by omega), Int64.ofInt_toInt]

/-- The text of an instant is no numeral. -/
theorem numeral?_timestampText (nanos : Int) :
    coercion.numeral? (Instant.timestampText nanos) = none := by
  obtain ⟨year, rest, digits, nonempty, chars, present⟩ := Instant.exists_timestampChars nanos
  have body : splitSign (year ++ '-' :: rest) = (false, year ++ '-' :: rest) := by
    obtain ⟨c, cs, same⟩ := List.exists_cons_of_ne_nil nonempty
    have digit := digits c (same ▸ List.mem_cons_self)
    rw [same]
    exact splitSign.eq_3 _ (fun _ h => Number.ne_of_isDigit digit rfl (List.cons.inj h).1)
      (fun _ h => Number.ne_of_isDigit digit rfl (List.cons.inj h).1)
  have present : ∀ c ∈ ['T', ':', '.'], c ∈ (splitSign (year ++ '-' :: rest)).2 := by
    intro c mem
    rw [body]
    exact List.mem_append_right year (List.mem_cons_of_mem _ (present c mem))
  have noUnit {units : List (List Char × Int)} (unknown : units.lookup ('-' :: rest) = none) :
      withUnit? units (Instant.timestampText nanos).toList = none := by
    have taken : takeDecimal? (year ++ '-' :: rest) = some (year, [], '-' :: rest) := by
      rw [takeDecimal?, List.takeWhile_append_of_pos digits, List.dropWhile_append_of_pos digits]
      simp [nonempty]
    rw [Instant.timestampText, String.toList_ofList, chars, withUnit?, body]
    simp only [taken]
    show (units.lookup ('-' :: rest)).bind _ = none
    rw [unknown]
    rfl
  rw [numeral?_of_noUnit (noUnit rfl) (noUnit rfl), Instant.timestampText, String.toList_ofList,
    chars, integerLiteral?_of_mem (present '.' (by decide)) rfl (by decide),
    groupedDecimal?_eq_none ['T', ':', '.'] (by decide) (by decide) present rfl]
  rfl

theorem number?_timestampText :
    coercion.number? (Instant.timestampText t.toInt) = some (.integer t) := by
  rw [number?_eq, numeral?_timestampText, instant?_timestampText]
  rfl

end Coercion

end EventSieve
