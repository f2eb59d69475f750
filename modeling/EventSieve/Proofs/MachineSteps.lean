import EventSieve.Coercion.Machine
import EventSieve.Proofs.Numerals

/-!
# Operations of a machine

What runs of a machine give, and the conditions under which the single operations do no harm:
magnitudes change their sign, a magnitude is multiplied by one or minus one, lengths below 2³⁰ are
taken from small powers of ten in 32 bits, and a text is cut behind a character of one byte.

## Main definitions

* `Machine.Operation.IsHarmless` — an operation is safe, and negates only a magnitude
* `Machine.Run.Gives` — a run gives a result without doing harm

## Main statements

* `Machine.Run.Gives.bind`, `Machine.Run.Gives.orElse` — runs one after the other
-/
namespace EventSieve.Coercion.Machine

open EventSieve.Filter (byteLength)

/-! ## Lengths -/

theorem utf8ByteSize_ofList (cs : List Char) : (String.ofList cs).utf8ByteSize = byteLength cs := by
  induction cs with
  | nil => rfl
  | cons c cs ih =>
    rw [String.ofList_cons, String.utf8ByteSize_append, String.utf8ByteSize_singleton, ih,
      Filter.byteLength_cons]

theorem byteLength_le_of_sublist {one other : List Char} (sub : one.Sublist other) :
    byteLength one ≤ byteLength other := by
  induction sub with
  | slnil => exact Nat.le_refl _
  | cons c _ ih => exact Nat.le_trans ih (Nat.le_add_left _ _)
  | cons_cons c _ ih => exact Nat.add_le_add_left ih _

theorem byteLength_eq_zero {cs : List Char} : byteLength cs = 0 ↔ cs = [] := by
  cases cs with
  | nil => simp
  | cons c cs =>
    have positive := c.utf8Size_pos
    simp only [Filter.byteLength_cons, reduceCtorEq, iff_false]
    omega

/-- A digit is one byte. -/
theorem byteLength_of_isDigit {digits : List Char} (isDigit : ∀ c ∈ digits, c.isDigit = true) :
    byteLength digits = digits.length := by
  induction digits with
  | nil => rfl
  | cons c digits ih =>
    have bounds := Number.toNat_bounds_of_isDigit (isDigit c List.mem_cons_self)
    have one : c.utf8Size = 1 := Char.utf8Size_eq_one_iff.mpr (UInt32.le_iff_toNat_le.mpr (by
      show c.toNat ≤ 127
      omega))
    rw [Filter.byteLength_cons, one, ih fun d mem => isDigit d (List.mem_cons_of_mem _ mem),
      List.length_cons, Nat.add_comm]

/-! ## Runs -/

/-- An operation that is safe, and that negates a magnitude if it negates. -/
def Operation.IsHarmless (operation : Operation) : Prop :=
  operation.IsSafe ∧ ∀ value, operation = negate value →
    0 ≤ value.toInt ∧ value.toInt ≤ Int64.maxValue.toInt

/-- A run gives a result, or nothing, without doing harm. -/
structure Run.Gives {α : Type} (run : Run α) (result : Option α) : Prop where
  result_eq : run.result = result
  harmless : ∀ operation ∈ run.performed, operation.IsHarmless

namespace Run.Gives

variable {α β : Type} {run other : Run α} {result : Option α}

theorem pure (a : α) : (Pure.pure a : Run α).Gives (some a) :=
  ⟨rfl, fun _ mem => nomatch mem⟩

theorem ofOption (result : Option α) : (Run.ofOption result).Gives result :=
  ⟨rfl, fun _ mem => nomatch mem⟩

theorem bind {next : α → Run β} {then? : α → Option β} (gives : run.Gives result)
    (later : ∀ a, result = some a → (next a).Gives (then? a)) :
    (run >>= next).Gives (result.bind then?) := by
  obtain ⟨here, operations⟩ := run
  obtain ⟨rfl, harmless⟩ := gives
  cases here with
  | none => exact ⟨rfl, harmless⟩
  | some a =>
    obtain ⟨same, rest⟩ := later a rfl
    refine ⟨same, fun operation mem => ?_⟩
    rcases List.mem_append.mp mem with before | after
    · exact harmless operation before
    · exact rest operation after

theorem bind_some {a : α} {next : α → Run β} {then? : Option β} (gives : run.Gives (some a))
    (later : (next a).Gives then?) : (run >>= next).Gives then? := by
  show (run >>= next).Gives ((some a).bind fun _ => then?)
  exact gives.bind fun _ same => Option.some.inj same ▸ later

theorem orElse {result' : Option α} (gives : run.Gives result) (otherwise : other.Gives result') :
    (run <|> other).Gives (result <|> result') := by
  obtain ⟨here, operations⟩ := run
  obtain ⟨rfl, harmless⟩ := gives
  cases here with
  | some a => exact ⟨rfl, harmless⟩
  | none =>
    refine ⟨otherwise.result_eq, fun operation mem => ?_⟩
    rcases List.mem_append.mp mem with before | after
    · exact harmless operation before
    · exact otherwise.harmless operation after

theorem perform {operation : Operation} (harmless : operation.IsHarmless) (a : α) :
    (Run.perform operation a).Gives (some a) :=
  ⟨rfl, fun _ mem => List.mem_singleton.mp mem ▸ harmless⟩

end Run.Gives

/-! ## Operations -/

/-- What does not negate does no harm if it is safe. -/
theorem Operation.IsSafe.isHarmless {operation : Operation} (safe : operation.IsSafe)
    (other : ∀ value, operation ≠ negate value) : operation.IsHarmless :=
  ⟨safe, fun value same => absurd same (other value)⟩

/-- The sign of a magnitude can be changed. -/
theorem fits64_neg {value : Int64} (nonneg : 0 ≤ value.toInt) : Fits64 (-value.toInt) := by
  have high := value.toInt_lt
  have min : Int64.minValue.toInt = -2 ^ 63 := rfl
  have max : Int64.maxValue.toInt = 2 ^ 63 - 1 := rfl
  constructor <;> omega

theorem negate_gives {value : Int64} (nonneg : 0 ≤ value.toInt) :
    (negate value).Gives (some (-value)) := by
  have safe : (Operation.negate value).IsSafe := fits64_neg nonneg
  refine .perform ⟨safe, ?_⟩ _
  rintro _ ⟨⟩
  exact ⟨nonneg, Int.le_sub_one_of_lt value.toInt_lt⟩

/-- A magnitude is multiplied by its sign. -/
theorem multiply_gives {value : Int64} (nonneg : 0 ≤ value.toInt) (negative : Bool) :
    (multiply (if negative then -1 else 1) value).Gives (some (withSign negative value)) := by
  have product : (if negative then -1 else 1) * value = withSign negative value := by
    cases negative with
    | true => exact (Int64.neg_mul 1 value).trans (congrArg _ (Int64.one_mul value))
    | false => exact Int64.one_mul value
  have safe : (Operation.multiply (if negative then -1 else 1) value).IsSafe := by
    cases negative with
    | true =>
      have exact : (-1 : Int64).toInt * value.toInt = -value.toInt := Int.neg_one_mul _
      show Fits64 ((-1 : Int64).toInt * value.toInt)
      rw [exact]
      exact fits64_neg nonneg
    | false =>
      have exact : (1 : Int64).toInt * value.toInt = value.toInt := Int.one_mul _
      show Fits64 ((1 : Int64).toInt * value.toInt)
      rw [exact]
      exact ⟨value.le_toInt, Int.le_sub_one_of_lt value.toInt_lt⟩
  rw [multiply, product]
  exact .perform (safe.isHarmless nofun) _

/-- Lengths below 2³⁰ fit 32 bits. -/
theorem narrowLength_gives {length : Nat} (short : length < 2 ^ 30) :
    (narrowLength length).Gives (some (.ofNat length)) := by
  have min : Int32.minValue.toInt = -2 ^ 31 := rfl
  have max : Int32.maxValue.toInt = 2 ^ 31 - 1 := rfl
  have safe : (Operation.narrowLength length).IsSafe := by
    show Fits32 length
    constructor <;> omega
  exact .perform (safe.isHarmless nofun) _

/-- A whole number of 64 bits fits them. -/
theorem narrowWhole_gives {value : Int} (fits : Fits64 value) :
    (narrowWhole value).Gives (some (.ofInt value)) := by
  have safe : (Operation.narrowWhole value).IsSafe := fits
  exact .perform (safe.isHarmless nofun) _

/-- A length below 2³⁰ is taken from a small power of ten. -/
theorem subtract_gives {exponent : Int} {length : Nat} (low : -2 ^ 30 ≤ exponent)
    (high : exponent < 2 ^ 30) (short : length < 2 ^ 30) :
    (subtract (.ofInt exponent) (.ofNat length)).Gives (some (.ofInt (exponent - length))) := by
  have min : Int32.minValue.toInt = -2 ^ 31 := rfl
  have max : Int32.maxValue.toInt = 2 ^ 31 - 1 := rfl
  have left : (Int32.ofInt exponent).toInt = exponent :=
    Int32.toInt_ofInt_of_le (by omega) (by omega)
  have right : (Int32.ofNat length).toInt = length := Int32.toInt_ofNat_of_lt (by omega)
  have difference : (Int32.ofInt exponent) - .ofNat length = .ofInt (exponent - length) := by
    rw [← Int32.toInt_inj, Int32.toInt_sub, left, right, Int32.toInt_ofInt]
  have safe : (Operation.subtract (.ofInt exponent) (.ofNat length)).IsSafe := by
    show Fits32 ((Int32.ofInt exponent).toInt - (Int32.ofNat length).toInt)
    rw [left, right]
    constructor <;> omega
  rw [subtract, difference]
  exact .perform (safe.isHarmless nofun) _

theorem subtractLengths_gives {a b : Nat} (le : b ≤ a) :
    (subtractLengths a b).Gives (some (a - b)) := by
  have safe : (Operation.subtractLengths a b).IsSafe := le
  exact .perform (safe.isHarmless nofun) _

/-- What stands behind a character of one byte. -/
theorem cut_one_gives {c : Char} (one : c.utf8Size = 1) (rest : List Char) :
    (cut (c :: rest) 1).Gives (some rest) := by
  have behind : dropBytes 1 (c :: rest) = rest := by
    rw [dropBytes, if_neg Nat.one_ne_zero, one, Nat.sub_self]
    cases rest <;> simp [dropBytes]
  have safe : (Operation.cut (c :: rest) 1).IsSafe := ⟨[c], rest, rfl, by simp [one]⟩
  rw [cut, behind]
  exact .perform (safe.isHarmless nofun) _

end EventSieve.Coercion.Machine
