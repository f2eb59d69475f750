import EventSieve.Coercion.Basic
import EventSieve.Filter.Token
import Mathlib.Algebra.Group.Int.Defs
import Mathlib.Algebra.Group.Nat.Defs
import Mathlib.Data.List.DropRight

/-!
# Reading numbers on a machine

The readers of numbers once more, as a machine performs them. Integers have 32 or 64 bits and wrap
where a result is out of range, lengths are counted in bytes, texts are cut at positions in bytes,
and a numeral is written out as a text again before it is scaled. What the machine does without a
check is kept as an operation with its operands, so that a run tells next to its result whether
anything went wrong on the way to it.

Products and powers of ten that are checked give nothing where they are out of range. They are no
operations here, and neither are those of floating point.

## Main definitions

* `Machine.Operation`, `Machine.Operation.IsSafe` — an unchecked operation, and whether its exact
  result is there
* `Machine.Run` — a result, if there is one, with the operations performed for it
* `Machine.integerLiteral`, `Machine.groupedDecimal`, `Machine.withUnit`, `Machine.duration` — the
  readers of numbers
* `Coercion.numberRun` — the number of a text, by the first reader that takes it
-/
namespace EventSieve.Coercion.Machine

open EventSieve.Filter (byteLength)
open Number (Binary64 readRadix? narrow? digitValue?)

/-- What a machine does without a check. -/
inductive Operation where
  | negate (value : Int64)
  | multiply (a b : Int64)
  | subtract (a b : Int32)
  | subtractLengths (a b : Nat)
  /-- A length as an integer of 32 bits. -/
  | narrowLength (length : Nat)
  /-- A whole floating-point number as an integer of 64 bits. -/
  | narrowWhole (value : Int)
  /-- What is left of a text from a position in bytes on. -/
  | cut (text : List Char) (position : Nat)
deriving DecidableEq, Repr

/-- Whether 64 bits with a sign hold an integer. -/
def Fits64 (i : Int) : Prop :=
  Int64.minValue.toInt ≤ i ∧ i ≤ Int64.maxValue.toInt

/-- Whether 32 bits with a sign hold an integer. -/
def Fits32 (i : Int) : Prop :=
  Int32.minValue.toInt ≤ i ∧ i ≤ Int32.maxValue.toInt

/-- Whether the exact result is there: it is in range, or the position stands between two
characters or at an end. -/
def Operation.IsSafe : Operation → Prop
  | negate value => Fits64 (-value.toInt)
  | multiply a b => Fits64 (a.toInt * b.toInt)
  | subtract a b => Fits32 (a.toInt - b.toInt)
  | subtractLengths a b => b ≤ a
  | narrowLength length => Fits32 length
  | narrowWhole value => Fits64 value
  | cut text position => ∃ before after, text = before ++ after ∧ byteLength before = position

/-! ## Runs -/

/-- A result, if there is one, and the operations that were performed for it, in their order. -/
structure Run (α : Type) where
  result : Option α
  performed : List Operation := []

namespace Run

variable {α β : Type}

/-- Go on with a result, if there is one. -/
def bind (run : Run α) (next : α → Run β) : Run β :=
  match run.result with
  | none => ⟨none, run.performed⟩
  | some a => ⟨(next a).result, run.performed ++ (next a).performed⟩

instance : Monad Run where
  pure a := ⟨some a, []⟩
  bind := bind

/-- Take the second run where the first gives nothing. -/
def orElse (run : Run α) (other : Unit → Run α) : Run α :=
  match run.result with
  | none => ⟨(other ()).result, run.performed ++ (other ()).performed⟩
  | some _ => run

instance : OrElse (Run α) where
  orElse := orElse

/-- A result that took no unchecked operation. -/
def ofOption (result : Option α) : Run α :=
  ⟨result, []⟩

/-- The result of one operation. -/
def perform (operation : Operation) (a : α) : Run α :=
  ⟨some a, [operation]⟩

end Run

/-! ## Operations -/

def negate (value : Int64) : Run Int64 :=
  .perform (.negate value) (-value)

def multiply (a b : Int64) : Run Int64 :=
  .perform (.multiply a b) (a * b)

def subtract (a b : Int32) : Run Int32 :=
  .perform (.subtract a b) (a - b)

def subtractLengths (a b : Nat) : Run Nat :=
  .perform (.subtractLengths a b) (a - b)

def narrowLength (length : Nat) : Run Int32 :=
  .perform (.narrowLength length) (.ofNat length)

def narrowWhole (value : Int) : Run Int64 :=
  .perform (.narrowWhole value) (.ofInt value)

/-- The characters behind some bytes. A character that the bytes end in is left out. -/
def dropBytes (bytes : Nat) : List Char → List Char
  | [] => []
  | c :: rest => if bytes = 0 then c :: rest else dropBytes (bytes - c.utf8Size) rest

def cut (text : List Char) (position : Nat) : Run (List Char) :=
  .perform (.cut text position) (dropBytes position text)

/-- The checked product. -/
def multiply? (a b : Int64) : Option Int64 :=
  narrow? (a.toInt * b.toInt)

/-- The checked power. -/
def power? (base : Int64) (exponent : Nat) : Option Int64 :=
  narrow? (base.toInt ^ exponent)

/-- The 64-bit integer of digits in a base. A sign may stand before them. -/
def parse? (radix : Nat) (cs : List Char) : Option Int64 := do
  let (negative, digits) := splitSign cs
  let magnitude ← readRadix? radix digits
  narrow? (Binary64.signed negative magnitude)

/-! ## Readers -/

/-- What stands behind the prefix of a hexadecimal integer. -/
def stripHex? : List Char → Option (List Char)
  | '0' :: 'x' :: digits | '0' :: 'X' :: digits | '#' :: digits => some digits
  | _ => none

/-- The base and the digits of an integer. -/
def integerDigits (body : List Char) : Run (Nat × List Char) :=
  match stripHex? body with
  | some digits => pure (16, digits)
  | none =>
    if 1 < byteLength body ∧ body.head? = some '0' then do
      let digits ← cut body 1
      return (8, digits)
    else pure (10, body)

/-- A decimal, hexadecimal or octal integer. -/
def integerLiteral (raw : List Char) : Run Number := do
  let (negative, body) := splitSign raw
  let (radix, digits) ← integerDigits body
  if digits.isEmpty || !digits.all fun c => (digitValue? c).isSome then .ofOption none
  else do
    let magnitude ← Run.ofOption (parse? radix digits)
    if negative then return .integer (← negate magnitude) else return .integer magnitude

/-- A whole floating-point number below 2⁶³ as an integer. -/
def normalized : Binary64 → Run Number
  | .finite negative units =>
    if units % Binary64.one = 0 ∧ units < Nat.pow 2 63 * Binary64.one then do
      let value ← narrowWhole (Binary64.signed negative (units / Binary64.one))
      return .integer value
    else pure (.float (.finite negative units))
  | value => pure (.float value)

/-- The number of a numeral, with or without a sign and a point, times a power of ten. -/
def scale (mantissa : List Char) (exponent : Int32) : Run Number := do
  let (negative, body) := splitSign mantissa
  let (whole, fraction) := splitFirst '.' body
  let digits := whole ++ fraction
  if digits.isEmpty then .ofOption none
  else do
    let sign : Int64 := if negative then -1 else 1
    let shift ← subtract exponent (← narrowLength (byteLength fraction))
    if 0 ≤ shift then do
      let base ← .ofOption (parse? 10 digits)
      let power ← .ofOption (power? 10 shift.toNatClampNeg)
      let scaled ← .ofOption (multiply? base power)
      return .integer (← multiply sign scaled)
    else do
      let trailing ← subtractLengths (byteLength fraction)
        (byteLength (fraction.rdropWhile (· == '0')))
      if exponent = 0 ∧ trailing = byteLength fraction then do
        let base ← .ofOption (parse? 10 whole)
        return .integer (← multiply sign base)
      else do
        let magnitude ← .ofOption (readRadix? 10 digits)
        normalized (.ofDecimal negative magnitude shift.toInt)

/-- A decimal number; the digits before the separator may be grouped. -/
def groupedDecimal (grouping decimal : Char) (raw : List Char) : Run Number := do
  let (negative, body) := splitSign raw
  let (whole, fraction) := splitFirst decimal body
  if whole.isEmpty && fraction.isEmpty then .ofOption none
  else if fraction.all Char.isDigit then do
    let digits ← .ofOption (wholeDigits? grouping whole)
    let mantissa := (if negative then ['-'] else []) ++
      ((if digits.isEmpty then ['0'] else digits) ++ '.' :: fraction)
    scale (mantissa.rdropWhile (· == '.')) 0
  else .ofOption none

/-- A decimal number with its sign, and the unit behind it; a blank may stand between. Both parts
are there where the text is one. -/
def captures? (raw : List Char) : Option (List Char × List Char) := do
  let (_, _, rest) ← takeDecimal? (splitSign raw).2
  let unit :=
    match rest with
    | ' ' :: more => more
    | _ => rest
  return (raw.take (raw.length - rest.length), unit)

/-- A decimal number with a unit behind it. -/
def withUnit (units : List (List Char × Int)) (raw : List Char) : Run Number := do
  let (mantissa, unit) ← .ofOption (captures? raw)
  let exponent ← .ofOption (units.lookup unit)
  scale mantissa (.ofInt exponent)

/-- A decimal number with a unit of time, in whole nanoseconds. A time out of range is taken to
the nearest end. -/
def duration (raw : List Char) : Run Number := do
  match ← withUnit timeUnits raw with
  | .float ticks => return .integer (Number.clamp ticks.round)
  | number => return number

end Machine

/-- The number of a text as a machine reads it, by the first reader that takes it. -/
def numberRun (coercion : Coercion) (raw : String) : Machine.Run Number :=
  Machine.integerLiteral raw.toList
  <|> Machine.groupedDecimal coercion.grouping coercion.decimal raw.toList
  <|> Machine.withUnit amountUnits raw.toList
  <|> Machine.duration raw.toList
  <|> .ofOption ((coercion.instant? raw).map .integer)

end EventSieve.Coercion
