import EventSieve.Number.Shortest

/-!
# Floating-point numbers as text

The digits of a number are the shortest that read back. A text of a value writes them out in
full, with as many zeros as the number needs; a JSON text writes very large and very small
numbers with an exponent and marks every number as a fraction.

## Main definitions

* `plainText` — the text of a value
* `jsonText` — the text in JSON
-/
namespace EventSieve.Number.Binary64

/-- Digits written in full: the point stands after the first `point` digits. -/
def placePoint (digits : List Char) (point : Int) : List Char :=
  let count : Int := digits.length
  if point ≤ 0 then '0' :: '.' :: (List.replicate (-point).toNat '0' ++ digits)
  else if count ≤ point then digits ++ List.replicate (point - count).toNat '0'
  else digits.take point.toNat ++ '.' :: digits.drop point.toNat

/-- A minus sign before the text of what is negative. -/
def withSign (negative : Bool) (text : List Char) : List Char :=
  if negative then '-' :: text else text

/-- The characters of a value: no exponent, and no point after a whole number. -/
def plainChars : Binary64 → List Char
  | nan => ['N', 'a', 'N']
  | infinite negative => withSign negative ['i', 'n', 'f']
  | finite negative units =>
    withSign negative <|
      if units = 0 then ['0']
      else
        let (digits, exponent) := shortest units
        let chars := Nat.toDigits 10 digits
        placePoint chars (chars.length + exponent)

/-- The text of a value. -/
def plainText (x : Binary64) : String :=
  String.ofList x.plainChars

/-- Digits written for JSON: in full where the point stands near them, else with an exponent. -/
def jsonDigits (digits : List Char) (exponent : Int) : List Char :=
  let point : Int := digits.length + exponent
  if 0 ≤ exponent ∧ point ≤ 16 then placePoint digits point ++ ['.', '0']
  else if -5 < point ∧ point ≤ 16 then placePoint digits point
  else
    let power := point - 1
    let tail := 'e' :: (withSign (decide (power < 0)) (Nat.toDigits 10 power.natAbs))
    match digits with
    | [] => tail
    | [digit] => digit :: tail
    | digit :: more => digit :: '.' :: (more ++ tail)

/-- The text in JSON, which has no form for infinities and for what is no number. -/
def jsonText : Binary64 → String
  | nan | infinite _ => "null"
  | finite negative units =>
    String.ofList <| withSign negative <|
      if units = 0 then ['0', '.', '0']
      else
        let (digits, exponent) := shortest units
        jsonDigits (Nat.toDigits 10 digits) exponent

end EventSieve.Number.Binary64
