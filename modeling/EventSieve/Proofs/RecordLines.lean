import EventSieve.Proofs.Numerals
import EventSieve.Record
import EventSieve.RecordFile

/-!
# Lines with one whole number

A line that holds one member with a whole number is a record of that member. Up to 64 bits the
value of the member has the text of the numeral. Beyond them it is a floating-point number, and
null where it is out of reach of these as well.

## Main definitions

* `RecordLine.ofMember` — the line of a member with a whole number

## Main statements

* `Json.parseStrict?_ofMember`, `Json.parseLenient?_ofMember` — what either reader makes of a line
* `RecordLine.parse_ofMember` — the record of a line, and the value of its member
-/
namespace EventSieve

/-- Whether all characters of a name stand for themselves in quotes. -/
def Json.IsPlainKey (name : String) : Prop :=
  ∀ c ∈ name.toList, c ≠ '"' ∧ c ≠ '\\' ∧ 32 ≤ c.toNat

instance (name : String) : Decidable (Json.IsPlainKey name) :=
  List.decidableBAll _ name.toList

/-- The line of a record with one member, a whole number. -/
def RecordLine.ofMember (name : String) (n : WholeNumeral) : String :=
  "\x7b\"" ++ name ++ "\": " ++ n.text ++ "\x7d"

theorem RecordLine.toList_ofMember (name : String) (n : WholeNumeral) :
    (ofMember name n).toList =
      '\x7b' :: '"' :: (name.toList ++ '"' :: ':' :: ' ' :: (n.chars ++ ['\x7d'])) := by
  simp [ofMember, WholeNumeral.text]

/-- What the readers of a line have for its depth is enough for one member. -/
theorem RecordLine.exists_fuel (name : String) (n : WholeNumeral) :
    ∃ fuel, 2 * (ofMember name n).toList.length + 2 = fuel + 3 := by
  rw [toList_ofMember]
  exact ⟨_, rfl⟩

namespace Json

variable (n : WholeNumeral) {name : String}

theorem brace_ends (rest : List Char) : ∀ c ∈ ('\x7d' :: rest).head?, c.isDigit = false := by
  intro c mem
  cases mem
  rfl

/-! ## Strict JSON -/

theorem takeString?_plain {cs : List Char}
    (plain : ∀ c ∈ cs, c ≠ '"' ∧ c ≠ '\\' ∧ 32 ≤ c.toNat) (rest : List Char) :
    takeString? (cs ++ '"' :: rest) = some (cs, rest) := by
  induction cs with
  | nil => rw [List.nil_append, takeString?]
  | cons c cs ih =>
    obtain ⟨noQuote, noEscape, visible⟩ := plain c List.mem_cons_self
    have taken := ih fun d mem => plain d (List.mem_cons_of_mem _ mem)
    have stands : ¬(c.toNat < 32 ∨ c = '\\') := by
      rintro (control | escape)
      · omega
      · exact noEscape escape
    rw [List.cons_append, takeString?, if_neg stands, taken]
    · rfl
    · exact noQuote
    · exact fun _ same => absurd same noEscape
    · exact fun _ _ same => absurd same noEscape

theorem skipStrict_cons {c : Char} (visible : isStrictBlank c = false) (cs : List Char) :
    skipStrict (c :: cs) = c :: cs := by
  rw [skipStrict, List.dropWhile_cons, visible]
  rfl

theorem takeWhole?_digits {rest : List Char} (ends : ∀ c ∈ rest.head?, c.isDigit = false) :
    takeWhole? (n.digits ++ rest) = some (n.digits, rest) := by
  rw [takeWhole?, n.takeWhile_digits ends, n.dropWhile_digits ends]
  split
  · next h => exact absurd h n.nonempty
  · next h => exact absurd h (n.digits_ne_zero _ _)
  · rfl

/-- Digits before a brace are read as a whole number. -/
theorem takeUnsigned?_digits (negative : Bool) (rest : List Char) :
    takeUnsigned? negative (n.digits ++ '\x7d' :: rest) =
      (wholeNumber? negative n.digits).map fun value => (value, '\x7d' :: rest) := by
  rw [takeUnsigned?, takeWhole?_digits n (brace_ends rest)]
  show (wholeNumber? negative n.digits).bind (fun value => some (value, '\x7d' :: rest)) = _
  exact Option.map_eq_bind.symm

theorem takeNumber?_chars (rest : List Char) :
    takeNumber? (n.chars ++ '\x7d' :: rest) =
      (wholeNumber? n.negative n.digits).map fun value => (value, '\x7d' :: rest) := by
  rw [WholeNumeral.chars]
  by_cases negative : n.negative = true
  · rw [if_pos negative, negative]
    exact takeUnsigned?_digits n true rest
  · rw [if_neg negative, Bool.eq_false_iff.mpr negative, takeNumber?, takeUnsigned?_digits]
    exact fun _ => n.digits_append_ne_cons rfl _ _

theorem takeScalar?_chars (rest : List Char) :
    takeScalar? (n.chars ++ '\x7d' :: rest) =
      (wholeNumber? n.negative n.digits).map fun value => (value, '\x7d' :: rest) := by
  rw [takeScalar?, takeNumber?_chars]
  · exact fun _ => n.chars_append_ne_cons rfl (by decide) _ _
  · exact fun _ => n.chars_append_ne_cons rfl (by decide) _ _
  · exact fun _ => n.chars_append_ne_cons rfl (by decide) _ _
  · exact fun _ => n.chars_append_ne_cons rfl (by decide) _ _

theorem skipStrict_chars (rest : List Char) :
    skipStrict (' ' :: (n.chars ++ rest)) = n.chars ++ rest := by
  obtain ⟨c, cs, same, -, first⟩ := n.exists_chars
  have visible : isStrictBlank c = false := by
    rcases first with rfl | digit
    · rfl
    · have other {d : Char} := Number.beq_of_isDigit (d := d) digit
      rw [isStrictBlank, other rfl, other rfl, other rfl, other rfl]
      rfl
  rw [same]
  exact skipStrict_cons visible _

theorem takeValue?_chars (fuel depth : Nat) (rest : List Char) :
    takeValue? (fuel + 1) depth (' ' :: (n.chars ++ '\x7d' :: rest)) =
      (wholeNumber? n.negative n.digits).map fun value => (value, '\x7d' :: rest) := by
  rw [takeValue?, skipStrict_chars, ← takeScalar?_chars n rest]
  split
  · next h => exact absurd h (n.chars_append_ne_cons rfl (by decide) _ _)
  · next h => exact absurd h (n.chars_append_ne_cons rfl (by decide) _ _)
  · rfl

/-- A member in quotes with a whole number, up to the brace. -/
theorem takeMembers?_member (plain : IsPlainKey name) (fuel depth : Nat) (rest : List Char) :
    takeMembers? (fuel + 2) depth
        ('"' :: (name.toList ++ '"' :: ':' :: ' ' :: (n.chars ++ '\x7d' :: rest))) =
      (wholeNumber? n.negative n.digits).map fun value => ([(name, value)], rest) := by
  rw [takeMembers?, skipStrict_cons rfl]
  show (takeString? (name.toList ++ '"' :: ':' :: ' ' :: (n.chars ++ '\x7d' :: rest))).bind _ = _
  rw [takeString?_plain plain]
  show (takeValue? (fuel + 1) depth (' ' :: (n.chars ++ '\x7d' :: rest))).bind _ = _
  rw [takeValue?_chars, Option.bind_map, String.ofList_toList, Option.map_eq_bind]
  rfl

/-- Strict JSON takes the line of a member if it takes the number. -/
theorem parseStrict?_ofMember (plain : IsPlainKey name) :
    parseStrict? (RecordLine.ofMember name n) =
      (wholeNumber? n.negative n.digits).map fun value => object [(name, value)] := by
  have taken (fuel : Nat) : takeValue? (fuel + 3) strictDepth (RecordLine.ofMember name n).toList =
      (wholeNumber? n.negative n.digits).map fun value => (object [(name, value)], []) := by
    rw [RecordLine.toList_ofMember, takeValue?, skipStrict_cons rfl]
    simp only [skipStrict_cons (rfl : isStrictBlank '"' = false)]
    show (takeMembers? (fuel + 2) 127 _).map _ = _
    rw [takeMembers?_member n plain, Option.map_map]
    rfl
  obtain ⟨fuel, enough⟩ := RecordLine.exists_fuel name n
  rw [parseStrict?, enough, taken, Option.map_eq_bind, Option.map_eq_bind]
  show (Option.bind _ _).bind _ = _
  rw [Option.bind_assoc]
  rfl

/-! ## Lenient JSON -/

/-- A character other than a backslash ends a string or stands for itself. -/
theorem takeQuoted?_cons {c mark : Char} (noEscape : c ≠ '\\') (rest : List Char) :
    takeQuoted? mark (c :: rest) =
      if c = mark then some ([], rest)
      else if c = '\n' ∨ c = '\r' ∨ c = '\\' then none
      else (takeQuoted? mark rest).bind fun (text, rest) => some (c :: text, rest) := by
  rw [takeQuoted?]
  · rfl
  all_goals
    intros
    contradiction

theorem takeQuoted?_plain {cs : List Char}
    (plain : ∀ c ∈ cs, c ≠ '"' ∧ c ≠ '\\' ∧ 32 ≤ c.toNat) (rest : List Char) :
    takeQuoted? '"' (cs ++ '"' :: rest) = some (cs, rest) := by
  induction cs with
  | nil => rw [List.nil_append, takeQuoted?_cons (by decide), if_pos rfl]
  | cons c cs ih =>
    obtain ⟨noQuote, noEscape, visible⟩ := plain c List.mem_cons_self
    have stands : ¬(c = '\n' ∨ c = '\r' ∨ c = '\\') := by
      rintro (rfl | rfl | escape)
      · exact absurd visible (by decide)
      · exact absurd visible (by decide)
      · exact noEscape escape
    rw [List.cons_append, takeQuoted?_cons noEscape, if_neg noQuote, if_neg stands,
      ih fun d mem => plain d (List.mem_cons_of_mem _ mem)]
    rfl

/-- Characters of ASCII that are neither blanks nor begin a comment are not skipped. -/
theorem skip?_cons {c : Char} (visible : 32 < c.toNat ∧ c.toNat < 128 ∧ c ≠ '/')
    (cs : List Char) : skip? (c :: cs) = some (c :: cs) := by
  obtain ⟨above, ascii, noComment⟩ := visible
  have noBlank : c ≠ ' ' := by
    rintro rfl
    exact absurd above (by decide)
  have stays : c.toNat < 128 ∧ (!decide (9 ≤ c.toNat ∧ c.toNat ≤ 13)) = true ∧ c ≠ ' ' :=
    ⟨ascii, by simp; omega, noBlank⟩
  rw [skip?, List.length_cons, skipLenient?, if_pos stays]
  · exact fun _ same => absurd same noComment
  · exact fun _ same => absurd same noComment

theorem skip?_blank (cs : List Char) : skip? (' ' :: cs) = skip? cs := by
  rw [skip?, List.length_cons, skipLenient?]
  · rfl
  · exact fun _ same => absurd same (by decide)
  · exact fun _ same => absurd same (by decide)

theorem takeDecimal?_digits (negative : Bool) (rest : List Char) :
    takeDecimal? negative (n.digits ++ '\x7d' :: rest) =
      some (lenientWhole negative n.magnitude, '\x7d' :: rest) := by
  rw [takeDecimal?, n.takeWhile_digits (brace_ends rest), n.dropWhile_digits (brace_ends rest)]
  show (Number.readRadix? 10 (n.digits ++ [])).bind _ = _
  rw [List.append_nil, n.readRadix?_digits, Option.bind_some]
  split
  · next h => exact absurd h (n.digits_ne_zero _ _)
  · rfl

theorem takeMagnitude?_digits (negative : Bool) (rest : List Char) :
    takeMagnitude? negative (n.digits ++ '\x7d' :: rest) =
      some (lenientWhole negative n.magnitude, '\x7d' :: rest) := by
  rw [takeMagnitude?, takeDecimal?_digits]
  · exact fun _ => n.digits_append_ne_zero (by simp) _
  · exact fun _ => n.digits_append_ne_zero (by simp) _
  · exact fun _ => n.digits_append_ne_cons rfl _ _
  · exact fun _ => n.digits_append_ne_cons rfl _ _

theorem takeLenientNumber?_chars (rest : List Char) :
    takeLenientNumber? (n.chars ++ '\x7d' :: rest) =
      some (lenientWhole n.negative n.magnitude, '\x7d' :: rest) := by
  rw [WholeNumeral.chars]
  by_cases negative : n.negative = true
  · rw [if_pos negative, negative, List.cons_append, takeLenientNumber?, takeMagnitude?_digits]
    rfl
  · rw [if_neg negative, Bool.eq_false_iff.mpr negative, takeLenientNumber?, takeMagnitude?_digits]
    · rfl
    · exact fun _ => n.digits_append_ne_cons rfl _ _
    · exact fun _ => n.digits_append_ne_cons rfl _ _

theorem takeLenientScalar?_chars (rest : List Char) :
    takeLenientScalar? (n.chars ++ '\x7d' :: rest) =
      some (lenientWhole n.negative n.magnitude, '\x7d' :: rest) := by
  rw [takeLenientScalar?, takeLenientNumber?_chars]
  all_goals exact fun _ => n.chars_append_ne_cons rfl (by decide) _ _

theorem skip?_chars (rest : List Char) :
    skip? (' ' :: (n.chars ++ rest)) = some (n.chars ++ rest) := by
  obtain ⟨c, cs, same, -, first⟩ := n.exists_chars
  have visible : 32 < c.toNat ∧ c.toNat < 128 ∧ c ≠ '/' := by
    rcases first with rfl | digit
    · decide
    · have bounds := Number.toNat_bounds_of_isDigit digit
      exact ⟨by omega, by omega, Number.ne_of_isDigit digit rfl⟩
  rw [skip?_blank, same]
  exact skip?_cons visible _

theorem takeLenient?_chars (fuel : Nat) (rest : List Char) :
    takeLenient? (fuel + 1) (' ' :: (n.chars ++ '\x7d' :: rest)) =
      some (lenientWhole n.negative n.magnitude, '\x7d' :: rest) := by
  rw [takeLenient?, skip?_chars, ← takeLenientScalar?_chars n rest]
  simp only [Option.bind_eq_bind, Option.bind_some]
  split
  · next h => exact absurd h (n.chars_append_ne_cons rfl (by decide) _ _)
  · next h => exact absurd h (n.chars_append_ne_cons rfl (by decide) _ _)
  · rfl

theorem takeLenientMembers?_member (plain : IsPlainKey name) (fuel : Nat) (rest : List Char) :
    takeLenientMembers? (fuel + 2)
        ('"' :: (name.toList ++ '"' :: ':' :: ' ' :: (n.chars ++ '\x7d' :: rest))) =
      some ([(name, lenientWhole n.negative n.magnitude)], rest) := by
  have key : takeKey? ('"' :: (name.toList ++ '"' :: ':' :: ' ' :: (n.chars ++ '\x7d' :: rest))) =
      some (name, ':' :: ' ' :: (n.chars ++ '\x7d' :: rest)) := by
    rw [takeKey?, takeQuoted?_plain plain]
    show some (String.ofList name.toList, _) = _
    rw [String.ofList_toList]
  rw [takeLenientMembers?, skip?_cons (by decide)]
  show (takeKey? _).bind _ = _
  rw [key, Option.bind_some]
  show (skip? (':' :: ' ' :: (n.chars ++ '\x7d' :: rest))).bind _ = _
  rw [skip?_cons (by decide)]
  show (takeLenient? (fuel + 1) (' ' :: (n.chars ++ '\x7d' :: rest))).bind _ = _
  rw [takeLenient?_chars, Option.bind_some]
  show (skip? ('\x7d' :: rest)).bind _ = _
  rw [skip?_cons (by decide)]
  rfl

/-- Lenient JSON takes the line of every member. -/
theorem parseLenient?_ofMember (plain : IsPlainKey name) :
    parseLenient? (RecordLine.ofMember name n) =
      some (object [(name, lenientWhole n.negative n.magnitude)]) := by
  have taken (fuel : Nat) : takeLenient? (fuel + 3) (RecordLine.ofMember name n).toList =
      some (object [(name, lenientWhole n.negative n.magnitude)], []) := by
    rw [RecordLine.toList_ofMember, takeLenient?, skip?_cons (by decide)]
    show (takeLenientMembers? (fuel + 2) _).map _ = _
    rw [takeLenientMembers?_member n plain]
    rfl
  obtain ⟨fuel, enough⟩ := RecordLine.exists_fuel name n
  rw [parseLenient?, enough, taken]
  rfl

/-- A floating-point number without a form in JSON is null. -/
theorem ofFloat_cases (x : Number.Binary64) : ofFloat x = float x ∨ ofFloat x = null := by
  cases x with
  | nan | infinite => exact .inr rfl
  | finite => exact .inl rfl

end Json

/-! ## Values -/

namespace WholeNumeral

variable (n : WholeNumeral)

/-- What is read of a whole number in a line. Minus zero is a floating-point number too. -/
inductive IsReadAs : Json → Prop
  | integer (notMinusZero : n.negative = true → 0 < n.magnitude) : IsReadAs (.integer n.value)
  | float (x : Number.Binary64) (same : n.FitsInt64 → x.plainText = n.text) : IsReadAs (.float x)
  | null (beyond : ¬n.FitsInt64) : IsReadAs .null

/-- Strict JSON keeps a number whole that fits 64 bits with a sign or without. -/
theorem wholeNumber?_cases :
    (n.negative = true → 0 < n.magnitude) ∧
        Json.wholeNumber? n.negative n.digits = some (.integer n.value) ∨
      (n.FitsInt64 → n.negative = true ∧ n.magnitude = 0) ∧
        Json.wholeNumber? n.negative n.digits =
          (Json.floatOf? n.negative n.digits [] 0).map .float := by
  have max : Int64.maxValue.toInt = 9223372036854775807 := rfl
  have min : Int64.minValue.toInt = -9223372036854775808 := rfl
  have power : Nat.pow 2 63 = 9223372036854775808 := rfl
  have size : UInt64.size = 18446744073709551616 := rfl
  rw [Json.wholeNumber?, n.readRadix?_digits, FitsInt64, value, Number.Binary64.signed, max, min,
    power, size]
  cases n.negative with
  | false =>
    by_cases small : n.magnitude < 18446744073709551616
    · left
      simp [small]
    · right
      simp [small]
      omega
  | true =>
    by_cases small : 0 < n.magnitude ∧ n.magnitude ≤ 9223372036854775808
    · left
      simp [small]
    · right
      simp [small]
      omega

/-- Up to 64 bits strict JSON takes a whole number. -/
theorem exists_wholeNumber? (fits : n.FitsInt64) :
    ∃ member, Json.wholeNumber? n.negative n.digits = some member ∧ n.IsReadAs member := by
  rcases n.wholeNumber?_cases with ⟨notMinusZero, read⟩ | ⟨minusZero, read⟩
  · exact ⟨_, read, .integer notMinusZero⟩
  · -- the one number of 64 bits that is not kept whole is minus zero
    obtain ⟨negative, zero⟩ := minusZero fits
    have digits : n.digits = ['0'] := by
      rw [← n.toDigits_magnitude, zero]
      rfl
    have float : Json.floatOf? true ['0'] [] 0 = some (.finite true 0) := by decide +kernel
    rw [read, negative, digits, float]
    refine ⟨_, rfl, .float _ fun _ => ?_⟩
    rw [text, chars, negative, digits]
    rfl

/-- What strict JSON may take a whole number for. -/
theorem isReadAs_of_wholeNumber? {member : Json}
    (read : Json.wholeNumber? n.negative n.digits = some member) : n.IsReadAs member := by
  by_cases fits : n.FitsInt64
  · obtain ⟨other, taken, good⟩ := n.exists_wholeNumber? fits
    rw [taken] at read
    cases read
    exact good
  · rcases n.wholeNumber?_cases with ⟨notMinusZero, taken⟩ | ⟨-, taken⟩
    · rw [taken] at read
      cases read
      exact .integer notMinusZero
    · rw [taken] at read
      obtain ⟨x, -, rfl⟩ := Option.map_eq_some_iff.mp read
      exact .float x fun same => absurd same fits

/-- Lenient JSON takes a whole number beyond 64 bits, if need be as null. -/
theorem isReadAs_lenientWhole (beyond : ¬n.FitsInt64) :
    n.IsReadAs (Json.lenientWhole n.negative n.magnitude) := by
  have positive : 0 < n.magnitude := by
    have large := n.magnitude_of_not_fits beyond
    have max : Int64.maxValue.toInt = 9223372036854775807 := rfl
    omega
  have value : (if n.negative then -(n.magnitude : Int) else n.magnitude) = n.value := rfl
  simp only [Json.lenientWhole, value]
  split
  · exact .integer fun _ => positive
  · rcases Json.ofFloat_cases (.ofRatio n.negative n.magnitude 1) with float | null
    · rw [float]
      exact .float _ fun fits => absurd fits beyond
    · rw [null]
      exact .null beyond

variable {n} {member : Json} {name : String}

/-- Up to 64 bits the text of the value is the numeral. -/
theorem IsReadAs.text_of_fits (read : n.IsReadAs member) (fits : n.FitsInt64) :
    ∃ value, Value.ofJson? member = some value ∧ value.text = n.text := by
  cases read with
  | integer notMinusZero =>
    have narrow : Number.narrow? n.value = some (Int64.ofInt n.value) := if_pos fits
    refine ⟨.integer (Int64.ofInt n.value), ?_, ?_⟩
    · rw [Value.ofJson?, narrow]
    · rw [Value.text, Number.toInt_of_narrow? narrow, n.intText_value notMinusZero]
  | float x same => exact ⟨.float x, rfl, same fits⟩
  | null beyond => exact absurd fits beyond

/-- Beyond 64 bits there are only floating-point numbers. -/
theorem IsReadAs.float_of_not_fits (read : n.IsReadAs member) (beyond : ¬n.FitsInt64)
    {value : Value} (known : Value.ofJson? member = some value) : ∃ x, value = .float x := by
  cases read with
  | integer notMinusZero =>
    have wide : Number.narrow? n.value = none := if_neg beyond
    rw [Value.ofJson?, wide] at known
    cases known
    exact ⟨_, rfl⟩
  | float x same =>
    cases known
    exact ⟨x, rfl⟩
  | null beyond => cases known

/-- A line with one member has the entry of its value. -/
theorem IsReadAs.entries_ofJson (read : n.IsReadAs member) (name : String) :
    (Record.ofJson (.object [(name, member)])).entries =
      (Value.ofJson? member).toList.map fun value => (name, value) := by
  have outermost : Json.memberName "" name = name := rfl
  rw [Record.ofJson, Json.memberEntries, Json.memberEntries, List.append_nil, outermost]
  cases read <;> rw [Json.entries] <;> exact nofun

end WholeNumeral

/-- The line of a member with a whole number is a record of that member. -/
theorem RecordLine.parse_ofMember (n : WholeNumeral) {name : String} (plain : Json.IsPlainKey name)
    (line : Nat) :
    ∃ member, n.IsReadAs member ∧ parse (ofMember name n) line = .ok (.object [(name, member)]) := by
  rw [parse, Json.parseStrict?_ofMember n plain, Json.parseLenient?_ofMember n plain]
  cases read : Json.wholeNumber? n.negative n.digits with
  | some member => exact ⟨member, n.isReadAs_of_wholeNumber? read, rfl⟩
  | none =>
    -- strict JSON refuses only what floating point cannot reach, so this is no number of 64 bits
    have beyond : ¬n.FitsInt64 := by
      intro fits
      obtain ⟨member, taken, -⟩ := n.exists_wholeNumber? fits
      rw [taken] at read
      cases read
    exact ⟨_, n.isReadAs_lenientWhole beyond, rfl⟩

end EventSieve
