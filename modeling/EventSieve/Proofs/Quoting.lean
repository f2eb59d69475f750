import EventSieve.Proofs.Writing

/-!
# Values in quotes

A comparison of a plain field and a value in quotes is read as one comparison, however it is
spaced. The quotes keep blanks and marks inside the value, and a backslash before every quote of
the value keeps that quote. Blanks at the ends of the value are lost with those around the operand:
the value is kept exactly if it has none.

## Main definitions

* `Operator.SetApart` — blanks that set an operator apart from its operands
* `Comparison.inQuotes` — the text of a comparison with its value in quotes

## Main statements

* `Comparison.scan_inQuotes` — the tokens of such a text
* `Filter.compile?_inQuotes` — the comparison that such a text is read as
* `Filter.compile?_inQuotes_iff` — the value is read as it is exactly if it has no blanks at its ends
-/
namespace EventSieve

open EventSieve.Filter (Token TokenKind Phrase isMark endsWord byteLength)
open EventSieve.Filter.Phrase (group ReadsOperand ReadsExpression ReadsExpressions)
open EventSieve.Filter.Token (scanFrom)

/-! ## Texts with a value in quotes -/

/-- Blanks before and after an operator. Before a word there has to be one. -/
structure Operator.SetApart (operator : Operator) (before after : String) : Prop where
  blank_before : ∀ c ∈ before.toList, Text.isBlank c = true
  blank_after : ∀ c ∈ after.toList, Text.isBlank c = true
  marks : before = "" → operator.token.toList.any isMark = true

instance (operator : Operator) (before after : String) :
    Decidable (operator.SetApart before after) :=
  haveI : ∀ text : String, Decidable (∀ c ∈ text.toList, Text.isBlank c = true) :=
    fun text => List.decidableBAll _ text.toList
  decidable_of_iff ((∀ c ∈ before.toList, Text.isBlank c = true) ∧
      (∀ c ∈ after.toList, Text.isBlank c = true) ∧
      (before = "" → operator.token.toList.any isMark = true))
    ⟨fun ⟨h1, h2, h3⟩ => ⟨h1, h2, h3⟩, fun ⟨h1, h2, h3⟩ => ⟨h1, h2, h3⟩⟩

/-- A field, an operator between blanks, and a value in quotes. -/
def Comparison.inQuotes (field : String) (operator : Operator) (value before after : String) :
    String :=
  field ++ before ++ operator.token ++ after ++
    "\"" ++ String.ofList (escapeQuotes value.toList) ++ "\""

/-! ## Tokens -/

/-- Blanks before a token are passed over. -/
theorem scanFrom_blanks {blanks : List Char} (blank : ∀ c ∈ blanks, Text.isBlank c = true)
    (position : Nat) (rest : List Char) :
    scanFrom position (blanks ++ rest) = scanFrom (position + byteLength blanks) rest := by
  induction blanks generalizing position with
  | nil => rfl
  | cons c blanks ih =>
    rw [List.cons_append, scanFrom_of_blank (blank c List.mem_cons_self),
      ih fun d mem => blank d (List.mem_cons_of_mem _ mem), byteLength, Nat.add_assoc]

theorem StopsWord.blanks {blanks rest : List Char}
    (blank : ∀ c ∈ blanks, Text.isBlank c = true) (stops : blanks = [] → StopsWord rest) :
    StopsWord (blanks ++ rest) := by
  cases blanks with
  | nil => exact stops rfl
  | cons c blanks =>
    intro d mem
    cases mem
    rw [endsWord, blank c List.mem_cons_self, Bool.true_or]

/-- The token of an operator without letters stops a word. -/
theorem Operator.stopsWord_token {operator : Operator}
    (marks : operator.token.toList.any isMark = true) (rest : List Char) :
    StopsWord (operator.token.toList ++ rest) := by
  cases operator with
  | equals | notEquals | greaterThan | lessThan =>
    intro c mem
    cases mem
    rfl
  | «matches» | contains | present => cases marks

namespace Comparison

variable {field value before after : String} {operator : Operator}

/-- The tokens of a comparison with its value in quotes. -/
theorem scan_inQuotes (bare : isBare field.toList = true) (apart : operator.SetApart before after)
    (closes : value.toList.getLast? ≠ some '\\') :
    ∃ one two three, Token.scan (inQuotes field operator value before after) =
        .ok [⟨.text, field, one⟩, ⟨operator.kind, operator.token, two⟩,
          ⟨.text, String.ofList ('"' :: (value.toList ++ ['"'])), three⟩] := by
  let last : List Char := '"' :: (escapeQuotes value.toList ++ ['"'])
  have chars : (inQuotes field operator value before after).toList =
      field.toList ++ (before.toList ++ (operator.token.toList ++ (after.toList ++ last))) := by
    simp [inQuotes, last]
  have quote : StopsWord last := by
    intro c mem
    cases mem
    rfl
  have afterOperator : StopsWord (after.toList ++ last) :=
    .blanks apart.blank_after fun _ => quote
  have afterField :
      StopsWord (before.toList ++ (operator.token.toList ++ (after.toList ++ last))) :=
    .blanks apart.blank_before fun empty =>
      Operator.stopsWord_token (apart.marks (String.toList_eq_nil_iff.mp empty)) _
  have ends (position : Nat) : scanFrom position last =
      .ok [⟨.text, String.ofList ('"' :: (value.toList ++ ['"'])), position⟩] := by
    have taken := takeQuoted?_escapeQuotes closes []
    rw [← List.append_nil (escapeQuotes value.toList ++ ['"'])] at taken
    have quoted := scanFrom_quoted taken (by rw [List.length_append]; rfl) position
    rw [List.append_nil] at quoted
    rw [quoted, scanFrom.eq_def]
    rfl
  refine ⟨0, byteLength field.toList + byteLength before.toList,
    byteLength field.toList + byteLength before.toList + byteLength operator.token.toList +
      byteLength after.toList, ?_⟩
  rw [Token.scan, chars, scanFrom_mark (isMark_of_isBare bare afterField),
    scanFrom_blanks apart.blank_before, scanFrom_mark (isMark_operator operator afterOperator),
    scanFrom_blanks apart.blank_after, ends]
  simp only [Except.map, String.ofList_toList, Nat.zero_add]

end Comparison

/-! ## Meaning -/

/-- An operand without quotes is its own token. -/
theorem operandPhrase_of_isBare {text : String} (bare : isBare text.toList = true) :
    operandPhrase text = .token .text text := by
  rw [operandPhrase, operandToken, if_pos bare, String.ofList_toList]

theorem Text.trim_of_isBare {text : String} (bare : isBare text.toList = true) :
    trim text = text := by
  rw [trim_eq_self_iff, trimChars_of_all (isBlank_of_isBare bare)]

/-- A text in quotes spells what is left of it without the blanks at its ends. -/
theorem joinTexts?_quoted (cs : List Char) :
    joinTexts? [.token .text (String.ofList ('"' :: (cs ++ ['"'])))] =
      some (String.ofList (Text.trimChars cs)) := by
  show some (String.ofList (Text.trimChars (joinWords
    [unquote (String.ofList ('"' :: (cs ++ ['"'])))]))) = _
  rw [unquote_quoted, joinWords]

namespace Filter

variable {field value before after : String} {operator : Operator}

/-- A text that is one operand has the comparison of this operand. -/
theorem compile?_of_operand {text : String} {tokens : List Token} {phrase : Phrase}
    {comparison : Comparison} (scanned : Token.scan text = .ok tokens)
    (reads : ReadsOperand tokens phrase []) (meant : Comparison.ofPhrase? phrase = some comparison) :
    compile? text = some { clauses := [{ left := comparison }] } := by
  have expressions := ReadsExpressions.cons (.single reads (by simp)) .nil
  have parsed : Phrase.parse text = .ok (group .root [group .expression [phrase]]) := by
    rw [Phrase.parse, scanned]
    refine Phrase.ofTokens_eq_ok_iff.mpr ⟨?_, _, expressions, rfl⟩
    obtain ⟨token, more, rfl, -⟩ := reads.head
    exact List.cons_ne_nil token more
  rw [compile?, parsed]
  refine ofPhrase?_eq_some_iff.mpr ⟨List.cons_ne_nil _ [], ?_, rfl⟩
  exact congrArg ([·]) (Clause.ofOperands?_single meant)

/-- A comparison with its value in quotes is read as one comparison, with the value that is left
without the blanks at its ends. -/
theorem compile?_inQuotes (bare : isBare field.toList = true)
    (takesValue : operator.takesValue = true) (apart : operator.SetApart before after)
    (closes : value.toList.getLast? ≠ some '\\') :
    compile? (Comparison.inQuotes field operator value before after) =
      some { clauses := [{ left := { field, operator, value := some (Text.trim value) } }] } := by
  obtain ⟨one, two, three, scanned⟩ := Comparison.scan_inQuotes bare apart closes
  have isOperator : operator.kind = .operator := by
    rw [operator.kind_eq, if_pos takesValue]
  let quoted := String.ofList ('"' :: (value.toList ++ ['"']))
  have reads : ReadsOperand ([⟨.text, field, one⟩] ++ [⟨operator.kind, operator.token, two⟩,
      ⟨.text, quoted, three⟩]) _ [] :=
    .operation (texts_singleton rfl) isOperator rfl
  refine compile?_of_operand scanned reads ?_
  have read := Comparison.ofOperation?_operand (Text.trim_of_isBare bare) operator
    [.token .text quoted]
  rw [operandPhrase_of_isBare bare, if_pos takesValue, joinTexts?_quoted] at read
  exact read

/-- A value in quotes is read as it is exactly if it has no blanks at its ends. -/
theorem compile?_inQuotes_iff (bare : isBare field.toList = true)
    (takesValue : operator.takesValue = true) (apart : operator.SetApart before after)
    (closes : value.toList.getLast? ≠ some '\\') :
    compile? (Comparison.inQuotes field operator value before after) =
        some { clauses := [{ left := { field, operator, value := some value } }] } ↔
      Text.trim value = value := by
  rw [compile?_inQuotes bare takesValue apart closes]
  simp

/-- A value with quotes, a backslash and blanks inside, right after a word. -/
theorem compile?_inQuotes_iff_inside :
    let text := Comparison.inQuotes "msg" .contains "say \"hi\" \\d" " " ""
    text = "msg contains\"say \\\"hi\\\" \\d\"" ∧ compile? text =
      some { clauses := [
        { left := { field := "msg", operator := .contains, value := some "say \"hi\" \\d" } }] } := by
  intro text
  refine ⟨by decide +kernel, (compile?_inQuotes_iff ?_ rfl ?_ ?_).mpr ?_⟩ <;> decide +kernel

/-- A blank at the start of a value is lost. -/
theorem compile?_inQuotes_ne :
    let text := Comparison.inQuotes "a" .equals " x" " " " "
    text = "a == \" x\"" ∧
      compile? text ≠
        some { clauses := [{ left := { field := "a", operator := .equals, value := some " x" } }] } ∧
      compile? text =
        some { clauses := [{ left := { field := "a", operator := .equals, value := some "x" } }] } := by
  decide +kernel

end Filter
end EventSieve
