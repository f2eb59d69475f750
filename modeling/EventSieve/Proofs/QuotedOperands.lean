import EventSieve.Proofs.Lexing
import EventSieve.Proofs.Operands

/-!
# Quoting undone by the scanner

Quoting an operand is undone by scanning it and taking its quotes off, for every operand that is a
plain word or does not end in a backslash. Behind any other operand the closing quote is read as an
escaped one, and the quoted text has no end.

## Main definitions

* `IsPlainWord` — a text that needs no quotes

## Main statements

* `isBare_iff` — operands are written without quotes exactly if they are plain words
* `takeQuoted?_unclosed` — a backslash at the end takes the closing quote away
* `scan_quoted_iff` — which quoted operands are read back, and what becomes of the others
-/
namespace EventSieve

open EventSieve.Filter (Token Lexeme endsWord isMark takeQuoted?)

/-- A text that needs no quotes: it is not empty, no keyword, and free of blanks and of characters
with a meaning of their own. -/
structure IsPlainWord (text : String) : Prop where
  nonempty : text ≠ ""
  noKeyword : text ∉ ["matches", "contains", "present"]
  noBlank : ∀ c ∈ text.toList, Text.isBlank c = false
  noMark : ∀ c ∈ text.toList, c ∉ ['(', ')', '"', '!', '=', '<', '>', '&', '|']

variable {text : String}

/-! ## Plain words -/

theorem toList_mem_quotedWords :
    text.toList ∈ quotedWords ↔ text ∈ ["matches", "contains", "present"] := by
  simp only [quotedWords, List.mem_cons, List.not_mem_nil, or_false, String.toList_inj]

/-- An operand is written without quotes exactly if it is a plain word. -/
theorem isBare_iff : isBare text.toList = true ↔ IsPlainWord text := by
  simp only [isBare, Bool.and_eq_true, Bool.not_eq_true', List.isEmpty_eq_false_iff, ne_eq,
    String.toList_eq_nil_iff, List.contains_eq_mem, decide_eq_false_iff_not, toList_mem_quotedWords,
    List.any_eq_false, Bool.or_eq_true, decide_eq_true_eq, not_or, Bool.not_eq_true]
  constructor
  · rintro ⟨⟨nonempty, noKeyword⟩, plain⟩
    exact ⟨nonempty, noKeyword, fun c mem => (plain c mem).1, fun c mem => (plain c mem).2⟩
  · intro h
    exact ⟨⟨h.nonempty, h.noKeyword⟩, fun c mem => ⟨h.noBlank c mem, h.noMark c mem⟩⟩

/-- An operand closes if it is a plain word or does not end in a backslash. -/
theorem closes_iff :
    Closes text.toList ↔ IsPlainWord text ∨ text.toList.getLast? ≠ some '\\' := by
  rw [Closes, ← isBare_iff]
  cases isBare text.toList <;> simp

/-! ## Operands that are read back -/

/-- Without its quotes the token of an operand is the operand. -/
theorem unquoteChars_operandToken (cs : List Char) : unquoteChars (operandToken cs) = cs := by
  rw [operandToken]
  by_cases bare : isBare cs = true
  · rw [if_pos bare]
    refine unquoteChars_of_head fun quote => ?_
    obtain ⟨rest, rfl⟩ := List.head?_eq_some_iff.mp quote
    -- a quote ends words, so that no word begins with one
    simp [isBare_eq, endsWord, isMark] at bare
  · rw [if_neg bare, unquoteChars_quoted]

/-- An operand that closes is scanned as one text. -/
theorem scan_quoted_of_closes (closes : Closes text.toList) :
    Token.scan (quoted text) = .ok [⟨.text, String.ofList (operandToken text.toList), 0⟩] := by
  have read := scanFrom_operand closes .nil 0
  rw [List.append_nil, scanFrom_nil] at read
  rw [Token.scan, quoted, String.toList_ofList, read]
  rfl

/-! ## Operands without an end -/

/-- A backslash at the end of an operand takes the closing quote away, and nothing else closes it. -/
theorem takeQuoted?_unclosed (cs : List Char) :
    takeQuoted? (escapeQuotes (cs ++ ['\\']) ++ ['"']) = none := by
  induction cs with
  | nil => rfl
  | cons c cs ih =>
    rw [List.cons_append, escapeQuotes_cons]
    by_cases quote : c = '"'
    · rw [if_pos quote]
      simp [takeQuoted?_escaped, ih]
    · rw [if_neg quote, List.append_assoc, List.singleton_append,
        takeQuoted?_plain quote fun _ => head_escapeQuotes (by simp) _, ih, Option.map_none]

/-- An operand that does not close is a quoted text without an end. -/
theorem scan_quoted_of_not_closes (unclosed : ¬Closes text.toList) :
    Token.scan (quoted text) = .error (.unterminatedQuote 0) := by
  simp only [Closes, Classical.not_imp, not_not] at unclosed
  obtain ⟨noWord, backslash⟩ := unclosed
  obtain ⟨cs, ends⟩ := List.getLast?_eq_some_iff.mp backslash
  have noEnd : takeQuoted? (escapeQuotes text.toList ++ ['"']) = none := by
    rw [ends]
    exact takeQuoted?_unclosed cs
  have failed : Lexeme.first '"' (escapeQuotes text.toList ++ ['"']) 0 =
      .error (.unterminatedQuote 0) := by
    simp [Lexeme.first, Lexeme.quoted, noEnd]
  rw [Token.scan, quoted, String.toList_ofList, quotedChars, noWord]
  exact scanFrom_of_error rfl failed

/-! ## Both -/

/-- A quoted operand is scanned as one text that is the operand without its quotes, exactly if it is
a plain word or does not end in a backslash. Any other is a quoted text without an end. -/
theorem scan_quoted_iff (text : String) :
    ((∃ token, Token.scan (quoted text) = .ok [token] ∧ token.kind = .text ∧
        unquoteChars token.text.toList = text.toList) ↔
      IsPlainWord text ∨ text.toList.getLast? ≠ some '\\') ∧
    (Token.scan (quoted text) = .error (.unterminatedQuote 0) ↔
      ¬(IsPlainWord text ∨ text.toList.getLast? ≠ some '\\')) := by
  rw [← closes_iff]
  by_cases closes : Closes text.toList
  · have scanned := scan_quoted_of_closes closes
    refine ⟨iff_of_true ⟨_, scanned, rfl, ?_⟩ closes, iff_of_false ?_ (not_not_intro closes)⟩
    · rw [String.toList_ofList, unquoteChars_operandToken]
    · simp [scanned]
  · have failed := scan_quoted_of_not_closes closes
    refine ⟨iff_of_false ?_ closes, iff_of_true failed closes⟩
    simp [failed]

/-- A word may end in a backslash. Two words in quotes may hold one before a quote, but not at their
end. -/
theorem scan_quoted_iff_backslash :
    (∃ token, Token.scan (quoted "dir\\") = .ok [token] ∧ token.kind = .text ∧
      unquoteChars token.text.toList = "dir\\".toList) ∧
    (∃ token, Token.scan (quoted "a \\\"dir") = .ok [token] ∧ token.kind = .text ∧
      unquoteChars token.text.toList = "a \\\"dir".toList) ∧
    Token.scan (quoted "a dir\\") = .error (.unterminatedQuote 0) := by
  refine ⟨(scan_quoted_iff _).1.mpr ?_, (scan_quoted_iff _).1.mpr ?_, (scan_quoted_iff _).2.mpr ?_⟩
  · exact .inl (isBare_iff.mp (by decide +kernel))
  · exact .inr (by decide +kernel)
  · rw [← closes_iff]
    decide +kernel

end EventSieve
