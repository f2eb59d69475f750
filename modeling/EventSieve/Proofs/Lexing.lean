import EventSieve.Filter.Render
import EventSieve.Filter.Token

/-!
# Tokens of written filters

A filter is written as a row of pieces: blanks, operands in quotes or without, and marks. Every
operand is read back as a single text, unless it is written in quotes and ends in a backslash,
which then takes the meaning of the closing quote away.

## Main definitions

* `Piece` — a part of a written filter
* `Closes` — an operand that ends where its closing quote is written
* `Spaced` — pieces that do not run into each other

## Main statements

* `takeQuoted?_escapeQuotes` — a quoted text that closes is read back
* `takeQuoted?_of_backslash` — the closing quote after a backslash becomes a part of the text
-/
namespace EventSieve

open EventSieve.Filter (Token TokenKind Lexeme takeQuoted? wordKind endsWord isMark byteLength)

/-! ## Quotes -/

theorem escapeQuotes_cons (c : Char) (cs : List Char) :
    escapeQuotes (c :: cs) = (if c = '"' then ['\\', '"'] else [c]) ++ escapeQuotes cs := rfl

/-- After its escapes a text is not read as a closing quote. -/
theorem head_escapeQuotes {cs : List Char} (nonempty : cs ≠ []) (rest : List Char) :
    (escapeQuotes cs ++ rest).head? ≠ some '"' := by
  obtain ⟨c, cs, rfl⟩ := List.exists_cons_of_ne_nil nonempty
  rw [escapeQuotes_cons]
  split
  · simp
  · next other => simpa using other

theorem takeQuoted?_escaped (cs : List Char) :
    takeQuoted? ('\\' :: '"' :: cs) =
      (takeQuoted? cs).map fun (text, count) => ('"' :: text, count + 2) := by
  rw [takeQuoted?]

/-- A character that neither closes nor escapes stands for itself. -/
theorem takeQuoted?_plain {c : Char} {cs : List Char} (other : c ≠ '"')
    (h : c = '\\' → cs.head? ≠ some '"') :
    takeQuoted? (c :: cs) = (takeQuoted? cs).map fun (text, count) => (c :: text, count + 1) := by
  rw [takeQuoted?, if_neg other]
  rintro rest rfl rfl
  exact h rfl rfl

/-- A text with its escapes is read up to a quote after it, unless it ends in a backslash. -/
theorem takeQuoted?_escapeQuotes {cs : List Char} (h : cs.getLast? ≠ some '\\')
    (rest : List Char) :
    takeQuoted? (escapeQuotes cs ++ '"' :: rest) = some (cs, (escapeQuotes cs).length + 1) := by
  induction cs with
  | nil => rfl
  | cons c cs ih =>
    have last : cs.getLast? ≠ some '\\' := by
      cases cs with
      | nil => simp
      | cons d cs => simpa using h
    rw [escapeQuotes_cons]
    by_cases quote : c = '"'
    · rw [if_pos quote, quote]
      show takeQuoted? ('\\' :: '"' :: (escapeQuotes cs ++ '"' :: rest)) = _
      rw [takeQuoted?_escaped, ih last]
      rfl
    · rw [if_neg quote]
      show takeQuoted? (c :: (escapeQuotes cs ++ '"' :: rest)) = _
      rw [takeQuoted?_plain quote, ih last]
      · rfl
      · rintro rfl
        refine head_escapeQuotes ?_ _
        rintro rfl
        exact h rfl

/-- A backslash at the end of a text makes the quote after it a part of the text. -/
theorem takeQuoted?_of_backslash {cs rest text : List Char} {count : Nat}
    (h : takeQuoted? (escapeQuotes (cs ++ ['\\']) ++ '"' :: rest) = some (text, count)) :
    ∃ more, text = cs ++ '"' :: more := by
  induction cs generalizing text count with
  | nil =>
    change takeQuoted? ('\\' :: '"' :: rest) = some (text, count) at h
    rw [takeQuoted?_escaped] at h
    obtain ⟨⟨more, _⟩, _, same⟩ := Option.map_eq_some_iff.mp h
    cases same
    exact ⟨more, rfl⟩
  | cons c cs ih =>
    rw [List.cons_append, escapeQuotes_cons] at h
    by_cases quote : c = '"'
    · rw [if_pos quote] at h
      change takeQuoted? ('\\' :: '"' :: (escapeQuotes (cs ++ ['\\']) ++ '"' :: rest)) =
        some (text, count) at h
      rw [takeQuoted?_escaped] at h
      obtain ⟨⟨inner, _⟩, taken, same⟩ := Option.map_eq_some_iff.mp h
      cases same
      obtain ⟨more, rfl⟩ := ih taken
      exact ⟨more, by rw [quote, List.cons_append]⟩
    · rw [if_neg quote] at h
      change takeQuoted? (c :: (escapeQuotes (cs ++ ['\\']) ++ '"' :: rest)) =
        some (text, count) at h
      rw [takeQuoted?_plain quote fun _ => head_escapeQuotes (by simp) _] at h
      obtain ⟨⟨inner, _⟩, taken, same⟩ := Option.map_eq_some_iff.mp h
      cases same
      obtain ⟨more, rfl⟩ := ih taken
      exact ⟨more, rfl⟩

/-! ## Words and marks -/

/-- What may follow a word or a mark: nothing, a blank or a parenthesis. -/
def Gap (rest : List Char) : Prop :=
  ∀ c ∈ rest.head?, c = ' ' ∨ c = '(' ∨ c = ')'

theorem Gap.nil : Gap [] := by
  intro c mem
  cases mem

theorem Gap.blank (rest : List Char) : Gap (' ' :: rest) := by
  intro c mem
  cases mem
  exact .inl rfl

theorem Gap.opening (rest : List Char) : Gap ('(' :: rest) := by
  intro c mem
  cases mem
  exact .inr (.inl rfl)

theorem Gap.closing (rest : List Char) : Gap (')' :: rest) := by
  intro c mem
  cases mem
  exact .inr (.inr rfl)

/-- What a word stops before: nothing, a blank or a mark. -/
def StopsWord (rest : List Char) : Prop :=
  ∀ c ∈ rest.head?, endsWord c = true

theorem Gap.stopsWord {rest : List Char} (h : Gap rest) : StopsWord rest := by
  intro c mem
  rcases h c mem with rfl | rfl | rfl <;> decide

/-- A word is read up to what stops it. -/
theorem takeWhile_word {word rest : List Char} (plain : word.any endsWord = false)
    (stops : StopsWord rest) : (word ++ rest).takeWhile (!endsWord ·) = word := by
  have through : ∀ c ∈ word, (!endsWord c) = true := by
    intro c mem
    simpa using List.any_eq_false.mp plain c mem
  rw [List.takeWhile_append_of_pos through]
  cases rest with
  | nil => rw [List.takeWhile_nil, List.append_nil]
  | cons c rest => rw [List.takeWhile_cons, stops c rfl]; exact List.append_nil word

/-- A character that ends no word begins one. -/
theorem first_word {c : Char} (plain : endsWord c = false) (rest : List Char) (position : Nat) :
    Lexeme.first c rest position =
      .ok (.plain (wordKind (c :: rest.takeWhile (!endsWord ·)))
        (c :: rest.takeWhile (!endsWord ·))) := by
  have noMark : isMark c = false := (Bool.or_eq_false_iff.mp plain).2
  simp only [isMark, Bool.or_eq_false_iff, beq_eq_false_iff_ne] at noMark
  obtain ⟨⟨⟨⟨⟨⟨⟨⟨h1, h2⟩, h3⟩, h4⟩, h5⟩, h6⟩, h7⟩, h8⟩, h9⟩ := noMark
  simp only [Lexeme.first, h1, h2, h3, h4, h5, h6, h7, h8, h9, or_self, if_false]

/-- Characters that are read as one lexeme with their own text before some others. -/
def IsMark (kind : TokenKind) (text rest : List Char) : Prop :=
  ∃ c body, text = c :: body ∧ Text.isBlank c = false ∧
    ∀ position, Lexeme.first c (body ++ rest) position = .ok (.plain kind text)

section Marks

variable {rest : List Char}

theorem isMark_word {word : List Char} {kind : TokenKind} (isKind : wordKind word = kind)
    (nonempty : word ≠ []) (plain : word.any endsWord = false) (stops : StopsWord rest) :
    IsMark kind word rest := by
  obtain ⟨c, body, rfl⟩ := List.exists_cons_of_ne_nil nonempty
  rw [List.any_cons, Bool.or_eq_false_iff] at plain
  obtain ⟨first, later⟩ := plain
  refine ⟨c, body, rfl, (Bool.or_eq_false_iff.mp first).1, fun position => ?_⟩
  rw [first_word first, takeWhile_word later stops, isKind]

/-- The kind of the token of an operator. -/
def Operator.kind : Operator → TokenKind
  | present => .present
  | _ => .operator

theorem Operator.kind_eq (operator : Operator) :
    operator.kind = if operator.takesValue then .operator else .present := by
  cases operator <;> rfl

theorem Operator.kind_ne_text (operator : Operator) : operator.kind ≠ .text := by
  cases operator <;> decide

theorem isMark_operator (operator : Operator) (stops : StopsWord rest) :
    IsMark operator.kind operator.token.toList rest := by
  cases operator with
  | equals => exact ⟨'=', ['='], rfl, rfl, fun _ => rfl⟩
  | notEquals => exact ⟨'!', ['='], rfl, rfl, fun _ => rfl⟩
  | «matches» => exact isMark_word rfl (by decide) rfl stops
  | contains => exact isMark_word rfl (by decide) rfl stops
  | present => exact isMark_word rfl (by decide) rfl stops
  | greaterThan => exact ⟨'>', [], rfl, rfl, fun _ => rfl⟩
  | lessThan => exact ⟨'<', [], rfl, rfl, fun _ => rfl⟩

theorem isMark_connective (connective : Connective) :
    IsMark .separator connective.token.toList rest := by
  cases connective with
  | and => exact ⟨'&', ['&'], rfl, rfl, fun _ => rfl⟩
  | or => exact ⟨'|', ['|'], rfl, rfl, fun _ => rfl⟩

theorem isMark_opening : IsMark .opening ['('] rest :=
  ⟨'(', [], rfl, rfl, fun _ => rfl⟩

theorem isMark_closing : IsMark .closing [')'] rest :=
  ⟨')', [], rfl, rfl, fun _ => rfl⟩

theorem isMark_negate (gap : Gap rest) : IsMark .negate ['!'] rest := by
  refine ⟨'!', [], rfl, rfl, fun position => ?_⟩
  have other : rest.head? ≠ some '=' := fun h => by
    rcases gap '=' h with h | h | h <;> cases h
  show (if rest.head? = some '=' then _ else _) = _
  rw [if_neg other]

end Marks

/-! ## Pieces -/

/-- A part of a written filter. -/
inductive Piece where
  | blank
  | operand (text : List Char)
  | mark (kind : TokenKind) (text : List Char)

/-- The characters that an operand is read back as. -/
def operandToken (text : List Char) : List Char :=
  if isBare text then text else '"' :: (text ++ ['"'])

namespace Piece

/-- How a piece is written. -/
def chars : Piece → List Char
  | blank => [' ']
  | operand text => quotedChars text
  | mark _ text => text

/-- The kind and the text of the token of a piece. -/
def token? : Piece → Option (TokenKind × String)
  | blank => none
  | operand text => some (.text, String.ofList (operandToken text))
  | mark kind text => some (kind, String.ofList text)

end Piece

/-- The kind and the text of a token, wherever it stands. -/
def Filter.Token.shape (token : Token) : TokenKind × String :=
  (token.kind, token.text)

/-- How pieces are written. -/
def written (pieces : List Piece) : List Char :=
  pieces.flatMap Piece.chars

theorem written_append (one other : List Piece) :
    written (one ++ other) = written one ++ written other :=
  List.flatMap_append

theorem written_cons (piece : Piece) (rest : List Piece) :
    written (piece :: rest) = piece.chars ++ written rest := rfl

/-- The kinds and the texts of the tokens of pieces. -/
def shapes (pieces : List Piece) : List (TokenKind × String) :=
  pieces.filterMap Piece.token?

@[simp] theorem shapes_nil : shapes [] = [] := rfl

@[simp] theorem shapes_blank (rest : List Piece) : shapes (.blank :: rest) = shapes rest := rfl

@[simp] theorem shapes_operand (text : List Char) (rest : List Piece) :
    shapes (.operand text :: rest) =
      (.text, String.ofList (operandToken text)) :: shapes rest := rfl

@[simp] theorem shapes_mark (kind : TokenKind) (text : List Char) (rest : List Piece) :
    shapes (.mark kind text :: rest) = (kind, String.ofList text) :: shapes rest := rfl

theorem shapes_append (one other : List Piece) :
    shapes (one ++ other) = shapes one ++ shapes other :=
  List.filterMap_append

/-- Pieces that do not run into each other. -/
inductive Spaced : List Piece → Prop
  | nil : Spaced []
  | blank {rest : List Piece} (later : Spaced rest) : Spaced (.blank :: rest)
  | operand {text : List Char} {rest : List Piece} (gap : Gap (written rest))
      (later : Spaced rest) : Spaced (.operand text :: rest)
  | mark {kind : TokenKind} {text : List Char} {rest : List Piece} (notText : kind ≠ .text)
      (isMark : IsMark kind text (written rest)) (later : Spaced rest) :
      Spaced (.mark kind text :: rest)

/-- An operand whose closing quote is no escape. -/
def Closes (text : List Char) : Prop :=
  isBare text = false → text.getLast? ≠ some '\\'

instance (text : List Char) : Decidable (Closes text) :=
  inferInstanceAs (Decidable (_ → _))

/-! ## Scanning -/

open EventSieve.Filter.Token (scanFrom)

theorem scanFrom_nil (position : Nat) : scanFrom position [] = .ok [] := by
  rw [scanFrom.eq_def]

theorem scanFrom_of_blank {c : Char} (blank : Text.isBlank c = true) (position : Nat)
    (rest : List Char) :
    scanFrom position (c :: rest) = scanFrom (position + c.utf8Size) rest := by
  rw [scanFrom.eq_def]
  simp only [blank, if_true]

theorem scanFrom_of_error {c : Char} {rest : List Char} {position : Nat} {fault : FilterError}
    (visible : Text.isBlank c = false) (failed : Lexeme.first c rest position = .error fault) :
    scanFrom position (c :: rest) = .error fault := by
  rw [scanFrom.eq_def]
  simp only [visible, Bool.false_eq_true, if_false, failed]

theorem scanFrom_of_ok {c : Char} {rest : List Char} {position : Nat} {lexeme : Lexeme}
    (visible : Text.isBlank c = false) (found : Lexeme.first c rest position = .ok lexeme) :
    scanFrom position (c :: rest) =
      (scanFrom (position + byteLength lexeme.source) (rest.drop (lexeme.source.length - 1))).map
        (⟨lexeme.kind, String.ofList lexeme.text, position⟩ :: ·) := by
  rw [scanFrom.eq_def]
  simp only [visible, Bool.false_eq_true, if_false, found]

theorem scanFrom_blank (position : Nat) (rest : List Char) :
    scanFrom position (' ' :: rest) = scanFrom (position + 1) rest :=
  scanFrom_of_blank rfl position rest

/-- A lexeme at the start becomes the first token. -/
theorem scanFrom_lexeme {c : Char} {body rest : List Char} {position : Nat} {kind : TokenKind}
    {text : List Char} (visible : Text.isBlank c = false)
    (first : Lexeme.first c (body ++ rest) position = .ok ⟨kind, text, c :: body⟩) :
    scanFrom position (c :: body ++ rest) =
      (scanFrom (position + byteLength (c :: body)) rest).map
        (⟨kind, String.ofList text, position⟩ :: ·) := by
  rw [List.cons_append, scanFrom_of_ok visible first, List.length_cons, Nat.add_sub_cancel,
    List.drop_left]

theorem scanFrom_mark {kind : TokenKind} {text rest : List Char} (h : IsMark kind text rest)
    (position : Nat) :
    scanFrom position (text ++ rest) =
      (scanFrom (position + byteLength text) rest).map
        (⟨kind, String.ofList text, position⟩ :: ·) := by
  obtain ⟨c, body, rfl, visible, first⟩ := h
  exact scanFrom_lexeme visible (first position)

/-- The operands without quotes are the words that are texts: what is quoted is what tokens set
apart. -/
theorem isBare_eq (cs : List Char) :
    isBare cs = (!cs.isEmpty && wordKind cs == .text && !cs.any endsWord) := by
  have word : (!quotedWords.contains cs) = (wordKind cs == .text) := by
    by_cases operator : cs = "matches".toList ∨ cs = "contains".toList
    · rw [wordKind, if_pos operator]
      rcases operator with rfl | rfl <;> rfl
    · by_cases present : cs = "present".toList
      · subst present
        rfl
      · rw [wordKind, if_neg operator, if_neg present]
        rw [not_or] at operator
        simpa [quotedWords] using ⟨operator.1, operator.2, present⟩
  have mark (c : Char) : (Text.isBlank c || quotedMarks.contains c) = endsWord c := by
    rw [Bool.eq_iff_iff]
    simp [endsWord, isMark, quotedMarks, or_assoc]
  simp only [isBare, word, mark]

/-- An operand without quotes is a word. -/
theorem isMark_of_isBare {text rest : List Char} (bare : isBare text = true)
    (stops : StopsWord rest) :
    IsMark .text text rest := by
  simp only [isBare_eq, Bool.and_eq_true, Bool.not_eq_true', List.isEmpty_eq_false_iff,
    beq_iff_eq] at bare
  obtain ⟨⟨nonempty, isText⟩, plain⟩ := bare
  exact isMark_word isText nonempty plain stops

/-- An operand in quotes, read up to some closing quote. -/
theorem scanFrom_quoted {text inner rest : List Char} {count : Nat}
    (taken : takeQuoted? (text ++ rest) = some (inner, count)) (length : count = text.length)
    (position : Nat) :
    scanFrom position ('"' :: text ++ rest) =
      (scanFrom (position + byteLength ('"' :: text)) rest).map
        (⟨.text, String.ofList ('"' :: (inner ++ ['"'])), position⟩ :: ·) := by
  refine scanFrom_lexeme rfl ?_
  show Lexeme.quoted (text ++ rest) position = _
  rw [Lexeme.quoted, taken, length]
  simp only [List.take_left]

/-- An operand that closes is read as one text. -/
theorem scanFrom_operand {text rest : List Char} (h : Closes text) (gap : Gap rest)
    (position : Nat) :
    scanFrom position (quotedChars text ++ rest) =
      (scanFrom (position + byteLength (quotedChars text)) rest).map
        (⟨.text, String.ofList (operandToken text), position⟩ :: ·) := by
  by_cases bare : isBare text = true
  · rw [quotedChars, operandToken, if_pos bare, if_pos bare]
    exact scanFrom_mark (isMark_of_isBare bare gap.stopsWord) position
  · rw [quotedChars, operandToken, if_neg bare, if_neg bare]
    refine scanFrom_quoted ?_ List.length_append.symm position
    rw [List.append_assoc, List.singleton_append]
    exact takeQuoted?_escapeQuotes (h (Bool.eq_false_iff.mpr bare)) rest

/-- The tokens of spaced pieces whose operands close. -/
theorem Spaced.scan {pieces : List Piece} (h : Spaced pieces)
    (closes : ∀ text, .operand text ∈ pieces → Closes text) (position : Nat) :
    ∃ tokens, scanFrom position (written pieces) = .ok tokens ∧
      tokens.map Token.shape = shapes pieces := by
  induction h generalizing position with
  | nil => exact ⟨[], by rw [written, List.flatMap_nil, scanFrom.eq_def], rfl⟩
  | blank later ih =>
    obtain ⟨tokens, scanned, shapes⟩ := ih (fun text mem => closes text (.tail _ mem))
      (position + 1)
    exact ⟨tokens, (scanFrom_blank position _).trans scanned, shapes⟩
  | @operand text rest gap later ih =>
    obtain ⟨tokens, scanned, shapes⟩ := ih (fun text mem => closes text (.tail _ mem))
      (position + byteLength (quotedChars text))
    refine ⟨⟨.text, String.ofList (operandToken text), position⟩ :: tokens, ?_, ?_⟩
    · rw [written_cons, Piece.chars, scanFrom_operand (closes text List.mem_cons_self) gap, scanned]
      rfl
    · rw [List.map_cons, shapes]
      rfl
  | @mark kind text rest notText isMark later ih =>
    obtain ⟨tokens, scanned, shapes⟩ := ih (fun text mem => closes text (.tail _ mem))
      (position + byteLength text)
    refine ⟨⟨kind, String.ofList text, position⟩ :: tokens, ?_, ?_⟩
    · rw [written_cons, Piece.chars, scanFrom_mark isMark, scanned]
      rfl
    · rw [List.map_cons, shapes]
      rfl

end EventSieve
