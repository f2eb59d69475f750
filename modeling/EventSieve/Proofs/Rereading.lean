import EventSieve.Proofs.Keeping

/-!
# Which filters are read back

A filter that comes from a text is not always read back from its own text: a closing quote may
turn into a part of the operand before it, an empty pattern means nothing, and a pattern takes the
first text of the next clause for its own. Nothing else makes up for this, since the ink and the
number of the texts would differ.

## Main definitions

* `pieceInk` — the ink of the operands among pieces

## Main statements

* `Spaced.scan_of_open` — the tokens of pieces with an operand that does not close
* `Clause.textsIn_lt_of_pattern` — a pattern that takes the text after its clause for its own
* `Filter.isSafe_of_compile?` — a filter that is read back is safe
* `Filter.compile?_text_iff` — a filter from a text is read back exactly if it is safe
-/
namespace EventSieve

open EventSieve.Filter (Token TokenKind Lexeme Phrase headKind? takeQuoted?)
open EventSieve.Filter.Phrase (ReadsOperand ReadsExpression ReadsExpressions)
open EventSieve.Filter.Token (scanFrom)

/-! ## Operands that do not close -/

/-- The ink of the operands among some pieces. -/
def pieceInk (pieces : List Piece) : List Char :=
  pieces.flatMap fun
    | .operand text => ink text
    | _ => []

theorem Filter.exists_of_map_eq_ok {α β : Type} {result : Except FilterError α} {f : α → β} {b : β}
    (h : result.map f = .ok b) : ∃ a, result = .ok a ∧ f a = b := by
  cases result with
  | error fault => cases h
  | ok a => exact ⟨a, rfl, Except.ok.inj h⟩

/-- A quote begins a text, if the text ends at all. -/
theorem scanFrom_quote {cs : List Char} {tokens : List Token} {position : Nat}
    (h : scanFrom position ('"' :: cs) = .ok tokens) :
    ∃ inner count later, takeQuoted? cs = some (inner, count) ∧
      tokens = ⟨.text, String.ofList ('"' :: (inner ++ ['"'])), position⟩ :: later := by
  have quote : Text.isBlank '"' = false := rfl
  cases first : Lexeme.first '"' cs position with
  | error fault =>
    rw [scanFrom_of_error quote first] at h
    cases h
  | ok lexeme =>
    rw [scanFrom_of_ok quote first] at h
    change Lexeme.quoted cs position = .ok lexeme at first
    rw [Lexeme.quoted] at first
    split at first
    · next inner count taken =>
      cases first
      obtain ⟨later, -, rfl⟩ := Filter.exists_of_map_eq_ok h
      exact ⟨inner, count, later, taken, rfl⟩
    · cases first

/-- An operand that does not close is read as a text with a quote for the backslash at its end. -/
theorem tokenInk_of_open {text rest : List Char} {tokens : List Token} {position : Nat}
    (remains : ¬Closes text) (h : scanFrom position (quotedChars text ++ rest) = .ok tokens) :
    ∃ start after, text = start ++ ['\\'] ∧ tokenInk tokens = ink start ++ '"' :: after := by
  rw [Closes, Classical.not_imp, not_not] at remains
  obtain ⟨bare, last⟩ := remains
  obtain ⟨start, rfl⟩ := List.getLast?_eq_some_iff.mp last
  rw [quotedChars, bare] at h
  simp only [Bool.false_eq_true, if_false, List.cons_append, List.append_assoc,
    List.nil_append] at h
  obtain ⟨inner, count, later, taken, rfl⟩ := scanFrom_quote h
  obtain ⟨more, rfl⟩ := takeQuoted?_of_backslash taken
  refine ⟨start, ink more ++ tokenInk later, rfl, ?_⟩
  rw [tokenInk_cons, if_pos rfl, Filter.Phrase.ink]
  show ink (unquote (String.ofList _)) ++ _ = _
  rw [unquote_quoted, ink_append, List.append_assoc]
  rfl

/-- If some operand does not close, the tokens differ from the operands in the first such operand,
where a quote stands for its last character. -/
theorem Spaced.scan_of_open {pieces : List Piece} {tokens : List Token} {position : Nat}
    (h : Spaced pieces) (remains : ∃ text, .operand text ∈ pieces ∧ ¬Closes text)
    (scanned : scanFrom position (written pieces) = .ok tokens) :
    ∃ front back after, pieceInk pieces = front ++ '\\' :: back ∧
      tokenInk tokens = front ++ '"' :: after := by
  induction h generalizing position tokens with
  | nil =>
    obtain ⟨text, mem, -⟩ := remains
    cases mem
  | blank later ih =>
    rw [written_cons, Piece.chars, List.singleton_append, scanFrom_blank] at scanned
    exact ih (by simpa using remains) scanned
  | @operand text rest gap later ih =>
    rw [written_cons, Piece.chars] at scanned
    by_cases closes : Closes text
    · rw [scanFrom_operand closes gap] at scanned
      obtain ⟨tokens, scannedRest, rfl⟩ := Filter.exists_of_map_eq_ok scanned
      have remains : ∃ text, .operand text ∈ rest ∧ ¬Closes text := by
        obtain ⟨other, mem, remains⟩ := remains
        rcases List.mem_cons.mp mem with same | mem
        · cases same
          exact absurd closes remains
        · exact ⟨other, mem, remains⟩
      obtain ⟨front, back, after, pieces, tokens⟩ := ih remains scannedRest
      refine ⟨ink text ++ front, back, after, ?_, ?_⟩
      · rw [List.append_assoc, ← pieces]
        rfl
      · rw [tokenInk_cons, if_pos rfl, tokens, List.append_assoc]
        show ink (unquote (String.ofList _)) ++ _ = _
        rw [unquote_operandToken]
    · obtain ⟨start, after, rfl, tokens⟩ := tokenInk_of_open closes scanned
      refine ⟨ink start, pieceInk rest, after, ?_, tokens⟩
      show ink (start ++ ['\\']) ++ pieceInk rest = _
      rw [ink_append, List.append_assoc]
      rfl
  | @mark kind text rest notText isMark later ih =>
    rw [written_cons, Piece.chars, scanFrom_mark isMark] at scanned
    obtain ⟨tokens, scannedRest, rfl⟩ := Filter.exists_of_map_eq_ok scanned
    obtain ⟨front, back, after, pieces, tokens⟩ := ih (by simpa using remains) scannedRest
    refine ⟨front, back, after, pieces, ?_⟩
    rw [tokenInk_cons, if_neg notText, tokens]
    rfl

/-! ## Ink and texts of written filters -/

/-- The pieces of a comparison hold its ink. -/
theorem Comparison.pieceInk_pieces {comparison : Comparison} (read : comparison.IsRead) :
    pieceInk comparison.pieces = comparison.ink := by
  rw [pieces, ink]
  by_cases pattern : comparison.isPattern = true
  · have star : EventSieve.ink anyField.toList = [] := by decide
    rw [if_pos pattern, (isPattern_iff.mp pattern).1, star]
    simp [pieceInk]
  · by_cases takesValue : comparison.operator.takesValue = true
    · simp [pattern, takesValue, pieceInk]
    · simp [pattern, takesValue, read.value_eq_none takesValue, pieceInk]

theorem pieceInk_append (one other : List Piece) :
    pieceInk (one ++ other) = pieceInk one ++ pieceInk other :=
  List.flatMap_append

theorem Clause.pieceInk_pieces {clause : Clause}
    (read : ∀ comparison ∈ clause.comparisons, comparison.IsRead) :
    pieceInk clause.pieces = clause.comparisons.flatMap Comparison.ink := by
  have left := Comparison.pieceInk_pieces (read clause.left List.mem_cons_self)
  have inner : pieceInk clause.innerPieces = clause.comparisons.flatMap Comparison.ink := by
    rw [innerPieces, pieceInk_append, left]
    cases clause with
    | single => simp [comparisons, pieceInk]
    | joined left connective right =>
      have second := Comparison.pieceInk_pieces (read right (by simp [comparisons]))
      simpa [comparisons, pieceInk] using second
  rw [pieces]
  split
  · rw [← inner]
    simp [pieceInk]
  · exact inner

theorem Filter.pieceInk_pieces {filter : Filter} (read : filter.IsRead) :
    pieceInk filter.pieces = filter.comparisons.flatMap Comparison.ink := by
  rw [pieces, joinPieces_flatMap pieceInk pieceInk_append rfl, List.flatMap_map, comparisons,
    List.flatMap_assoc]
  exact List.flatMap_congr fun clause mem => Clause.pieceInk_pieces fun comparison inside =>
    read.comparisons comparison (List.mem_flatMap.mpr ⟨clause, mem, inside⟩)

/-- A comparison is written with as many texts as it has operands to write. -/
theorem Comparison.countP_shapes (comparison : Comparison) :
    (shapes comparison.pieces).countP (·.1 == .text) = comparison.textCount := by
  have notText : comparison.operator.kind ≠ .text := comparison.operator.kind_ne_text
  rw [pieces, textCount]
  by_cases pattern : comparison.isPattern = true
  · rw [if_pos pattern, if_pos pattern]
    rfl
  · rw [if_neg pattern, if_neg pattern]
    by_cases takesValue : comparison.operator.takesValue = true
    · simp [takesValue, notText]
    · simp [takesValue, notText]

theorem Clause.countP_shapes (clause : Clause) :
    (shapes clause.pieces).countP (·.1 == .text) = writtenTexts clause.comparisons := by
  have inner : (shapes clause.innerPieces).countP (·.1 == .text) =
      writtenTexts clause.comparisons := by
    rw [innerPieces, shapes_append, List.countP_append, Comparison.countP_shapes]
    cases clause with
    | single => simp [comparisons, writtenTexts]
    | joined left connective right =>
      have second := Comparison.countP_shapes right
      simpa [comparisons, writtenTexts] using second
  rw [pieces]
  split
  · rw [← inner]
    simp [shapes_append]
  · exact inner

theorem writtenTexts_flatMap (clauses : List Clause) :
    writtenTexts (clauses.flatMap Clause.comparisons) =
      (clauses.map fun clause => writtenTexts clause.comparisons).sum := by
  induction clauses with
  | nil => rfl
  | cons clause clauses ih =>
    rw [List.flatMap_cons, writtenTexts_append, ih, List.map_cons, List.sum_cons]

/-- The tokens of clauses have as many texts as their comparisons are written with. -/
theorem textsIn_of_clauses {clauses : List Clause} {tokens : List Token}
    (same : tokens.map Token.shape = (clauses.map Clause.pieces).flatMap shapes) :
    textsIn tokens = writtenTexts (clauses.flatMap Clause.comparisons) := by
  have count : textsIn tokens = (tokens.map Token.shape).countP (·.1 == .text) := by
    rw [List.countP_map]
    rfl
  rw [count, same, List.countP_flatMap, List.map_map, writtenTexts_flatMap]
  congr 1
  exact List.map_congr_left fun clause _ => clause.countP_shapes

/-! ## Only safe filters are read back -/

namespace Clause

variable {clause other : Clause} {tokens more rest : List Token} {phrase : Phrase}

/-- A pattern is written as one text. -/
theorem exists_token_of_pattern {comparison : Comparison} (pattern : comparison.isPattern = true)
    (h : tokens.map Token.shape = shapes comparison.pieces) :
    ∃ value : Token, tokens = [value] ∧ value.kind = .text := by
  rw [Comparison.pieces, if_pos pattern] at h
  obtain ⟨value, rfl, first⟩ := List.map_eq_singleton_iff.mp h
  exact ⟨value, rfl, congrArg Prod.fst first⟩

theorem writtenTexts_joined (left right : Comparison) (connective : Connective) :
    writtenTexts
        ({ left, connective := some connective, right := some right } : Clause).comparisons =
      left.textCount + right.textCount := by
  simp [comparisons, writtenTexts]

/-- An expression whose first operand begins with two texts is written with less texts. -/
theorem textsIn_lt_of_first (text : headKind? tokens = some .text)
    (follows : headKind? tokens.tail = some .text) (reads : ReadsExpression tokens phrase rest)
    (read : ofPhrase? phrase = some other) :
    writtenTexts other.comparisons + textsIn rest < textsIn tokens := by
  rcases reads.operands text with ⟨only, h, -, rfl⟩ |
    ⟨one, separator, two, after, first, isSeparator, second, rfl⟩
  · obtain ⟨comparison, readOnly, rfl⟩ := Filter.Phrase.ofPhrase?_single read
    exact h.textsIn_lt readOnly follows
  · obtain ⟨left, connective, right, readOne, readTwo, rfl⟩ := Filter.Phrase.ofPhrase?_joined read
    have beyond := first.textsIn_lt readOne follows
    have kept := (second.kept readTwo).texts_le
    rw [textsIn_cons, if_neg (by simp [isSeparator])] at beyond
    rw [writtenTexts_singleton] at kept
    rw [writtenTexts_joined]
    omega

/-- An expression whose second operand begins with two texts is written with less texts. -/
theorem textsIn_lt_of_second {separator : Token} {left : Phrase}
    (first : ReadsOperand tokens left (separator :: more))
    (isSeparator : separator.kind = .separator) (follows : headKind? more.tail = some .text)
    (reads : ReadsExpression tokens phrase rest)
    (read : ofPhrase? phrase = some other) :
    writtenTexts other.comparisons + textsIn rest < textsIn tokens := by
  rcases reads.operands first.headKind?_eq with ⟨only, h, next, rfl⟩ |
    ⟨one, mark, two, after, first', -, second, rfl⟩
  · obtain ⟨-, rfl⟩ := first.unique h
    exact absurd (congrArg some isSeparator) next
  · obtain ⟨rfl, same⟩ := first.unique first'
    cases same
    obtain ⟨left, connective, right, readOne, readTwo, rfl⟩ := Filter.Phrase.ofPhrase?_joined read
    have kept := (first.kept readOne).texts_le
    have beyond := second.textsIn_lt readTwo follows
    rw [writtenTexts_singleton, textsIn_cons, if_neg (by simp [isSeparator])] at kept
    rw [writtenTexts_joined]
    omega

/-- A pattern that takes the text after its clause for its own is read from more texts than the
clause is written with. -/
theorem textsIn_lt_of_pattern (pattern : clause.last.isPattern = true)
    (h : tokens.map Token.shape = shapes clause.innerPieces)
    (follows : headKind? more = some .text)
    (reads : ReadsExpression (tokens ++ more) phrase rest)
    (read : ofPhrase? phrase = some other) :
    writtenTexts other.comparisons + textsIn rest < textsIn (tokens ++ more) := by
  rw [innerPieces, shapes_append] at h
  cases clause with
  | single left negated =>
    have alone : tokens.map Token.shape = shapes left.pieces := by
      rwa [shapes_nil, List.append_nil] at h
    obtain ⟨value, rfl, isText⟩ := exists_token_of_pattern pattern alone
    exact textsIn_lt_of_first (congrArg some isText) follows reads read
  | joined left connective right negated =>
    obtain ⟨own, later, rfl, first, h⟩ := List.map_eq_append_iff.mp h
    obtain ⟨separator, later, rfl, mark, h⟩ := List.map_eq_cons_iff.mp h
    obtain ⟨value, rfl, isText⟩ := exists_token_of_pattern pattern h
    have isSeparator : separator.kind = .separator := congrArg Prod.fst mark
    have leftReads : ReadsOperand (own ++ separator :: value :: more) left.phrase
        (separator :: value :: more) :=
      left.reads first fun _ => by simp [isSeparator]
    rw [List.append_assoc] at reads ⊢
    exact textsIn_lt_of_second leftReads isSeparator follows reads read

/-- Clauses that are read back from their tokens are apart. -/
theorem isChain_of_reads {clauses : List Clause} {phrases : List Phrase}
    (h : tokens.map Token.shape = (clauses.map Clause.pieces).flatMap shapes)
    (reads : ReadsExpressions tokens phrases)
    (read : phrases.map ofPhrase? = clauses.map some) :
    clauses.IsChain fun clause next => ¬clause.RunsInto next := by
  induction clauses generalizing tokens phrases with
  | nil => exact .nil
  | cons clause clauses ih =>
    obtain ⟨phrase, phrases, rfl, one, others⟩ := List.map_eq_cons_iff.mp read
    cases reads with
    | @cons _ after _ _ first later =>
      have total := textsIn_of_clauses h
      rw [List.flatMap_cons, writtenTexts_append] at total
      rw [List.map_cons, List.flatMap_cons] at h
      obtain ⟨own, rest, rfl, ownShapes, restShapes⟩ := List.map_eq_append_iff.mp h
      have apart : ∀ next ∈ clauses.head?, ¬clause.RunsInto next := by
        rintro next mem ⟨notNegated, pattern, nextNotNegated⟩
        rw [pieces, notNegated] at ownShapes
        have follows : headKind? rest = some .text := by
          obtain ⟨clauses, rfl⟩ := List.head?_eq_some_iff.mp mem
          have head := headKind?_of_shapes restShapes
          rwa [nextNotNegated] at head
        have short := textsIn_lt_of_pattern pattern ownShapes follows first one
        have kept := (later.kept others).texts_le
        omega
      obtain ⟨-, rfl⟩ := first.unique (clause.reads_first apart ownShapes restShapes)
      exact List.isChain_cons.mpr ⟨apart, ih restShapes later others⟩

end Clause

namespace Filter

/-- The tokens of a text with a filter are read as phrases with its clauses. -/
theorem exists_reads_of_compile? {text : String} {filter : Filter}
    (h : compile? text = some filter) :
    ∃ tokens phrases, Token.scan text = .ok tokens ∧ ReadsExpressions tokens phrases ∧
      phrases.map Clause.ofPhrase? = filter.clauses.map some := by
  rw [compile?] at h
  split at h
  · next phrase parsed =>
    rw [Phrase.parse] at parsed
    cases scanned : Token.scan text with
    | error fault =>
      rw [scanned] at parsed
      cases parsed
    | ok tokens =>
      rw [scanned] at parsed
      obtain ⟨-, phrases, reads, rfl⟩ := Phrase.ofTokens_eq_ok_iff.mp parsed
      rcases ofPhrase?_cases h with ⟨_, _, same, read, -⟩ | ⟨clause, read, -⟩
      · cases same
        exact ⟨tokens, phrases, rfl, reads, read⟩
      · cases read
  · cases h

/-- A filter that is read back from its own text is safe. -/
theorem isSafe_of_compile? {filter : Filter} (read : filter.IsRead)
    (h : compile? filter.text = some filter) : filter.IsSafe := by
  obtain ⟨tokens, phrases, scanned, reads, parts⟩ := exists_reads_of_compile? h
  rw [Token.scan, toList_text read] at scanned
  have kept : Keeps filter.comparisons tokens [] := reads.kept parts
  have closes : ∀ text, .operand text ∈ filter.pieces → Closes text := by
    by_contra remains
    simp only [not_forall, exists_prop] at remains
    obtain ⟨front, back, after, pieces, inked⟩ := filter.spaced.scan_of_open remains scanned
    have same := kept.ink
    rw [← pieceInk_pieces read, pieces, inked, tokenInk, List.flatMap_nil, List.append_nil,
      List.append_cancel_left_eq] at same
    cases same
  obtain ⟨tokens', scanned', tokenShapes⟩ := filter.spaced.scan closes 0
  cases scanned.symm.trans scanned'
  rw [Filter.pieces, shapes_joinPieces] at tokenShapes
  have total : textsIn tokens = writtenTexts filter.comparisons := textsIn_of_clauses tokenShapes
  refine ⟨fun comparison mem => ?_, Clause.isChain_of_reads tokenShapes reads parts⟩
  have closed := (Comparison.closes_iff (read.comparisons comparison mem)).mp fun text inside =>
    closes text (operand_mem_pieces.mpr ⟨comparison, mem, inside⟩)
  exact ⟨closed.1, closed.2, kept.patterns total comparison mem⟩

/-- A filter from a text is read back from its own text exactly if it is safe. -/
theorem compile?_text_iff {text : String} {filter : Filter} (h : compile? text = some filter) :
    compile? filter.text = some filter ↔ filter.IsSafe := by
  have read : filter.IsRead := by
    rw [compile?] at h
    split at h
    · exact isRead_of_ofPhrase? h
    · cases h
  refine ⟨isSafe_of_compile? read, fun safe => ?_⟩
  rw [compile?, parse_text read safe]
  exact ofPhrase?_phrase read safe.comparisons

/-- A negated clause keeps its parentheses, so that its pattern ends there. -/
theorem compile?_text_iff_negation :
    let filter : Filter := {
      clauses := [{ left := .anywhere "a", negated := true }, { left := .anywhere "b" }] }
    compile? "!(a) b" = some filter ∧
      (compile? filter.text = some filter ↔ filter.IsSafe) := by
  intro filter
  have compiled : compile? "!(a) b" = some filter := by decide +kernel
  exact ⟨compiled, compile?_text_iff compiled⟩

/-- A pattern before another clause, a field that ends in a backslash and needs quotes, and an
empty pattern are not read back. -/
theorem compile?_text_ne :
    (∃ filter, compile? "(a) b" = some filter ∧ compile? filter.text ≠ some filter) ∧
      (∃ filter, compile? "a b\\ == 1" = some filter ∧ compile? filter.text ≠ some filter) ∧
      ∃ filter, compile? "* matches \"\"" = some filter ∧ compile? filter.text ≠ some filter := by
  refine ⟨⟨{ clauses := [{ left := .anywhere "a" }, { left := .anywhere "b" }] }, ?_, ?_⟩,
    ⟨{ clauses := [{ left := { field := "a b\\", operator := .equals, value := some "1" } }] },
      ?_, ?_⟩,
    ⟨{ clauses := [{ left := .anywhere "" }] }, ?_, ?_⟩⟩
  all_goals decide +kernel

end Filter
end EventSieve
