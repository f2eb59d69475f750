import EventSieve.Proofs.Compiling
import EventSieve.Proofs.Rereading

/-!
# Where tokens and errors stand

The tokens of a text cut it into spans, with nothing but blanks before, between and after them. A
token stands where its span begins, and its span alone is read as this one token. What follows a
span decides only where the span ends, so that a text can be cut off between any two tokens; in
particular what stands before a character that cannot be read is read by itself. An error names
what stands at its position.

## Main definitions

* `unescape` — characters in which every escaped quote has become a quote
* `Token.IsSpelled` — a token and the span that spells it
* `Segments` — tokens whose spans cut up some characters
* `FilterError.Names` — an error that names what stands at its position

## Main statements

* `exists_of_takeQuoted?`, `holdsNoClosing_of_takeQuoted?` — what a quoted text takes, and why it
  may take nothing
* `Lexeme.exists_isFirst` — a lexeme is read again before any part of what follows it
* `Token.segments_of_scanFrom` — tokens cut up their text
* `Token.scanFrom_before_error` — what stands before an error is read by itself
* `Phrase.isAt_of_ofTokens` — the parser complains of a token, or of the end
* `Phrase.segments_of_parse` — where the tokens of a text stand, and where its errors do
-/
namespace EventSieve

open EventSieve.Filter (Token TokenKind Lexeme takeQuoted? wordKind endsWord isMark byteLength)

namespace Filter

theorem eq_error_of_map_eq_error {α β : Type} {result : Except FilterError α} {f : α → β}
    {fault : FilterError} (h : result.map f = .error fault) : result = .error fault := by
  cases result with
  | error other => cases h; rfl
  | ok a => cases h

/-! ## Quotes -/

/-- Characters in which every escaped quote has become a quote. -/
def unescape : List Char → List Char
  | [] => []
  | '\\' :: '"' :: rest => '"' :: unescape rest
  | c :: rest => c :: unescape rest

/-- Whether every quote among some characters is escaped, so that none of them closes a text. -/
def HoldsNoClosing (cs : List Char) : Prop :=
  ∀ one two, cs = one ++ '"' :: two → one.getLast? = some '\\'

theorem unescape_escaped (cs : List Char) : unescape ('\\' :: '"' :: cs) = '"' :: unescape cs := by
  rw [unescape]

theorem unescape_cons {c : Char} {cs : List Char} (h : c = '\\' → cs.head? ≠ some '"') :
    unescape (c :: cs) = c :: unescape cs := by
  rw [unescape]
  rintro rest rfl rfl
  exact h rfl rfl

theorem takeQuoted?_closing (rest : List Char) : takeQuoted? ('"' :: rest) = some ([], 1) := by
  simp [takeQuoted?]

/-- A backslash is an escape exactly if a quote follows it. -/
theorem head?_ne_quote {c : Char} {cs : List Char}
    (noEscape : ∀ rest, c = '\\' → cs = '"' :: rest → False) :
    c = '\\' → cs.head? ≠ some '"' := by
  intro backslash quote
  obtain ⟨rest, follows⟩ := List.head?_eq_some_iff.mp quote
  exact noEscape rest backslash follows

/-- The characters that spell a quoted text, up to its closing quote, spell it before anything
else as well. -/
theorem exists_of_takeQuoted? {cs text : List Char} {count : Nat}
    (h : takeQuoted? cs = some (text, count)) :
    ∃ own rest, cs = own ++ rest ∧ own.length = count ∧ unescape own = text ++ ['"'] ∧
      ∀ more, takeQuoted? (own ++ more) = some (text, count) := by
  induction cs using takeQuoted?.induct generalizing text count with
  | case1 => cases h
  | case2 rest ih =>
    rw [takeQuoted?_escaped] at h
    obtain ⟨⟨inner, length⟩, taken, same⟩ := Option.map_eq_some_iff.mp h
    cases same
    obtain ⟨own, rest, rfl, rfl, spelled, again⟩ := ih taken
    refine ⟨'\\' :: '"' :: own, rest, rfl, rfl, ?_, ?_⟩
    · rw [unescape_escaped, spelled, List.cons_append]
    · intro more
      rw [List.cons_append, List.cons_append, takeQuoted?_escaped, again, Option.map_some]
  | case3 rest other =>
    rw [takeQuoted?_closing] at h
    cases h
    exact ⟨['"'], rest, rfl, rfl, rfl, takeQuoted?_closing⟩
  | case4 c rest noEscape plain ih =>
    have stands := head?_ne_quote noEscape
    rw [takeQuoted?_plain plain stands] at h
    obtain ⟨⟨inner, length⟩, taken, same⟩ := Option.map_eq_some_iff.mp h
    cases same
    obtain ⟨own, rest, rfl, rfl, spelled, again⟩ := ih taken
    -- the text ends in a quote, so that its first character is the first one after `c`
    have nonempty : own ≠ [] := by
      rintro rfl
      simp [unescape] at spelled
    have first (more : List Char) : c = '\\' → (own ++ more).head? ≠ some '"' := by
      obtain ⟨d, tail, rfl⟩ := List.exists_cons_of_ne_nil nonempty
      simpa using stands
    refine ⟨c :: own, rest, rfl, rfl, ?_, ?_⟩
    · rw [unescape_cons (by simpa using first []), spelled, List.cons_append]
    · intro more
      rw [List.cons_append, takeQuoted?_plain plain (first more), again, Option.map_some]

namespace HoldsNoClosing

variable {cs : List Char}

theorem cons {c : Char} (plain : c ≠ '"') (h : HoldsNoClosing cs) : HoldsNoClosing (c :: cs) := by
  intro one two same
  cases one with
  | nil =>
    cases same
    exact absurd rfl plain
  | cons d later =>
    cases same
    rw [List.getLast?_cons, h later two rfl]
    rfl

theorem escaped (h : HoldsNoClosing cs) : HoldsNoClosing ('\\' :: '"' :: cs) := by
  intro one two same
  cases one with
  | nil => cases same
  | cons first one =>
    cases one with
    | nil =>
      cases same
      rfl
    | cons second later =>
      cases same
      rw [List.getLast?_cons_cons, List.getLast?_cons, h later two rfl]
      rfl

end HoldsNoClosing

/-- A quoted text that does not end has no quote that could close it. -/
theorem holdsNoClosing_of_takeQuoted? {cs : List Char} (h : takeQuoted? cs = none) :
    HoldsNoClosing cs := by
  induction cs using takeQuoted?.induct with
  | case1 =>
    intro one two same
    simp at same
  | case2 rest ih =>
    rw [takeQuoted?_escaped, Option.map_eq_none_iff] at h
    exact (ih h).escaped
  | case3 rest noEscape =>
    rw [takeQuoted?_closing] at h
    cases h
  | case4 c rest noEscape plain ih =>
    rw [takeQuoted?_plain plain (head?_ne_quote noEscape), Option.map_eq_none_iff] at h
    exact (ih h).cons plain

/-! ## Lexemes -/

namespace Lexeme

variable {c : Char} {rest : List Char} {position : Nat} {lexeme : Lexeme}

/-- A lexeme that begins with a character and takes some of those after it. It is read again before
any part of what it does not take. -/
structure IsFirst (lexeme : Lexeme) (c : Char) (body after : List Char) : Prop where
  source : lexeme.source = c :: body
  plain : c ≠ '"' → lexeme.text = lexeme.source
  quoted : c = '"' → lexeme.kind = .text ∧ lexeme.text = unescape lexeme.source
  again : ∀ more, more <+: after → ∀ start, first c (body ++ more) start = .ok lexeme

theorem IsFirst.of_plain {kind : TokenKind} {body after : List Char} (noQuote : c ≠ '"')
    (again : ∀ more, more <+: after → ∀ start,
      first c (body ++ more) start = .ok (.plain kind (c :: body))) :
    (Lexeme.plain kind (c :: body)).IsFirst c body after where
  source := rfl
  plain _ := rfl
  quoted same := absurd same noQuote
  again := again

/-- What is read next begins where the lexeme ends. -/
theorem IsFirst.drop_eq {body after : List Char} (h : lexeme.IsFirst c body after) :
    (body ++ after).drop (lexeme.source.length - 1) = after := by
  rw [h.source, List.length_cons, Nat.add_sub_cancel, List.drop_left]

theorem head?_of_doubled {kind : TokenKind} (h : doubled kind c rest position = .ok lexeme) :
    rest.head? = some c := by
  rw [doubled] at h
  split at h
  · assumption
  · cases h

/-- Two characters that count together are read at the first of them. -/
theorem isFirst_doubled {kind : TokenKind} {after : List Char} (noQuote : c ≠ '"')
    (reads : ∀ more start, first c more start = doubled kind c more start) :
    (Lexeme.plain kind [c, c]).IsFirst c [c] after := by
  refine .of_plain noQuote ?_
  intro more _ start
  rw [reads]
  simp [doubled]

theorem exists_isFirst_quoted (h : quoted rest position = .ok lexeme) :
    ∃ body after, rest = body ++ after ∧ lexeme.IsFirst '"' body after := by
  rw [quoted] at h
  split at h
  · next text count taken =>
    cases h
    obtain ⟨own, after, rfl, rfl, spelled, again⟩ := exists_of_takeQuoted? taken
    have body : (own ++ after).take own.length = own := List.take_left
    refine ⟨own, after, rfl, ?_⟩
    constructor
    · simp only [body]
    · intro noQuote
      exact absurd rfl noQuote
    · intro _
      simp only [body, true_and]
      rw [unescape_cons fun escape => absurd escape (by decide), spelled]
    · intro more _ start
      show quoted (own ++ more) start = _
      rw [quoted, again more]
      simp only [List.take_left]
  · cases h

/-- A word is read again before anything that is empty or begins as what stood after it. -/
theorem isFirst_word (ink : endsWord c = false) :
    (Lexeme.plain (wordKind (c :: rest.takeWhile (!endsWord ·)))
      (c :: rest.takeWhile (!endsWord ·))).IsFirst c (rest.takeWhile (!endsWord ·))
        (rest.dropWhile (!endsWord ·)) := by
  have noQuote : c ≠ '"' := by
    rintro rfl
    cases ink
  have word : (rest.takeWhile (!endsWord ·)).any endsWord = false := by
    rw [List.any_eq_false]
    intro d mem
    simpa using List.mem_takeWhile_imp mem
  refine .of_plain noQuote ?_
  intro more sub start
  have stops : StopsWord more := by
    intro d mem
    obtain ⟨tail, split⟩ := sub
    have head : d ∈ (rest.dropWhile (!endsWord ·)).head? := by
      rw [← split]
      exact List.mem_head?_append_of_mem_head? mem
    have end? := List.head?_dropWhile_not (!endsWord ·) rest
    rw [Option.mem_def.mp head] at end?
    simpa using end?
  rw [first_word ink, takeWhile_word word stops]

/-- What is read at a character that is no blank is a beginning of the text there. -/
theorem exists_isFirst (ink : Text.isBlank c = false) (h : first c rest position = .ok lexeme) :
    ∃ body after, rest = body ++ after ∧ lexeme.IsFirst c body after := by
  rw [first] at h
  split_ifs at h with isOpening isClosing isOrder isBang isUnequal isEqual isConnective isQuote
  · subst isOpening
    cases h
    exact ⟨[], rest, rfl, .of_plain (by decide) fun _ _ _ => rfl⟩
  · subst isClosing
    cases h
    exact ⟨[], rest, rfl, .of_plain (by decide) fun _ _ _ => rfl⟩
  · cases h
    rcases isOrder with rfl | rfl
    · exact ⟨[], rest, rfl, .of_plain (by decide) fun _ _ _ => rfl⟩
    · exact ⟨[], rest, rfl, .of_plain (by decide) fun _ _ _ => rfl⟩
  · subst isBang
    cases h
    obtain ⟨tail, rfl⟩ := List.head?_eq_some_iff.mp isUnequal
    exact ⟨['='], tail, rfl, .of_plain (by decide) fun _ _ _ => rfl⟩
  · subst isBang
    cases h
    refine ⟨[], rest, rfl, .of_plain (by decide) ?_⟩
    intro more sub start
    have other : more.head? ≠ some '=' := by
      intro head
      obtain ⟨tail, rfl⟩ := sub
      exact isUnequal (List.mem_head?_append_of_mem_head? head)
    show (if more.head? = some '=' then _ else _) = _
    rw [if_neg other]
  · subst isEqual
    obtain ⟨tail, rfl⟩ := List.head?_eq_some_iff.mp (head?_of_doubled h)
    rw [doubled_eq_ok h]
    exact ⟨['='], tail, rfl, isFirst_doubled (by decide) fun _ _ => rfl⟩
  · obtain ⟨tail, rfl⟩ := List.head?_eq_some_iff.mp (head?_of_doubled h)
    rw [doubled_eq_ok h]
    rcases isConnective with rfl | rfl
    · exact ⟨['&'], tail, rfl, isFirst_doubled (by decide) fun _ _ => rfl⟩
    · exact ⟨['|'], tail, rfl, isFirst_doubled (by decide) fun _ _ => rfl⟩
  · subst isQuote
    exact exists_isFirst_quoted h
  · cases h
    simp only [not_or] at isOrder isConnective
    have noMark : isMark c = false := by simp [isMark, *]
    refine ⟨_, _, List.takeWhile_append_dropWhile.symm, isFirst_word ?_⟩
    rw [endsWord, ink, noMark, Bool.or_false]

/-- What cannot be read is a character that counts only twice, or a quote that nothing closes. -/
theorem error_of_first {fault : FilterError} (h : first c rest position = .error fault) :
    (c ≠ '"' ∧ fault = .unexpectedToken (String.ofList [c]) position) ∨
      (c = '"' ∧ HoldsNoClosing rest ∧ fault = .unterminatedQuote position) := by
  have doubled_error {kind : TokenKind} (noQuote : c ≠ '"')
      (h : doubled kind c rest position = .error fault) :
      c ≠ '"' ∧ fault = .unexpectedToken (String.ofList [c]) position := by
    rw [doubled] at h
    split at h
    · cases h
    · cases h
      exact ⟨noQuote, rfl⟩
  rw [first] at h
  split_ifs at h with isOpening isClosing isOrder isBang isUnequal isEqual isConnective isQuote
  · refine .inl (doubled_error ?_ h)
    rw [isEqual]
    decide
  · refine .inl (doubled_error ?_ h)
    rcases isConnective with rfl | rfl <;> decide
  · rw [quoted] at h
    split at h
    · cases h
    · next open? =>
      cases h
      exact .inr ⟨isQuote, holdsNoClosing_of_takeQuoted? open?, rfl⟩

end Lexeme

/-! ## Spans -/

/-- A token and the characters that spell it. They are read as this token alone. Without quotes the
token has them for its text, and in quotes it has them with their escaped quotes read. -/
structure Token.IsSpelled (token : Token) (source : List Char) : Prop where
  nonempty : source ≠ []
  alone : scan (String.ofList source) = .ok [{ token with position := 0 }]
  plain : source.head? ≠ some '"' → token.text = String.ofList source
  quoted : source.head? = some '"' →
    token.kind = .text ∧ token.text = String.ofList (unescape source)

/-- Tokens whose spans cut up some characters that start at a position: nothing but blanks stands
before, between and after the spans, and each token stands where its span begins. -/
inductive Segments : Nat → List Char → List Token → Prop
  | blanks {position : Nat} {cs : List Char} (blank : ∀ c ∈ cs, Text.isBlank c = true) :
      Segments position cs []
  | token {position : Nat} {gap source rest : List Char} {token : Token} {tokens : List Token}
      (blank : ∀ c ∈ gap, Text.isBlank c = true) (spelled : token.IsSpelled source)
      (start : token.position = position + byteLength gap)
      (later : Segments (token.position + byteLength source) rest tokens) :
      Segments position (gap ++ source ++ rest) (token :: tokens)

section Spans

variable {position : Nat} {c : Char} {cs : List Char} {token : Token} {tokens : List Token}

/-- A blank before the first span moves all spans. -/
theorem Segments.cons_blank (blank : Text.isBlank c = true)
    (h : Segments (position + c.utf8Size) cs tokens) : Segments position (c :: cs) tokens := by
  cases h with
  | blanks all => exact .blanks (List.forall_mem_cons.mpr ⟨blank, all⟩)
  | @token _ gap source rest token tokens all spelled start later =>
    rw [← List.cons_append, ← List.cons_append]
    refine .token (List.forall_mem_cons.mpr ⟨blank, all⟩) spelled ?_ later
    simp only [byteLength_cons]
    omega

/-- Every token has a span in the characters that it was cut from. -/
theorem Segments.exists_span (h : Segments position cs tokens) (mem : token ∈ tokens) :
    ∃ before source after, cs = before ++ source ++ after ∧
      token.position = position + byteLength before ∧ token.IsSpelled source := by
  induction h with
  | blanks => cases mem
  | @token position gap source rest first tokens blank spelled start later ih =>
    rcases List.mem_cons.mp mem with rfl | mem
    · exact ⟨gap, source, rest, rfl, start, spelled⟩
    · obtain ⟨before, own, after, rfl, place, spelled⟩ := ih mem
      refine ⟨gap ++ source ++ before, own, after, by simp, ?_, spelled⟩
      simp only [byteLength_append]
      omega

namespace Token

/-- A lexeme at the start of some characters becomes their first token. -/
theorem scanFrom_isFirst {lexeme : Lexeme} {body after more : List Char}
    (ink : Text.isBlank c = false) (h : lexeme.IsFirst c body after) (sub : more <+: after) :
    scanFrom position (c :: body ++ more) =
      (scanFrom (position + byteLength lexeme.source) more).map
        (⟨lexeme.kind, String.ofList lexeme.text, position⟩ :: ·) := by
  obtain ⟨kind, text, source⟩ := lexeme
  obtain rfl : source = c :: body := h.source
  exact scanFrom_lexeme ink (h.again more sub position)

theorem isSpelled_of_isFirst {lexeme : Lexeme} {body after : List Char}
    (ink : Text.isBlank c = false) (h : lexeme.IsFirst c body after) :
    IsSpelled ⟨lexeme.kind, String.ofList lexeme.text, position⟩ (c :: body) := by
  constructor
  · exact List.cons_ne_nil c body
  · have alone : scanFrom 0 (c :: body ++ []) = _ := scanFrom_isFirst ink h List.nil_prefix
    rw [List.append_nil, scanFrom_nil] at alone
    rw [scan, String.toList_ofList, alone]
    rfl
  · intro plain
    rw [h.plain fun same => plain (congrArg some same), h.source]
  · intro quote
    obtain ⟨isText, text⟩ := h.quoted (Option.some.inj quote)
    exact ⟨isText, by rw [text, h.source]⟩

/-- The tokens of some characters cut them up. -/
theorem segments_of_scanFrom (h : scanFrom position cs = .ok tokens) :
    Segments position cs tokens := by
  induction position, cs using scanFrom.induct generalizing tokens with
  | case1 position =>
    rw [scanFrom_nil] at h
    cases h
    exact .blanks (by simp)
  | case2 position c rest blank ih =>
    rw [scanFrom_of_blank blank] at h
    exact .cons_blank blank (ih h)
  | case3 position c rest ink fault failed =>
    rw [scanFrom_of_error (Bool.eq_false_iff.mpr ink) failed] at h
    cases h
  | case4 position c rest ink lexeme found ih =>
    have ink : Text.isBlank c = false := Bool.eq_false_iff.mpr ink
    obtain ⟨body, after, rfl, isFirst⟩ := Lexeme.exists_isFirst ink found
    rw [isFirst.drop_eq] at ih
    rw [← List.cons_append] at h ⊢
    rw [scanFrom_isFirst ink isFirst (List.prefix_refl after)] at h
    obtain ⟨tokens, scanned, rfl⟩ := exists_of_map_eq_ok h
    rw [← List.nil_append (c :: body)]
    refine .token (by simp) (isSpelled_of_isFirst ink isFirst) rfl ?_
    rw [← isFirst.source]
    exact ih scanned

/-- What stands before an error is read by itself. The error is that of the first character after
it. -/
theorem scanFrom_before_error {fault : FilterError} (h : scanFrom position cs = .error fault) :
    ∃ before c after, cs = before ++ c :: after ∧ Text.isBlank c = false ∧
      Lexeme.first c after (position + byteLength before) = .error fault ∧
      ∀ start, ∃ tokens, scanFrom start before = .ok tokens := by
  induction position, cs using scanFrom.induct with
  | case1 position =>
    rw [scanFrom_nil] at h
    cases h
  | case2 position c rest blank ih =>
    rw [scanFrom_of_blank blank] at h
    obtain ⟨before, d, after, rfl, ink, failed, scanned⟩ := ih h
    refine ⟨c :: before, d, after, rfl, ink, ?_, ?_⟩
    · rw [byteLength_cons, ← Nat.add_assoc]
      exact failed
    · intro start
      obtain ⟨tokens, scanned⟩ := scanned (start + c.utf8Size)
      exact ⟨tokens, (scanFrom_of_blank blank start before).trans scanned⟩
  | case3 position c rest ink other failed =>
    rw [scanFrom_of_error (Bool.eq_false_iff.mpr ink) failed] at h
    cases h
    refine ⟨[], c, rest, rfl, Bool.eq_false_iff.mpr ink, failed, ?_⟩
    intro start
    exact ⟨[], scanFrom_nil start⟩
  | case4 position c rest ink lexeme found ih =>
    have ink : Text.isBlank c = false := Bool.eq_false_iff.mpr ink
    obtain ⟨body, after, rfl, isFirst⟩ := Lexeme.exists_isFirst ink found
    rw [isFirst.drop_eq] at ih
    rw [← List.cons_append, scanFrom_isFirst ink isFirst (List.prefix_refl after)] at h
    obtain ⟨before, d, after, rfl, inkLater, failed, scanned⟩ := ih (eq_error_of_map_eq_error h)
    refine ⟨c :: body ++ before, d, after, by simp, inkLater, ?_, ?_⟩
    · rw [byteLength_append, ← isFirst.source, ← Nat.add_assoc]
      exact failed
    · intro start
      -- the lexeme ends where it ended, also with the error and all behind it cut off
      obtain ⟨tokens, scanned⟩ := scanned (start + byteLength lexeme.source)
      rw [scanFrom_isFirst ink isFirst (List.prefix_append before (d :: after)), scanned]
      exact ⟨_, rfl⟩

end Token

end Spans

/-! ## Errors of the parser -/

/-- An error at the end of some tokens, or at one of them. -/
def IsAt (tokens : List Token) (fault : FilterError) : Prop :=
  fault = .unexpectedEnd ∨ ∃ token ∈ tokens, fault = token.unexpected

theorem IsAt.mono {tokens rest : List Token} {fault : FilterError} (h : IsAt rest fault)
    (sub : rest ⊆ tokens) : IsAt tokens fault := by
  rcases h with rfl | ⟨token, mem, rfl⟩
  · exact .inl rfl
  · exact .inr ⟨token, sub mem, rfl⟩

theorem isAt_errorAt (tokens : List Token) : IsAt tokens (errorAt tokens) := by
  cases tokens with
  | nil => exact .inl rfl
  | cons token rest => exact .inr ⟨token, List.mem_cons_self, rfl⟩

namespace Phrase

variable {tokens : List Token} {fault : FilterError}

theorem isAt_of_operand (h : operand tokens = .error fault) : IsAt tokens fault := by
  have sub : (takeTexts tokens).2 ⊆ tokens := (List.dropWhile_suffix _).subset
  unfold operand at h
  generalize takeTexts tokens = parts at h sub
  obtain ⟨texts, rest⟩ := parts
  simp only at h sub
  split at h
  · cases h
    exact (isAt_errorAt rest).mono sub
  · split at h
    · split at h
      · split at h
        · next right later =>
          split at h
          · cases h
          · cases h
            exact .inr ⟨right, sub (by simp), rfl⟩
        · cases h
          exact .inl rfl
      · split at h <;> cases h
    · cases h

theorem isAt_of_operands (h : operands tokens = .error fault) : IsAt tokens fault := by
  unfold operands at h
  cases first : operand tokens with
  | error other =>
    rw [first] at h
    cases h
    exact isAt_of_operand first
  | ok left =>
    obtain ⟨left, rest⟩ := left
    have sub := (reads_of_operand first).rest_subset
    rw [first] at h
    simp only [bind, Except.bind] at h
    split at h
    · next separator more =>
      split at h
      · cases second : operand more with
        | error other =>
          rw [second] at h
          cases h
          refine (isAt_of_operand second).mono ?_
          intro token mem
          exact sub (List.mem_cons_of_mem separator mem)
        | ok right =>
          rw [second] at h
          cases h
      · cases h
    · cases h

/-- The parser of an expression complains of one of its tokens, or of the end. -/
theorem isAt_of_expression (h : expression tokens = .error fault) : IsAt tokens fault := by
  induction tokens generalizing fault with
  | nil =>
    cases h
    exact .inl rfl
  | cons token tokens ih =>
    have tail : tokens ⊆ token :: tokens := List.subset_cons_self token tokens
    rw [expression] at h
    split at h
    · cases inside : expression tokens with
      | error other =>
        rw [inside] at h
        cases h
        exact (ih inside).mono tail
      | ok inner =>
        obtain ⟨inner, after⟩ := inner
        have sub := (reads_of_expression inside).rest_subset
        rw [inside] at h
        simp only [bind, Except.bind] at h
        cases after with
        | nil =>
          cases h
          exact .inl rfl
        | cons close after =>
          rw [closing] at h
          split at h
          · cases h
          · cases h
            exact .inr ⟨close, tail (sub List.mem_cons_self), rfl⟩
    · cases inside : expression tokens with
      | error other =>
        rw [inside] at h
        cases h
        exact (ih inside).mono tail
      | ok inner =>
        rw [inside] at h
        cases h
    · exact isAt_of_operands h
    · cases h
      exact .inr ⟨token, List.mem_cons_self, rfl⟩

theorem isAt_of_expressions (h : expressions tokens = .error fault) : IsAt tokens fault := by
  induction tokens using expressions.induct with
  | case1 tokens empty =>
    rw [expressions, if_pos empty] at h
    cases h
  | case2 tokens some other failed =>
    rw [expressions, if_neg some] at h
    split at h
    · next fault' failed' =>
      cases h
      exact isAt_of_expression failed'
    · next phrase rest found =>
      rw [found] at failed
      cases failed
  | case3 tokens some phrase rest found ih =>
    have reads := reads_of_expression found
    rw [expressions_cons reads] at h
    exact (ih (eq_error_of_map_eq_error h)).mono reads.rest_subset

/-- Tokens that are no filter are none at all, or the error is at one of them or at their end. -/
theorem isAt_of_ofTokens (h : ofTokens tokens = .error fault) :
    tokens = [] ∧ fault = .empty ∨ IsAt tokens fault := by
  rw [ofTokens] at h
  split at h
  · next empty =>
    cases h
    exact .inl ⟨List.isEmpty_iff.mp empty, rfl⟩
  · exact .inr (isAt_of_expressions (eq_error_of_map_eq_error h))

end Phrase
end Filter

/-! ## Errors of texts -/

namespace FilterError

/-- Where an error stands, if it stands anywhere. -/
def position? : FilterError → Option Nat
  | unexpectedToken _ position => some position
  | unterminatedQuote position => some position
  | _ => none

/-- An error that names what stands at its position: a token as it is spelled there, where a quoted
one is spelled by what is read as it, or a quote that nothing after it closes. -/
def Names (after : List Char) : FilterError → Prop
  | unexpectedToken token _ => ∃ source rest, after = source ++ rest ∧ source ≠ [] ∧
      if source.head? = some '"' then
        Token.scan (String.ofList source) = .ok [⟨.text, token, 0⟩]
      else String.ofList source = token
  | unterminatedQuote _ => ∃ rest, after = '"' :: rest ∧ Filter.HoldsNoClosing rest
  | _ => False

/-- The tokenizer names the character at which it stops. -/
theorem names_of_first {c : Char} {after : List Char} {position : Nat} {fault : FilterError}
    (h : Lexeme.first c after position = .error fault) :
    fault.position? = some position ∧ fault.Names (c :: after) := by
  rcases Lexeme.error_of_first h with ⟨noQuote, rfl⟩ | ⟨rfl, remains, rfl⟩
  · refine ⟨rfl, [c], after, rfl, List.cons_ne_nil c [], ?_⟩
    rw [if_neg]
    simpa using noQuote
  · exact ⟨rfl, after, rfl, remains⟩

/-- The parser names the token that may not stand where it stands. -/
theorem names_unexpected {token : Token} {source : List Char} (h : token.IsSpelled source)
    (after : List Char) : token.unexpected.Names (source ++ after) := by
  refine ⟨source, after, rfl, h.nonempty, ?_⟩
  split
  · next quote =>
    obtain ⟨isText, -⟩ := h.quoted quote
    rw [h.alone, isText]
  · next plain => exact (h.plain plain).symm

end FilterError

/-- The tokenizer stops at an error that names what stands there, and what stands before it has
tokens. -/
theorem Filter.Token.names_of_scan {text : String} {fault : FilterError}
    (h : scan text = .error fault) :
    ∃ before after, text.toList = before ++ after ∧
      fault.position? = some (byteLength before) ∧ fault.Names after ∧
      ∃ tokens, scan (String.ofList before) = .ok tokens := by
  obtain ⟨before, c, after, split, -, failed, scanned⟩ := scanFrom_before_error h
  rw [Nat.zero_add] at failed
  obtain ⟨place, named⟩ := FilterError.names_of_first failed
  obtain ⟨tokens, scanned⟩ := scanned 0
  refine ⟨before, c :: after, split, place, named, tokens, ?_⟩
  rw [scan, String.toList_ofList]
  exact scanned

/-- The parser stops at an error that names what stands there. -/
theorem Filter.Phrase.names_of_ofTokens {text : String} {tokens : List Token} {fault : FilterError}
    {position : Nat} (scanned : Token.scan text = .ok tokens) (h : ofTokens tokens = .error fault)
    (place : fault.position? = some position) :
    ∃ before after, text.toList = before ++ after ∧ byteLength before = position ∧
      fault.Names after := by
  rcases isAt_of_ofTokens h with ⟨-, rfl⟩ | rfl | ⟨token, mem, rfl⟩
  · cases place
  · cases place
  · obtain ⟨before, source, after, split, start, spelled⟩ :=
      (Token.segments_of_scanFrom scanned).exists_span mem
    rw [Nat.zero_add] at start
    cases place
    exact ⟨before, source ++ after, by rw [split, List.append_assoc], start.symm,
      FilterError.names_unexpected spelled after⟩

/-- The tokens of a text cut it up into spans. Where a text is no filter, the error names what
stands at its position, and what stands before an error of the tokenizer has tokens. -/
theorem Filter.Phrase.segments_of_parse (text : String) :
    (∀ tokens, Token.scan text = .ok tokens → Segments 0 text.toList tokens) ∧
    (∀ fault position, parse text = .error fault → fault.position? = some position →
      ∃ before after, text.toList = before ++ after ∧ byteLength before = position ∧
        fault.Names after) ∧
    ∀ fault, Token.scan text = .error fault → parse text = .error fault ∧
      ∃ before after, text.toList = before ++ after ∧
        fault.position? = some (byteLength before) ∧
        ∃ tokens, Token.scan (String.ofList before) = .ok tokens := by
  refine ⟨?_, ?_, ?_⟩
  · intro tokens scanned
    exact Token.segments_of_scanFrom scanned
  · intro fault position h place
    rw [parse] at h
    cases scanned : Token.scan text with
    | error other =>
      rw [scanned] at h
      cases h
      obtain ⟨before, after, split, start, named, -⟩ := Token.names_of_scan scanned
      rw [start, Option.some.injEq] at place
      exact ⟨before, after, split, place, named⟩
    | ok tokens =>
      rw [scanned] at h
      exact names_of_ofTokens scanned h place
  · intro fault h
    obtain ⟨before, after, split, start, -, scanned⟩ := Token.names_of_scan h
    refine ⟨?_, before, after, split, start, scanned⟩
    rw [parse, h]
    rfl

/-- The parser refuses a quoted text at the place where it stands, with its quote escaped there, and
counts the two bytes of a letter before it. -/
theorem Filter.Phrase.names_refused_quote :
    Token.scan "(é present \"b\\\"c\"" = .ok
        [⟨.opening, "(", 0⟩, ⟨.text, "é", 1⟩, ⟨.present, "present", 4⟩, ⟨.text, "\"b\"c\"", 12⟩] ∧
      parse "(é present \"b\\\"c\"" = .error (.unexpectedToken "\"b\"c\"" 12) ∧
      ∃ before after, "(é present \"b\\\"c\"".toList = before ++ after ∧ byteLength before = 12 ∧
        FilterError.Names after (.unexpectedToken "\"b\"c\"" 12) := by
  have refused : (parse "(é present \"b\\\"c\"").map (fun _ => ()) =
      .error (.unexpectedToken "\"b\"c\"" 12) := by
    decide +kernel
  have refused := eq_error_of_map_eq_error refused
  refine ⟨by decide +kernel, refused, ?_⟩
  exact (segments_of_parse _).2.1 _ 12 refused rfl

end EventSieve
