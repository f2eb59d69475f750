import EventSieve.Proofs.Compiling
import EventSieve.Proofs.Quoting
import EventSieve.Proofs.Segments

/-!
# Names of several words

The words at the start of an operand make up one name, however many blanks stand between them. So
a name of several words on the left needs no quotes: with single blanks between its words and
quotes around them it is the same name, whether nothing, `present` or an operator and a text
follows it.

## Main definitions

* `SpacedWords` — bare words with blanks between them
* `IsNameTail` — what may follow a name
* `Comparison.ofName?` — the comparison of a name and what follows it

## Main statements

* `scanFrom_move` — tokens are the same at every position
* `SpacedWords.scan` — the tokens of spaced words are the words
* `Filter.compile?_spacedWords` — a name with quotes and without them is one name
-/
namespace EventSieve

open EventSieve.Filter (Token TokenKind Lexeme Phrase takeQuoted? endsWord byteLength headKind?)
open EventSieve.Filter.Phrase (group ReadsOperand ReadsExpression ReadsExpressions Texts)
open EventSieve.Filter.Token (scanFrom)

/-- Bare words with blanks between them. -/
inductive SpacedWords : List (List Char) → List Char → Prop
  | last {word : List Char} (bare : isBare word = true) : SpacedWords [word] word
  | cons {word gap cs : List Char} {words : List (List Char)} (bare : isBare word = true)
      (blank : ∀ c ∈ gap, Text.isBlank c = true) (apart : gap ≠ [])
      (later : SpacedWords words cs) : SpacedWords (word :: words) (word ++ (gap ++ cs))

/-- What may follow a name: nothing, `present`, or an operator and a single text. It has to begin
with a blank or a mark, if it is not empty. -/
def IsNameTail (tail : String) : Prop :=
  StopsWord tail.toList ∧ ∃ tokens, Token.scan tail = .ok tokens ∧
    tokens.map Token.kind ∈ [[], [.present], [.operator, .text]]

/-! ## Joined words -/

theorem joinWords_cons {word : List Char} {words : List (List Char)} (more : words ≠ []) :
    joinWords (word :: words) = word ++ ' ' :: joinWords words := by
  obtain ⟨next, words, rfl⟩ := List.exists_cons_of_ne_nil more
  rfl

theorem mem_joinWords {c : Char} {words : List (List Char)} (mem : c ∈ joinWords words) :
    c = ' ' ∨ ∃ word ∈ words, c ∈ word := by
  induction words with
  | nil => cases mem
  | cons word words ih =>
    by_cases more : words = []
    · subst more
      exact .inr ⟨word, List.mem_cons_self, mem⟩
    · rw [joinWords_cons more, List.mem_append, List.mem_cons] at mem
      rcases mem with mem | blank | mem
      · exact .inr ⟨word, List.mem_cons_self, mem⟩
      · exact .inl blank
      · rcases ih mem with blank | ⟨other, inside, mem⟩
        · exact .inl blank
        · exact .inr ⟨other, List.mem_cons_of_mem _ inside, mem⟩

/-- A text without quotes has no escapes. -/
theorem escapeQuotes_of_notMem {cs : List Char} (plain : '"' ∉ cs) : escapeQuotes cs = cs := by
  induction cs with
  | nil => rfl
  | cons c cs ih =>
    rw [List.mem_cons, not_or] at plain
    rw [escapeQuotes_cons, if_neg (Ne.symm plain.1), ih plain.2]
    rfl

/-- Joined words end as the last of them does. -/
theorem getLast?_joinWords {words : List (List Char)} (each : ∀ word ∈ words, word ≠ []) :
    (joinWords words).getLast? = words.getLast?.bind List.getLast? := by
  induction words with
  | nil => rfl
  | cons word words ih =>
    obtain ⟨first, later⟩ := List.forall_mem_cons.mp each
    cases words with
    | nil => rfl
    | cons next words =>
      have inside : next ≠ [] := later next List.mem_cons_self
      rw [List.getLast?_cons_cons, ← ih later, joinWords_cons (List.cons_ne_nil next words)]
      have some : joinWords (next :: words) ≠ [] := by
        cases words <;> simp [joinWords, inside]
      rw [List.getLast?_append_of_ne_nil _ (List.cons_ne_nil _ _),
        List.getLast?_cons, List.getLast?_eq_some_getLast some]
      rfl

/-- Joined words begin as the first of them does. -/
theorem head?_joinWords {word : List Char} (inside : word ≠ []) (words : List (List Char)) :
    (joinWords (word :: words)).head? = word.head? := by
  obtain ⟨c, word, rfl⟩ := List.exists_cons_of_ne_nil inside
  cases words <;> rfl

section Words

variable {words : List (List Char)} (bare : ∀ word ∈ words, isBare word = true)

include bare

theorem ne_nil_of_isBare : ∀ word ∈ words, word ≠ [] := by
  rintro word mem rfl
  exact absurd (bare [] mem) (by decide)

/-- Bare words are joined without blanks at the ends. -/
theorem trimChars_joinWords : Text.trimChars (joinWords words) = joinWords words := by
  have each := ne_nil_of_isBare bare
  refine Text.trimChars_of_ends (fun c head => ?_) fun c last => ?_
  · cases words with
    | nil => cases head
    | cons word words =>
      rw [head?_joinWords (each word List.mem_cons_self)] at head
      exact isBlank_of_isBare (bare word List.mem_cons_self) c (List.mem_of_mem_head? head)
  · rw [getLast?_joinWords each] at last
    obtain ⟨word, mem, last⟩ := Option.bind_eq_some_iff.mp last
    exact isBlank_of_isBare (bare word (List.mem_of_mem_getLast? mem)) c
      (List.mem_of_mem_getLast? last)

theorem trim_joinWords :
    Text.trim (String.ofList (joinWords words)) = String.ofList (joinWords words) := by
  rw [Text.trim_eq_self_iff, String.toList_ofList, trimChars_joinWords bare]

theorem ofList_joinWords_ne (some : words ≠ []) : String.ofList (joinWords words) ≠ "" := by
  obtain ⟨word, words, rfl⟩ := List.exists_cons_of_ne_nil some
  intro empty
  rw [← String.toList_inj, String.toList_ofList, String.toList_empty] at empty
  have head := head?_joinWords (ne_nil_of_isBare bare word List.mem_cons_self) words
  rw [empty, List.head?_nil, eq_comm, List.head?_eq_none_iff] at head
  exact ne_nil_of_isBare bare word List.mem_cons_self head

/-- In quotes, joined words need no escapes. -/
theorem escapeQuotes_joinWords : escapeQuotes (joinWords words) = joinWords words := by
  refine escapeQuotes_of_notMem fun mem => ?_
  rcases mem_joinWords mem with blank | ⟨word, inside, mem⟩
  · cases blank
  · have plain := bare word inside
    simp only [isBare_eq, Bool.and_eq_true, Bool.not_eq_true', List.any_eq_false] at plain
    exact plain.2 '"' mem (by decide)

end Words

/-! ## Tokens -/

/-- A text has the same tokens at every position, apart from their own positions. -/
theorem scanFrom_move {cs : List Char} {position : Nat} {tokens : List Token}
    (h : scanFrom position cs = .ok tokens) (other : Nat) :
    ∃ moved, scanFrom other cs = .ok moved ∧ moved.map Token.shape = tokens.map Token.shape := by
  induction position, cs using EventSieve.Filter.Token.scanFrom.induct generalizing tokens other with
  | case1 position =>
    rw [scanFrom_nil] at h
    cases h
    exact ⟨[], scanFrom_nil other, rfl⟩
  | case2 position c rest blank ih =>
    rw [scanFrom_of_blank blank] at h
    rw [scanFrom_of_blank blank]
    exact ih h _
  | case3 position c rest ink fault failed =>
    rw [scanFrom_of_error (Bool.eq_false_iff.mpr ink) failed] at h
    cases h
  | case4 position c rest ink lexeme found ih =>
    have ink : Text.isBlank c = false := Bool.eq_false_iff.mpr ink
    rw [scanFrom_of_ok ink found] at h
    obtain ⟨later, scanned, rfl⟩ := Filter.exists_of_map_eq_ok h
    obtain ⟨body, after, rfl, isFirst⟩ := Lexeme.exists_isFirst ink found
    rw [isFirst.drop_eq] at scanned ih
    obtain ⟨moved, again, same⟩ := ih scanned (other + byteLength lexeme.source)
    refine ⟨⟨lexeme.kind, String.ofList lexeme.text, other⟩ :: moved, ?_, ?_⟩
    · rw [← List.cons_append, Token.scanFrom_isFirst ink isFirst (List.prefix_refl after), again]
      rfl
    · rw [List.map_cons, same]
      rfl

/-- What depends on the shapes of tokens alone is the same of tokens with the same shapes. -/
theorem Filter.Token.map_of_shapes {α : Type} {f : TokenKind × String → α}
    {tokens others : List Token} (same : tokens.map Token.shape = others.map Token.shape) :
    (tokens.map fun token => f token.shape) = others.map fun token => f token.shape := by
  have split (tokens : List Token) :
      (tokens.map fun token => f token.shape) = (tokens.map Token.shape).map f :=
    (List.map_map).symm
  rw [split, split, same]

namespace SpacedWords

variable {words : List (List Char)} {cs tail : List Char}

theorem bare (h : SpacedWords words cs) : ∀ word ∈ words, isBare word = true := by
  induction h with
  | last bare => exact List.forall_mem_singleton.mpr bare
  | cons bare _ _ _ ih => exact List.forall_mem_cons.mpr ⟨bare, ih⟩

theorem nonempty (h : SpacedWords words cs) : words ≠ [] := by
  cases h <;> exact List.cons_ne_nil _ _

/-- Spaced words are cut into the words. What stands behind them is cut by itself. -/
theorem scan (h : SpacedWords words cs) (stops : StopsWord tail) {tokens : List Token}
    (scanned : Token.scanFrom 0 tail = .ok tokens) (position : Nat) :
    ∃ texts moved, scanFrom position (cs ++ tail) = .ok (texts ++ moved) ∧
      texts.map Token.shape = words.map (fun word => (.text, String.ofList word)) ∧
      moved.map Token.shape = tokens.map Token.shape := by
  induction h generalizing position with
  | @last word bare =>
    obtain ⟨moved, again, same⟩ := scanFrom_move scanned (position + byteLength word)
    refine ⟨[⟨.text, String.ofList word, position⟩], moved, ?_, rfl, same⟩
    rw [scanFrom_mark (isMark_of_isBare bare stops), again]
    rfl
  | @cons word gap cs words bare blank apart later ih =>
    obtain ⟨texts, moved, again, own, same⟩ :=
      ih (position + byteLength word + byteLength gap)
    refine ⟨⟨.text, String.ofList word, position⟩ :: texts, moved, ?_, ?_, same⟩
    · have stops : StopsWord (gap ++ (cs ++ tail)) := .blanks blank fun empty => absurd empty apart
      rw [List.append_assoc, List.append_assoc, scanFrom_mark (isMark_of_isBare bare stops),
        scanFrom_blanks blank, again]
      rfl
    · rw [List.map_cons, own]
      rfl

end SpacedWords

section Quoted

variable {words : List (List Char)} (bare : ∀ word ∈ words, isBare word = true)
  (closes : (joinWords words).getLast? ≠ some '\\')

include bare closes

/-- Joined words in quotes are one text. What stands behind them is cut by itself. -/
theorem scan_joinWords {tail : List Char} {tokens : List Token}
    (scanned : Token.scanFrom 0 tail = .ok tokens) :
    ∃ token moved,
      scanFrom 0 ('"' :: (joinWords words ++ ['"']) ++ tail) = .ok (token :: moved) ∧
      token.shape = (.text, String.ofList ('"' :: (joinWords words ++ ['"']))) ∧
      moved.map Token.shape = tokens.map Token.shape := by
  have taken : takeQuoted? (joinWords words ++ ['"'] ++ tail) =
      some (joinWords words, (joinWords words ++ ['"']).length) := by
    have read := takeQuoted?_escapeQuotes closes tail
    rw [escapeQuotes_joinWords bare] at read
    rw [List.append_assoc, List.singleton_append, read, List.length_append, List.length_singleton]
  obtain ⟨moved, again, same⟩ :=
    scanFrom_move scanned (0 + byteLength ('"' :: (joinWords words ++ ['"'])))
  refine ⟨⟨.text, String.ofList ('"' :: (joinWords words ++ ['"'])), 0⟩, moved, ?_, rfl, same⟩
  rw [scanFrom_quoted taken rfl, again]
  rfl

end Quoted

/-! ## Meaning -/

/-- Tokens of words are texts. -/
theorem texts_words {words : List (List Char)} {texts : List Token} (some : words ≠ [])
    (own : texts.map Token.shape = words.map fun word => (.text, String.ofList word)) :
    Texts texts := by
  constructor
  · rintro rfl
    exact some (List.map_eq_nil_iff.mp own.symm)
  · intro token mem
    have inside := List.mem_map_of_mem (f := Token.shape) mem
    rw [own] at inside
    obtain ⟨word, -, shape⟩ := List.mem_map.mp inside
    exact (congrArg Prod.fst shape).symm

/-- Tokens of bare words spell these words together. -/
theorem joinTexts?_words {words : List (List Char)} {texts : List Token} (h : Texts texts)
    (bare : ∀ word ∈ words, isBare word = true)
    (own : texts.map Token.shape = words.map fun word => (.text, String.ofList word)) :
    joinTexts? (texts.map Token.phrase) = some (String.ofList (joinWords words)) := by
  have unquoted : (texts.map fun token => unquote token.text) = words := by
    have split : (texts.map fun token => unquote token.text) =
        (texts.map Token.shape).map fun shape => unquote shape.2 := by
      rw [List.map_map]
      rfl
    rw [split, own, List.map_map]
    refine (List.map_congr_left fun word mem => ?_).trans (List.map_id words)
    show unquote (String.ofList word) = word
    have spelled := unquote_operandToken word
    rwa [operandToken, if_pos (bare word mem)] at spelled
  rw [joinTexts?_texts h, unquoted, trimChars_joinWords bare]

namespace Comparison

/-- The comparison of a name and what follows it: nothing, an operator, or an operator and texts. -/
def ofName? (name : String) : List Phrase → Option Comparison
  | [] => some (anywhere name)
  | mark :: right =>
    (Operator.ofToken? mark.text).bind fun operator =>
      if operator.takesValue then
        (joinTexts? right).bind fun value => some { field := name, operator, value := some value }
      else if right.isEmpty then some { field := name, operator, value := none }
      else none

/-- A name is the field of its comparison, or what any field has to match. -/
theorem name_of_ofName? {name : String} {more : List Phrase} {comparison : Comparison}
    (h : ofName? name more = some comparison) :
    comparison.field = name ∨ comparison = anywhere name := by
  cases more with
  | nil => exact .inr (Option.some.inj h).symm
  | cons mark right =>
    obtain ⟨operator, -, h⟩ := Option.bind_eq_some_iff.mp h
    split at h
    · obtain ⟨value, -, h⟩ := Option.bind_eq_some_iff.mp h
      cases h
      exact .inl rfl
    · split at h
      · cases h
        exact .inl rfl
      · cases h

variable {texts more : List Token} {name : String}

theorem ofConstant?_name (h : Texts texts)
    (spelled : joinTexts? (texts.map Token.phrase) = some name) (trimmed : Text.trim name = name)
    (nonempty : name ≠ "") : ofConstant? "" (texts.map Token.phrase) = some (anywhere name) := by
  have some : (texts.map Token.phrase).isEmpty = false := by simp [h.nonempty]
  rw [ofConstant?_eq, some, if_neg Bool.false_ne_true, spelled, Option.bind_some, trimmed,
    if_neg fun empty => nonempty (String.isEmpty_iff.mp empty)]

theorem ofOperation?_name (h : Texts texts)
    (spelled : joinTexts? (texts.map Token.phrase) = some name) {mark : Token}
    (isMark : mark.kind = .operator ∨ mark.kind = .present) (right : List Phrase) :
    ofOperation? (texts.map Token.phrase ++ mark.phrase :: right) =
      ofName? name (mark.phrase :: right) := by
  rw [ofOperation?_eq (isOperatorPhrase_texts h) (isOperatorPhrase_mark isMark), spelled]
  rfl

/-- Texts that spell a name, with what may follow a name, are an operand with the comparison of this
name. -/
theorem exists_ofName? (h : Texts texts) (spelled : joinTexts? (texts.map Token.phrase) = some name)
    (trimmed : Text.trim name = name) (nonempty : name ≠ "")
    (kinds : more.map Token.kind ∈ [[], [.present], [.operator, .text]]) :
    ∃ phrase, ReadsOperand (texts ++ more) phrase [] ∧
      ofPhrase? phrase = ofName? name (more.map Token.phrase) := by
  match more, kinds with
  | [], _ =>
    exact ⟨_, .constant h (by simp), ofConstant?_name h spelled trimmed nonempty⟩
  | [mark], kinds =>
    have isPresent : mark.kind = .present := by simpa using kinds
    refine ⟨_, .presence h isPresent, ?_⟩
    rw [Filter.Phrase.ofPhrase?_presence]
    exact ofOperation?_name h spelled (.inr isPresent) []
  | [mark, value], kinds =>
    obtain ⟨isOperator, isText⟩ : mark.kind = .operator ∧ value.kind = .text := by
      simpa using kinds
    refine ⟨_, .operation h isOperator isText, ?_⟩
    rw [Filter.Phrase.ofPhrase?_operation]
    exact ofOperation?_name h spelled (.inl isOperator) [value.phrase]
  | _ :: _ :: _ :: _, kinds => simp at kinds

/-- What may follow a name always makes a comparison with it. -/
theorem isSome_ofName? {tail : String} (scanned : Token.scan tail = .ok more)
    (kinds : more.map Token.kind ∈ [[], [.present], [.operator, .text]]) :
    (ofName? name (more.map Token.phrase)).isSome := by
  have admits := Token.admits_of_scan scanned
  match more, kinds with
  | [], _ => rfl
  | [mark], kinds =>
    have isPresent : mark.kind = .present := by simpa using kinds
    have spelled := admits mark List.mem_cons_self
    rw [isPresent] at spelled
    have known : Operator.ofToken? mark.phrase.text = some .present := by
      show Operator.ofToken? mark.text = _
      rw [String.toList_inj.mp spelled, Operator.ofToken?_token]
    rw [List.map_singleton, ofName?, known]
    rfl
  | [mark, value], kinds =>
    obtain ⟨isOperator, isText⟩ : mark.kind = .operator ∧ value.kind = .text := by
      simpa using kinds
    have spelled := admits mark List.mem_cons_self
    rw [isOperator] at spelled
    obtain ⟨operator, takesValue, text⟩ := spelled
    have known : Operator.ofToken? mark.phrase.text = some operator := by
      show Operator.ofToken? mark.text = _
      rw [String.toList_inj.mp text, Operator.ofToken?_token]
    have right : joinTexts? ([value].map Token.phrase) = _ :=
      joinTexts?_texts (texts_singleton isText)
    rw [List.map_cons, ofName?, known, Option.bind_some, if_pos takesValue, right]
    rfl
  | _ :: _ :: _ :: _, kinds => simp at kinds

end Comparison

namespace Filter

variable {words : List (List Char)} {text tail : String}

/-- A text that is cut into texts that spell a name, and then into what may follow a name, makes the
comparison of this name. The positions of the tokens do not matter. -/
theorem compile?_of_ofName? {name : String} {texts moved tokens : List Token}
    {comparison : Comparison} (h : Texts texts)
    (spelled : joinTexts? (texts.map Token.phrase) = some name) (trimmed : Text.trim name = name)
    (nonempty : name ≠ "") (kinds : tokens.map Token.kind ∈ [[], [.present], [.operator, .text]])
    (made : Comparison.ofName? name (tokens.map Token.phrase) = some comparison)
    (same : moved.map Token.shape = tokens.map Token.shape)
    (read : Token.scan text = .ok (texts ++ moved)) :
    compile? text = some { clauses := [{ left := comparison }] } := by
  have sameKinds : moved.map Token.kind = tokens.map Token.kind :=
    Token.map_of_shapes (f := Prod.fst) same
  have samePhrases : moved.map Token.phrase = tokens.map Token.phrase :=
    Token.map_of_shapes (f := fun shape => Phrase.token shape.1.phraseKind shape.2) same
  rw [← sameKinds] at kinds
  obtain ⟨phrase, reads, meant⟩ := Comparison.exists_ofName? h spelled trimmed nonempty kinds
  rw [samePhrases, made] at meant
  exact compile?_of_operand read reads meant

/-- A name of spaced words and the same name in quotes, its words joined by single blanks, are read
alike, whatever follows. -/
theorem compile?_spacedWords (spaced : SpacedWords words text.toList)
    (closes : ∀ word ∈ words.getLast?, word.getLast? ≠ some '\\') (follows : IsNameTail tail) :
    ∃ comparison, (comparison.field = String.ofList (joinWords words) ∨
        comparison = .anywhere (String.ofList (joinWords words))) ∧
      compile? (text ++ tail) = some { clauses := [{ left := comparison }] } ∧
      compile? ("\"" ++ String.ofList (joinWords words) ++ "\"" ++ tail) =
        some { clauses := [{ left := comparison }] } := by
  obtain ⟨stops, tokens, scanned, kinds⟩ := follows
  have bare := spaced.bare
  have trimmed := trim_joinWords bare
  have nonempty := ofList_joinWords_ne bare spaced.nonempty
  have ends : (joinWords words).getLast? ≠ some '\\' := by
    rw [getLast?_joinWords (ne_nil_of_isBare bare)]
    intro last
    obtain ⟨word, mem, last⟩ := Option.bind_eq_some_iff.mp last
    exact closes word mem last
  obtain ⟨comparison, made⟩ :=
    Option.isSome_iff_exists.mp (Comparison.isSome_ofName? scanned kinds)
  -- both texts begin with texts that spell the name, and end in the tokens of the tail
  refine ⟨comparison, Comparison.name_of_ofName? made, ?_, ?_⟩
  · obtain ⟨texts, moved, read, own, same⟩ := spaced.scan stops scanned 0
    have texts := texts_words spaced.nonempty own
    refine compile?_of_ofName? texts (joinTexts?_words texts bare own) trimmed nonempty kinds made
      same ?_
    rw [Token.scan, String.toList_append, read]
  · obtain ⟨token, moved, read, own, same⟩ := scan_joinWords bare ends scanned
    have phrase : token.phrase =
        .token .text (String.ofList ('"' :: (joinWords words ++ ['"']))) :=
      Token.phrase_of_shape own.symm
    have spelled : joinTexts? ([token].map Token.phrase) =
        some (String.ofList (joinWords words)) := by
      rw [List.map_singleton, phrase, joinTexts?_quoted, trimChars_joinWords bare]
    have chars : ("\"" ++ String.ofList (joinWords words) ++ "\"" ++ tail).toList =
        '"' :: (joinWords words ++ ['"']) ++ tail.toList := by
      simp
    refine compile?_of_ofName? (texts_singleton (congrArg Prod.fst own)) spelled trimmed nonempty
      kinds made same ?_
    rw [Token.scan, chars, read]
    rfl

/-- A tab and blanks between three words, the second of which ends in a backslash. -/
theorem compile?_spacedWords_tab :
    let words := ["thread".toList, "full\\".toList, "name".toList]
    let text := "thread\tfull\\   name"
    let tail := " contains\"a b\""
    SpacedWords words text.toList ∧ IsNameTail tail ∧
    ∃ comparison, (comparison.field = String.ofList (joinWords words) ∨
        comparison = .anywhere (String.ofList (joinWords words))) ∧
      compile? (text ++ tail) = some { clauses := [{ left := comparison }] } ∧
      compile? ("\"" ++ String.ofList (joinWords words) ++ "\"" ++ tail) =
        some { clauses := [{ left := comparison }] } := by
  intro words text tail
  have spaced : SpacedWords words text.toList := by
    have chars : text.toList = "thread".toList ++ ("\t".toList ++
        ("full\\".toList ++ ("   ".toList ++ "name".toList))) := by decide
    have last : SpacedWords ["name".toList] "name".toList := .last (by decide)
    rw [chars]
    exact .cons (by decide) (List.all_eq_true.mp (by decide)) (by decide)
      (.cons (by decide) (List.all_eq_true.mp (by decide)) (by decide) last)
  have follows : IsNameTail tail := by
    refine ⟨?_, [⟨.operator, "contains", 1⟩, ⟨.text, "\"a b\"", 9⟩], by decide +kernel, by decide⟩
    have head : tail.toList.head? = some ' ' := by decide
    rw [StopsWord, head]
    rintro _ ⟨⟩
    rfl
  exact ⟨spaced, follows, compile?_spacedWords spaced (by decide) follows⟩

end Filter

end EventSieve
