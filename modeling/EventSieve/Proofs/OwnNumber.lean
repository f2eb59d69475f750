import EventSieve.Proofs.Agreement
import EventSieve.Proofs.Quoting
import EventSieve.Proofs.RecordLines

/-!
# Numbers that equal themselves

A record with a whole number is tested against the digits that it was written with. Up to 64 bits
the number equals itself. Beyond them the digits have no number, so the text of the floating-point
number in the record decides, and that is seldom the numeral: it has the shortest digits.

## Main definitions

* `IsOwnName` — names of fields that a filter and a line spell alike
* `Filter.Decides` — the outcome of a filter for a JSON object, as a record and as an event

## Main statements

* `Filter.compile?_plain` — operands without quotes are read as they are
* `Filter.decides_single` — what a comparison makes of a record with one member
* `WholeNumeral.decides_itself_iff` — the whole numbers that equal themselves
-/
namespace EventSieve

open EventSieve.Filter (wordKind endsWord isMark)

/-! ## Operands without quotes -/

/-- A comparison as a filter. -/
def Filter.single (field : String) (operator : Operator) (value : String) : Filter :=
  { clauses := [.ofComparison { field, operator, value := some value }] }

theorem quoted_of_isBare {text : String} (bare : isBare text.toList = true) :
    quoted text = text := by
  rw [quoted, quotedChars, if_pos bare, String.ofList_toList]

theorem closes_of_isBare {text : List Char} (bare : isBare text = true) : Closes text := by
  intro quoted
  rw [bare] at quoted
  cases quoted

/-- A comparison of operands without quotes is read as it is written. -/
theorem Filter.compile?_plain {field value : String} {operator : Operator}
    (bareField : isBare field.toList = true) (bareValue : isBare value.toList = true)
    (takesValue : operator.takesValue = true) (named : field ≠ anyField) :
    compile? (field ++ (" " ++ operator.token ++ " ") ++ value) =
      some (single field operator value) := by
  have notAnywhere : (field == anyField) = false := beq_eq_false_iff_ne.mpr named
  have read : (single field operator value).IsRead := by
    refine ⟨List.cons_ne_nil _ _, rfl, fun comparison mem => ?_⟩
    cases List.mem_singleton.mp mem
    refine ⟨rfl, Text.trim_of_isBare bareField, fun text mem => ?_, takesValue.symm⟩
    cases mem
    exact Text.trim_of_isBare bareValue
  have safe : (single field operator value).IsSafe := by
    refine ⟨fun comparison mem => ?_, .singleton _⟩
    cases List.mem_singleton.mp mem
    refine ⟨closes_of_isBare bareField, fun text mem => ?_, fun pattern => ?_⟩
    · cases mem
      exact closes_of_isBare bareValue
    · exact absurd (Comparison.isPattern_iff.mp pattern).1 named
  have text : (single field operator value).text =
      field ++ (" " ++ operator.token ++ " ") ++ value := by
    have left : Comparison.text { field, operator, value := some value } =
        field ++ (" " ++ operator.token ++ " ") ++ value := by
      rw [Comparison.text, ← String.append_assoc, ← String.append_assoc]
      simp only [Comparison.isAnywhere, notAnywhere, takesValue, Option.getD_some,
        quoted_of_isBare bareField, quoted_of_isBare bareValue, Bool.false_and, Bool.false_eq_true,
        if_false, if_true]
    rw [Filter.text, single, List.map_singleton, Clause.text]
    simp only [left, Bool.false_eq_true, if_false]
    rfl
  rw [compile?, ← text, parse_text read safe]
  exact ofPhrase?_phrase read safe.comparisons

/-! ## Records with one member -/

/-- Names of fields that a filter spells without quotes, and a line without escapes, and that stand
for no other part of an event. -/
structure IsOwnName (name : String) : Prop where
  bare : isBare name.toList = true
  plain : Json.IsPlainKey name
  notAny : name ≠ anyField
  notHeader : name ∉ [timestampName, eventTypeName, traceTypeName, contentsName]
  notPayload : name ≠ payloadName

instance (name : String) : Decidable (IsOwnName name) :=
  decidable_of_iff (isBare name.toList = true ∧ Json.IsPlainKey name ∧ name ≠ anyField ∧
      name ∉ [timestampName, eventTypeName, traceTypeName, contentsName] ∧ name ≠ payloadName)
    ⟨fun ⟨h1, h2, h3, h4, h5⟩ => ⟨h1, h2, h3, h4, h5⟩,
      fun ⟨h1, h2, h3, h4, h5⟩ => ⟨h1, h2, h3, h4, h5⟩⟩

/-- The outcome of a filter by the default rules for a JSON object: as a record, and as an event by
its predicate and by its tree. -/
structure Filter.Decides (filter : Filter) (value : Json) (outcome : Bool) : Prop where
  record : (Predicate.ofFilter {} {} filter).accepts (Record.ofJson value) = outcome
  event : ∀ keys, (Predicate.ofFilter {} {} filter).acceptsEvent (Event.ofJson keys value) = outcome
  tree : ∀ keys, (({} : Generator).tree filter).accepts (Event.ofJson keys value) = outcome

section

variable {name : String} {value : Option Value} {json : Json}
  (own : IsOwnName name)
  (entries : (Record.ofJson json).entries = value.toList.map fun value => (name, value))

include entries

/-- The entries with wanted names are all entries if the name of the member is wanted. -/
theorem map_filter_entries {p : String → Bool} (wanted : p name = true) :
    ((Record.ofJson json).entries.filter (p ·.1)).map Prod.snd = value.toList := by
  rw [entries]
  cases value with
  | none => rfl
  | some value =>
    show ([(name, value)].filter _).map Prod.snd = _
    rw [List.filter_cons, wanted]
    rfl

theorem valuesFor_ofJson (aliasMark : String) :
    (Record.ofJson json).valuesFor name aliasMark = value.toList := by
  refine map_filter_entries entries ?_
  rw [Record.concerns, beq_self_eq_true, Bool.or_true, Bool.true_or]

theorem get?_ofJson : (Record.ofJson json).get? name = value := by
  rw [Record.get?, entries]
  cases value with
  | none => rfl
  | some value =>
    show List.lookup name [(name, value)] = _
    rw [List.lookup_cons, beq_self_eq_true]

include own

/-- Neither the header nor the member stands for a derived entry of the name. -/
theorem sameValues_ofJson (keys : HeaderKeys) :
    (Event.ofJson keys json).SameValues defaultAlias name where
  notAny := own.notAny
  notPayload := own.notPayload
  notHidden header := absurd header own.notHeader
  notDerived := by
    intro _ entry mem derived
    have chars : entry.1.toList = '>' :: ' ' :: name.toList := by
      rw [derived, String.toList_append]
      rfl
    -- no name of the header begins like the mark, and the name itself is shorter
    have header : ∀ header ∈ [timestampName, eventTypeName, traceTypeName, contentsName],
        header.toList.head? ≠ some '>' := by decide
    have known : entry.1 ∈ [timestampName, eventTypeName, traceTypeName, contentsName] ∨
        entry.1 = name := by
      have fields : (Event.ofJson keys json).fields = value.toList.map fun value => (name, value) :=
        entries
      rw [Event.toRecord, fields] at mem
      simp only [List.mem_cons, List.mem_map] at mem
      rcases mem with rfl | rfl | rfl | rfl | ⟨value, -, rfl⟩ <;> simp
    rcases known with named | named
    · exact header _ named (congrArg List.head? chars)
    · rw [named] at chars
      have length := congrArg List.length chars
      simp only [List.length_cons] at length
      omega

theorem valuesFor_toRecord_ofJson (keys : HeaderKeys) :
    (Event.ofJson keys json).toRecord.valuesFor name defaultAlias = value.toList := by
  rw [(sameValues_ofJson own entries keys).valuesFor_eq, Event.map_filter_toRecord _ own.notHeader]
  exact map_filter_entries (p := (· == name)) entries (beq_self_eq_true name)

/-- A comparison is decided by the value of the one member. -/
theorem Filter.decides_single (operator : Operator) (raw : String) :
    (single name operator raw).Decides json
      ((Comparator.bind operator (some raw) {} false false).testAny value.toList) := by
  have test (record : Record) (found : record.valuesFor name defaultAlias = value.toList) :
      Predicate.test {} {} record { field := name, operator, value := some raw } =
        (Comparator.bind operator (some raw) {} false false).testAny value.toList := by
    rw [← found]
    rfl
  have event (keys : HeaderKeys) := test _ (valuesFor_toRecord_ofJson own entries keys)
  refine ⟨?_, fun keys => ?_, fun keys => ?_⟩
  · rw [Predicate.accepts_ofFilter, single, outcome_single]
    exact test _ (valuesFor_ofJson entries _)
  · rw [Predicate.acceptsEvent, Predicate.accepts_ofFilter, single, outcome_single]
    exact event keys
  · rw [Generator.accepts_tree, single, outcome_single, ← event keys]
    exact (Generator.test_eq _ {} (.inr (sameValues_ofJson own entries keys))).symm

end

/-! ## Numbers that are compared with their digits -/

namespace WholeNumeral

variable {n : WholeNumeral} {member : Json}

theorem endsWord_of_mem_chars {c : Char} (mem : c ∈ n.chars) : endsWord c = false := by
  have known : c = '-' ∨ c.isDigit = true := by
    obtain ⟨d, cs, same, isDigit, first⟩ := n.exists_chars
    rw [same, List.mem_cons] at mem
    rcases mem with rfl | later
    · exact first
    · exact .inr (isDigit c later)
  rcases known with rfl | digit
  · rfl
  · have other {d : Char} := Number.beq_of_isDigit (d := d) digit
    rw [endsWord, Number.isBlank_of_isDigit digit, isMark, other rfl, other rfl, other rfl,
      other rfl, other rfl, other rfl, other rfl, other rfl, other rfl]
    rfl

/-- A numeral needs no quotes. -/
theorem isBare_text (n : WholeNumeral) : isBare n.text.toList = true := by
  have nonempty : n.chars.isEmpty = false := by
    obtain ⟨c, cs, same, -, -⟩ := n.exists_chars
    rw [same]
    rfl
  have kind : wordKind n.chars = .text := by
    rw [wordKind, if_neg, if_neg]
    · exact n.chars_ne_cons rfl (by decide) _
    · rintro (word | word)
      · exact n.chars_ne_cons rfl (by decide) _ word
      · exact n.chars_ne_cons rfl (by decide) _ word
  have plain : n.chars.any endsWord = false :=
    List.any_eq_false.mpr fun c mem => Bool.eq_false_iff.mp (endsWord_of_mem_chars mem)
  rw [text, String.toList_ofList, isBare_eq, nonempty, kind, plain]
  rfl

/-- A comparison with a numeral is read as it is written. -/
theorem compile?_comparison (n : WholeNumeral) {name : String} (own : IsOwnName name)
    (operator : Operator) (takesValue : operator.takesValue = true) :
    Filter.compile? (name ++ (" " ++ operator.token ++ " ") ++ n.text) =
      some (Filter.single name operator n.text) :=
  Filter.compile?_plain own.bare n.isBare_text takesValue own.notAny

/-- Up to 64 bits a value equals its numeral. Beyond them it does so as a text only. -/
theorem equals_value_iff (read : n.IsReadAs member) :
    (Value.ofJson? member).toList.any
        (valuesEqual · (({} : Coercion).preparePlain n.text) false {}) = true ↔
      n.FitsInt64 ∨ ∃ x, Value.ofJson? member = some (.float x) ∧ x.plainText = n.text := by
  by_cases fits : n.FitsInt64
  · obtain ⟨value, known, same⟩ := read.text_of_fits fits
    have sameText : sameText false value.text (({} : Coercion).preparePlain n.text).text = true := by
      rw [Coercion.text_preparePlain, same]
      exact beq_self_eq_true n.text
    have equal : valuesEqual value (({} : Coercion).preparePlain n.text) false {} = true := by
      rw [valuesEqual, sameText, Bool.or_true, Bool.true_or]
    rw [known, Option.toList_some, List.any_cons, equal]
    exact ⟨fun _ => .inl fits, fun _ => rfl⟩
  · have plain : ({} : Coercion).preparePlain n.text = .plain n.text := by
      rw [Coercion.preparePlain, n.number?_eq_none (n.magnitude_of_not_fits fits)]
    rw [plain]
    cases known : Value.ofJson? member with
    | none => simp [fits]
    | some value =>
      obtain ⟨x, rfl⟩ := read.float_of_not_fits fits known
      have equal : valuesEqual (.float x) (.plain n.text) false {} = (x.plainText == n.text) := by
        show (false || (x.plainText == n.text) || false) = _
        rw [Bool.false_or, Bool.or_false]
      rw [Option.toList_some, List.any_cons, List.any_nil, Bool.or_false, equal]
      simp [fits]

/-- A record with a whole number is tested against the digits of that number. -/
theorem decides_itself {name : String} (own : IsOwnName name) (read : n.IsReadAs member) :
    let equal := (Value.ofJson? member).toList.any
      (valuesEqual · (({} : Coercion).preparePlain n.text) false {})
    (Filter.single name .equals n.text).Decides (.object [(name, member)]) equal ∧
      (Filter.single name .notEquals n.text).Decides (.object [(name, member)]) !equal := by
  intro equal
  have entries := read.entries_ofJson name
  have equals := Filter.decides_single own entries .equals n.text
  have unequals := Filter.decides_single own entries .notEquals n.text
  have same : (Comparator.bind .equals (some n.text) {} false false).testAny
      (Value.ofJson? member).toList = equal := Bool.xor_false equal
  have opposite : (Comparator.bind .notEquals (some n.text) {} false false).testAny
      (Value.ofJson? member).toList = !equal := Bool.xor_true equal
  rw [same] at equals
  rw [opposite] at unequals
  exact ⟨equals, unequals⟩

/-- The filters `name == n` and `name != n` are opposites on the line of a member with the whole
number `n`, and the first accepts it exactly if 64 bits hold the number or the member has the text
of the numeral as a floating-point number. -/
theorem decides_itself_iff {name : String} (own : IsOwnName name) (n : WholeNumeral) (line : Nat) :
    ∃ value equal unequal outcome,
      RecordLine.parse (RecordLine.ofMember name n) line = .ok value ∧
      Filter.compile? (name ++ " == " ++ n.text) = some equal ∧
      Filter.compile? (name ++ " != " ++ n.text) = some unequal ∧
      equal.Decides value outcome ∧ unequal.Decides value (!outcome) ∧
      (outcome = true ↔ n.FitsInt64 ∨
        ∃ x, (Record.ofJson value).get? name = some (.float x) ∧ x.plainText = n.text) := by
  obtain ⟨member, read, parsed⟩ := RecordLine.parse_ofMember n own.plain line
  obtain ⟨equal, unequal⟩ := decides_itself own read
  have found : (Record.ofJson (.object [(name, member)])).get? name = Value.ofJson? member :=
    get?_ofJson (read.entries_ofJson name)
  refine ⟨_, _, _, _, parsed, n.compile?_comparison own .equals rfl,
    n.compile?_comparison own .notEquals rfl, equal, unequal, ?_⟩
  rw [found]
  exact equals_value_iff read

/-- The least number of 64 bits has no digits that fit them without the sign, and equals itself. -/
theorem decides_itself_iff_least :
    let n : WholeNumeral :=
      ⟨true, "9223372036854775808".toList, by decide, List.all_eq_true.mp rfl, by decide⟩
    IsOwnName "f" ∧ ∃ value equal unequal,
      RecordLine.parse (RecordLine.ofMember "f" n) 1 = .ok value ∧
      Filter.compile? "f == -9223372036854775808" = some equal ∧
      Filter.compile? "f != -9223372036854775808" = some unequal ∧
      equal.Decides value true ∧ unequal.Decides value false := by
  intro n
  have own : IsOwnName "f" := by decide +kernel
  have fits : n.FitsInt64 := by decide +kernel
  obtain ⟨value, equal, unequal, outcome, parsed, one, other, kept, lost, iff⟩ :=
    decides_itself_iff own n 1
  cases iff.mpr (.inl fits)
  exact ⟨own, value, equal, unequal, parsed, one, other, kept, lost⟩

/-- The greatest number of 64 bits without a sign does not equal itself: the record has the text
of a floating-point number. -/
theorem decides_itself_ne :
    ∃ value equal unequal,
      RecordLine.parse "\x7b\"f\": 18446744073709551615\x7d" 1 = .ok value ∧
      (Record.ofJson value).get? "f" = some (.float (.ofInt 18446744073709551615)) ∧
      (Value.float (.ofInt 18446744073709551615)).text = "18446744073709552000" ∧
      Filter.compile? "f == 18446744073709551615" = some equal ∧
      Filter.compile? "f != 18446744073709551615" = some unequal ∧
      equal.Decides value false ∧ unequal.Decides value true := by
  let n : WholeNumeral :=
    ⟨false, "18446744073709551615".toList, by decide, List.all_eq_true.mp rfl, by decide⟩
  have own : IsOwnName "f" := by decide +kernel
  have taken : Json.wholeNumber? n.negative n.digits = some (.integer 18446744073709551615) := rfl
  have read := n.isReadAs_of_wholeNumber? taken
  have parsed : RecordLine.parse (RecordLine.ofMember "f" n) 1 =
      .ok (.object [("f", .integer 18446744073709551615)]) := by
    rw [RecordLine.parse, Json.parseStrict?_ofMember n own.plain, taken]
    rfl
  have float : Value.ofJson? (.integer 18446744073709551615) =
      some (.float (.ofInt 18446744073709551615)) := rfl
  have text : (Number.Binary64.ofInt 18446744073709551615).plainText = "18446744073709552000" := by
    decide +kernel
  have differs : (Value.ofJson? (.integer 18446744073709551615)).toList.any
      (valuesEqual · (({} : Coercion).preparePlain n.text) false {}) = false := by
    refine Bool.eq_false_iff.mpr fun same => ?_
    rcases (equals_value_iff read).mp same with fits | ⟨x, known, same⟩
    · exact absurd fits (by decide +kernel)
    · rw [float] at known
      rw [← Value.float.inj (Option.some.inj known), text] at same
      exact absurd same (by decide)
  obtain ⟨equal, unequal⟩ := decides_itself own read
  rw [differs] at equal unequal
  have found := (get?_ofJson (read.entries_ofJson "f")).trans float
  exact ⟨_, _, _, parsed, found, text, n.compile?_comparison own .equals rfl,
    n.compile?_comparison own .notEquals rfl, equal, unequal⟩

end WholeNumeral
end EventSieve
