import EventSieve.RecordFile

/-!
# Record files line by line

A file is cut into lines, each of which is read on its own. So what stands before a line counts only
for its number, and what a line holds does not depend on the others. The bytes of a file are a text
if the bytes of each of its lines are one, since no other character has the byte of a line feed.

## Main definitions

* `RecordFile.HasLines` — the lines of a text, as a relation
* `RecordLine.IsOn` — the record that a line holds
* `RecordLine.later` — a record some lines further on

## Main statements

* `RecordFile.hasLines_iff` — texts are split into their lines
* `RecordFile.ofText_append` — a text after whole lines is read as by itself
* `RecordFile.mem_records_readLines` — the records of some lines
* `RecordFile.isValidUTF8_iff` — bytes are a text if their lines are
* `RecordFile.ofBytes_line_by_line` — what a file is read as
-/
namespace EventSieve

namespace RecordFile

/-! ## Lines -/

/-- The lines of a text. A line has no line feed; it is followed by a line feed, by a return and a
line feed, or, if it is not empty, by the end of the text. -/
inductive HasLines : List Char → List (List Char) → Prop
  | nil : HasLines [] []
  | last {line : List Char} (nonempty : line ≠ []) (plain : '\n' ∉ line) : HasLines line [line]
  | feed {line rest : List Char} {lines : List (List Char)} (plain : '\n' ∉ line)
    (bare : line.getLast? ≠ some '\r') (later : HasLines rest lines) :
    HasLines (line ++ '\n' :: rest) (line :: lines)
  | returnFeed {line rest : List Char} {lines : List (List Char)} (plain : '\n' ∉ line)
    (later : HasLines rest lines) : HasLines (line ++ '\r' :: '\n' :: rest) (line :: lines)

section
variable {c : Char} {cs rest line tail first : List Char} {lines more : List (List Char)}

/-- A character that ends no line belongs to the first one. -/
theorem splitLines_cons (plain : c ≠ '\n') (alone : c = '\r' → rest.head? ≠ some '\n')
    (split : splitLines rest = line :: lines) : splitLines (c :: rest) = (c :: line) :: lines := by
  have apart (more : List Char) (isReturn : c = '\r') : rest ≠ '\n' :: more := by
    rintro rfl
    exact alone isReturn rfl
  cases rest with
  | nil => cases split
  | cons d more =>
    rw [splitLines.eq_5 c _ plain apart, split]
    exact List.cons_ne_nil d more

/-- Characters that end no line belong to the first one. -/
theorem splitLines_append (plain : '\n' ∉ line)
    (apart : line.getLast? = some '\r' → tail.head? ≠ some '\n')
    (split : splitLines tail = first :: lines) :
    splitLines (line ++ tail) = (line ++ first) :: lines := by
  induction line with
  | nil => exact split
  | cons c line ih =>
    rw [List.mem_cons, not_or] at plain
    refine splitLines_cons (Ne.symm plain.1) ?_ (ih plain.2 ?_)
    · rintro rfl
      cases line with
      | nil => exact apart rfl
      | cons d line =>
        intro feed
        exact plain.2 (Option.some.inj feed ▸ List.mem_cons_self)
    · intro isReturn
      cases line with
      | nil => cases isReturn
      | cons d line => exact apart isReturn

/-- The lines of a text are those that it is split into. -/
theorem HasLines.splitLines_eq (h : HasLines cs lines) : splitLines cs = lines := by
  induction h with
  | nil => rfl
  | @last line nonempty plain =>
    obtain ⟨before, c, rfl⟩ := (List.eq_nil_or_concat line).resolve_left nonempty
    rw [List.concat_eq_append, List.mem_append, not_or, List.mem_singleton] at plain
    rw [List.concat_eq_append]
    refine splitLines_append plain.1 (fun _ feed => ?_) ?_
    · exact plain.2 (Option.some.inj feed).symm
    · exact splitLines.eq_4 c (Ne.symm plain.2) fun _ _ => nofun
  | @feed line rest lines plain bare later ih =>
    have split : splitLines ('\n' :: rest) = [] :: lines := by rw [splitLines, ih]
    rw [splitLines_append plain (fun isReturn => absurd isReturn bare) split, List.append_nil]
  | @returnFeed line rest lines plain later ih =>
    have split : splitLines ('\r' :: '\n' :: rest) = [] :: lines := by rw [splitLines, ih]
    rw [splitLines_append plain (fun _ => by simp) split, List.append_nil]

/-- A character before the first line that does not end it. -/
theorem HasLines.cons (plain : c ≠ '\n') (alone : c = '\r' → rest.head? ≠ some '\n')
    (h : HasLines rest (line :: lines)) : HasLines (c :: rest) ((c :: line) :: lines) := by
  have noFeed {line : List Char} (inner : '\n' ∉ line) : '\n' ∉ c :: line := by
    simp [inner, Ne.symm plain]
  cases h with
  | last nonempty inner => exact .last (List.cons_ne_nil c _) (noFeed inner)
  | returnFeed inner later => exact .returnFeed (noFeed inner) later
  | feed inner bare later =>
    refine .feed (noFeed inner) ?_ later
    cases line with
    | nil => simpa using alone
    | cons d line => simpa using bare

theorem HasLines.ne_nil (h : HasLines cs lines) (nonempty : cs ≠ []) : lines ≠ [] := by
  cases h with
  | nil => exact absurd rfl nonempty
  | _ => exact List.cons_ne_nil _ _

/-- Every text has lines. -/
theorem exists_hasLines : ∀ cs : List Char, ∃ lines, HasLines cs lines
  | [] => ⟨[], .nil⟩
  | [c] => by
    by_cases feed : c = '\n'
    · subst feed
      exact ⟨[[]], .feed List.not_mem_nil nofun .nil⟩
    · exact ⟨[[c]], .last (List.cons_ne_nil c []) (by simpa using Ne.symm feed)⟩
  | c :: d :: rest => by
    obtain ⟨lines, next⟩ := exists_hasLines (d :: rest)
    by_cases feed : c = '\n'
    · subst feed
      exact ⟨[] :: lines, .feed List.not_mem_nil nofun next⟩
    by_cases returnFeed : c = '\r' ∧ d = '\n'
    · obtain ⟨rfl, rfl⟩ := returnFeed
      obtain ⟨lines, later⟩ := exists_hasLines rest
      exact ⟨[] :: lines, .returnFeed List.not_mem_nil later⟩
    · have alone : c = '\r' → (d :: rest).head? ≠ some '\n' := by simpa using returnFeed
      cases lines with
      | nil => exact absurd rfl (next.ne_nil (List.cons_ne_nil d rest))
      | cons line lines => exact ⟨(c :: line) :: lines, next.cons feed alone⟩

/-- A text is split into its lines. -/
theorem hasLines_iff : HasLines cs lines ↔ splitLines cs = lines := by
  obtain ⟨own, h⟩ := exists_hasLines cs
  constructor
  · exact HasLines.splitLines_eq
  · rintro rfl
    rwa [h.splitLines_eq]

theorem hasLines_splitLines (cs : List Char) : HasLines cs (splitLines cs) :=
  hasLines_iff.mpr rfl

/-- A last line without its end is none. -/
theorem not_ended (nonempty : line ≠ []) (plain : '\n' ∉ line) :
    ¬∀ c ∈ line.getLast?, c = '\n' := by
  intro ended
  have feed := ended _ (List.getLast?_eq_some_getLast nonempty)
  exact plain (feed ▸ List.getLast_mem nonempty)

theorem ended_of_suffix (ended : ∀ c ∈ cs.getLast?, c = '\n') (behind : rest <:+ cs) :
    ∀ c ∈ rest.getLast?, c = '\n' := by
  obtain ⟨before, rfl⟩ := behind
  intro c last
  exact ended c (by simp [Option.mem_def.mp last])

/-- A text after whole lines adds its lines to them. -/
theorem HasLines.append (h : HasLines cs lines) (ended : ∀ c ∈ cs.getLast?, c = '\n')
    (later : HasLines rest more) : HasLines (cs ++ rest) (lines ++ more) := by
  induction h with
  | nil => exact later
  | last nonempty plain => exact absurd ended (not_ended nonempty plain)
  | @feed line _ _ plain bare _ ih =>
    rw [List.append_assoc]
    exact .feed plain bare (ih (ended_of_suffix ended ⟨line ++ ['\n'], by simp⟩))
  | @returnFeed line _ _ plain _ ih =>
    rw [List.append_assoc]
    exact .returnFeed plain (ih (ended_of_suffix ended ⟨line ++ ['\r', '\n'], by simp⟩))

/-- Whole lines are as many as their line feeds. -/
theorem HasLines.length_eq (h : HasLines cs lines) (ended : ∀ c ∈ cs.getLast?, c = '\n') :
    lines.length = cs.count '\n' := by
  induction h with
  | nil => rfl
  | last nonempty plain => exact absurd ended (not_ended nonempty plain)
  | @feed line _ _ plain bare _ ih =>
    have rest := ih (ended_of_suffix ended ⟨line ++ ['\n'], by simp⟩)
    simp [rest, List.count_eq_zero.mpr plain]
  | @returnFeed line _ _ plain _ ih =>
    have rest := ih (ended_of_suffix ended ⟨line ++ ['\r', '\n'], by simp⟩)
    simp [rest, List.count_eq_zero.mpr plain]

end

end RecordFile

/-! ## Records -/

/-- An error some lines further on. -/
def LineError.later (count : Nat) : LineError → LineError
  | invalidJson line => invalidJson (line + count)
  | notAnObject line => notAnObject (line + count)

namespace RecordLine

/-- A record some lines further on. -/
def later (count : Nat) (record : RecordLine) : RecordLine :=
  { record with line := record.line + count }

/-- The record that a line with a number holds: one with an object, without its blanks, that does
not begin like a comment. -/
structure IsOn (record : RecordLine) (number : Nat) (line : List Char) : Prop where
  counted : record.line = number
  whole : record.text = String.ofList line
  notBlank : Text.trimChars line ≠ []
  notHash : ¬['#'] <+: Text.trimChars line
  notSlashes : ¬['/', '/'] <+: Text.trimChars line
  parsed : RecordLine.parse (String.ofList (Text.trimChars line)) number = .ok record.value

/-- The number of a line only shows in errors. -/
theorem parse_add (text : String) (line count : Nat) :
    parse text (line + count) = (parse text line).mapError (·.later count) := by
  rw [parse, parse]
  cases Json.parseStrict? text <|> Json.parseLenient? text with
  | none => rfl
  | some value =>
    dsimp only
    cases value.isObject <;> rfl

end RecordLine

namespace RecordFile

variable {line number : Nat} {cs : List Char} {lines more : List (List Char)} {record : RecordLine}

/-- An outcome some lines further on. -/
def laterOutcome (count : Nat) : Except LineError RecordLine → Except LineError RecordLine
  | .ok record => .ok (record.later count)
  | .error fault => .error (fault.later count)

theorem isNoise_eq_false_iff :
    isNoise cs = false ↔ cs ≠ [] ∧ ¬['#'] <+: cs ∧ ¬['/', '/'] <+: cs := by
  simp [isNoise, ← Bool.not_eq_true, and_assoc]

theorem readLine?_add (line count : Nat) (cs : List Char) :
    readLine? (line + count) cs = (readLine? line cs).map (laterOutcome count) := by
  by_cases noise : isNoise (Text.trimChars cs) = true
  · simp [readLine?, noise]
  · simp only [readLine?, noise, RecordLine.parse_add]
    cases RecordLine.parse (String.ofList (Text.trimChars cs)) line <;> rfl

/-- The lines of the rest are counted on. -/
theorem readLines_add (line count : Nat) (lines : List (List Char)) :
    readLines (line + count) lines = (readLines line lines).map (laterOutcome count) := by
  induction lines generalizing line with
  | nil => rfl
  | cons cs lines ih =>
    rw [readLines, readLines, List.map_append, readLine?_add, Nat.add_right_comm, ih]
    cases readLine? line cs <;> rfl

theorem readLines_append (line : Nat) (lines more : List (List Char)) :
    readLines line (lines ++ more) =
      readLines line lines ++ readLines (line + lines.length) more := by
  induction lines generalizing line with
  | nil => rfl
  | cons cs lines ih =>
    rw [List.cons_append, readLines, readLines, ih, List.append_assoc, List.length_cons,
      Nat.add_assoc, Nat.add_comm 1]

/-- A text after whole lines is read as by itself, but its lines are counted on. -/
theorem ofText_append {a : String} (ended : a.toList.getLast? = some '\n') (b : String) :
    ofText (a ++ b) = ofText a ++ (ofText b).map (laterOutcome (a.toList.count '\n')) := by
  have ended : ∀ c ∈ a.toList.getLast?, c = '\n' := by
    intro c mem
    rw [ended] at mem
    exact (Option.some.inj mem).symm
  have whole := hasLines_splitLines a.toList
  have split := (whole.append ended (hasLines_splitLines b.toList)).splitLines_eq
  rw [ofText, ofText, ofText, String.toList_append, split, readLines_append, readLines_add,
    whole.length_eq ended]

theorem records_append (outcomes others : List (Except LineError RecordLine)) :
    records (outcomes ++ others) = records outcomes ++ records others := by
  rw [records, List.filterMap_append]
  rfl

theorem records_map_later (count : Nat) (outcomes : List (Except LineError RecordLine)) :
    records (outcomes.map (laterOutcome count)) = (records outcomes).map (·.later count) := by
  rw [records, records, List.filterMap_map, List.map_filterMap]
  refine congrArg (List.filterMap · outcomes) (funext fun outcome => ?_)
  cases outcome <;> rfl

theorem mem_records {outcomes : List (Except LineError RecordLine)} :
    record ∈ records outcomes ↔ .ok record ∈ outcomes := by
  rw [records, List.mem_filterMap]
  constructor
  · rintro ⟨_ | own, mem, same⟩
    · cases same
    · cases same
      exact mem
  · intro mem
    exact ⟨.ok record, mem, rfl⟩

theorem readLine?_of_written (written : isNoise (Text.trimChars cs) = false) :
    readLine? number cs = some ((RecordLine.parse (String.ofList (Text.trimChars cs)) number).map
      fun value => ⟨number, String.ofList cs, value⟩) := by
  simp [readLine?, written]

/-- What is read from a line is the record that it holds. -/
theorem readLine?_eq_ok_iff : readLine? number cs = some (.ok record) ↔ record.IsOn number cs := by
  constructor
  · intro read
    by_cases noise : isNoise (Text.trimChars cs) = true
    · simp [readLine?, noise] at read
    · have written := Bool.eq_false_iff.mpr noise
      obtain ⟨notBlank, notHash, notSlashes⟩ := isNoise_eq_false_iff.mp written
      rw [readLine?_of_written written, Option.some.injEq] at read
      cases parsed : RecordLine.parse (String.ofList (Text.trimChars cs)) number with
      | error fault =>
        rw [parsed] at read
        cases read
      | ok value =>
        rw [parsed] at read
        cases read
        exact ⟨rfl, rfl, notBlank, notHash, notSlashes, parsed⟩
  · rintro ⟨counted, whole, notBlank, notHash, notSlashes, parsed⟩
    rw [readLine?_of_written (isNoise_eq_false_iff.mpr ⟨notBlank, notHash, notSlashes⟩), parsed,
      ← counted, ← whole]
    rfl

/-- The records of some lines are those that the lines hold, each with its number. -/
theorem mem_records_readLines : record ∈ records (readLines number lines) ↔
    ∃ index cs, lines[index]? = some cs ∧ record.IsOn (number + index) cs := by
  simp only [mem_records, ← readLine?_eq_ok_iff]
  induction lines generalizing number with
  | nil => simp [readLines]
  | cons first lines ih =>
    rw [readLines, List.mem_append, Option.mem_toList, ih]
    constructor
    · rintro (here | ⟨index, cs, there, read⟩)
      · exact ⟨0, first, rfl, here⟩
      · exact ⟨index + 1, cs, there, by rwa [Nat.add_assoc, Nat.add_comm 1] at read⟩
    · rintro ⟨_ | index, cs, there, read⟩
      · cases there
        exact .inl read
      · exact .inr ⟨index, cs, there, by rwa [Nat.add_assoc, Nat.add_comm 1]⟩

/-- The records of some lines are in the order of the lines, at most one for a line. -/
theorem pairwise_records (number : Nat) (lines : List (List Char)) :
    (records (readLines number lines)).Pairwise (·.line < ·.line) := by
  induction lines generalizing number with
  | nil => exact .nil
  | cons first lines ih =>
    rw [readLines, records_append, List.pairwise_append]
    refine ⟨?_, ih (number + 1), ?_⟩
    · rcases readLine? number first with _ | _ | record
      · exact .nil
      · exact .nil
      · exact List.pairwise_singleton _ record
    · intro record here other there
      rw [mem_records, Option.mem_toList] at here
      obtain ⟨index, cs, -, onLine⟩ := mem_records_readLines.mp there
      rw [(readLine?_eq_ok_iff.mp here).counted, onLine.counted]
      omega

/-! ## Bytes -/

/-- Only a line feed has its byte. -/
theorem feed_mem_utf8EncodeChar {c : Char} : 10 ∈ String.utf8EncodeChar c ↔ c = '\n' := by
  have code : c = '\n' ↔ c.val.toNat = 10 := Char.toNat_inj.symm
  rw [code, String.utf8EncodeChar]
  generalize c.val.toNat = n
  split
  · simp [← UInt8.toNat_inj]
    omega
  split
  · simp [← UInt8.toNat_inj]
    omega
  split
  · simp [← UInt8.toNat_inj]
    omega
  · simp [← UInt8.toNat_inj]
    omega

/-- What holds no separator goes to the first part. -/
theorem splitOn_append_of_notMem {separator : UInt8} {bytes : List UInt8}
    (absent : separator ∉ bytes) (rest : List UInt8) :
    (bytes ++ rest).splitOn separator = (rest.splitOn separator).modifyHead (bytes ++ ·) := by
  obtain ⟨first, parts, split⟩ := List.exists_cons_of_ne_nil (List.splitOn_ne_nil separator rest)
  rw [split]
  induction bytes with
  | nil => exact split
  | cons byte bytes ih =>
    rw [List.mem_cons, not_or] at absent
    have other : (byte == separator) = false := beq_false_of_ne (Ne.symm absent.1)
    rw [List.cons_append, List.splitOn_cons_eq_if_modifyHead, other, ih absent.2]
    rfl

/-- The bytes of a text are split into those of its lines. -/
theorem splitOn_flatMap_utf8 (cs : List Char) :
    (cs.flatMap String.utf8EncodeChar).splitOn 10 =
      (cs.splitOn '\n').map (List.flatMap String.utf8EncodeChar) := by
  induction cs with
  | nil => rfl
  | cons c cs ih =>
    rw [List.flatMap_cons, List.splitOn_cons_eq_if_modifyHead]
    by_cases feed : c = '\n'
    · subst feed
      have one : String.utf8EncodeChar '\n' = [10] := rfl
      rw [one, List.singleton_append, List.splitOn_cons_eq_if_modifyHead, ih]
      rfl
    · have other : (c == '\n') = false := beq_false_of_ne feed
      rw [other, splitOn_append_of_notMem (mt feed_mem_utf8EncodeChar.mp feed), ih]
      cases cs.splitOn '\n' <;> rfl

/-- Lines that are texts make up a text. -/
theorem isValidUTF8_intercalate {lines : List (List UInt8)}
    (each : ∀ line ∈ lines, line.toByteArray.IsValidUTF8) :
    (([10] : List UInt8).intercalate lines).toByteArray.IsValidUTF8 := by
  induction lines with
  | nil => exact ByteArray.isValidUTF8_empty
  | cons line lines ih =>
    obtain ⟨first, others⟩ := List.forall_mem_cons.mp each
    cases lines with
    | nil => simpa using first
    | cons next lines =>
      rw [List.intercalate_cons_cons, List.toByteArray_append, List.toByteArray_append]
      have feed : ([10] : List UInt8).toByteArray.IsValidUTF8 :=
        @Char.isValidUTF8_toByteArray_utf8EncodeChar '\n'
      exact (first.append feed).append (ih others)

/-- Bytes are a text exactly if those of each line are. -/
theorem isValidUTF8_iff {bytes : ByteArray} :
    bytes.IsValidUTF8 ↔ ∀ line ∈ bytes.data.toList.splitOn 10, line.toByteArray.IsValidUTF8 := by
  constructor
  · rintro ⟨cs, rfl⟩ line mem
    rw [List.utf8Encode, List.toList_data_toByteArray, splitOn_flatMap_utf8] at mem
    obtain ⟨part, -, rfl⟩ := List.mem_map.mp mem
    exact ByteArray.isValidUTF8_utf8Encode
  · intro each
    have whole := isValidUTF8_intercalate each
    have same : bytes.data.toList.toByteArray = bytes :=
      ByteArray.ext (Array.ext' List.toList_data_toByteArray)
    rwa [List.intercalate_splitOn, same] at whole

/-- The bytes of a text are read as the text. -/
theorem ofBytes_toUTF8 (text : String) : ofBytes text.toUTF8 = (ofText text, none) := by
  have read : textOfBytes text.toUTF8 = .ok text := by
    have decoded : String.fromUTF8? text.toUTF8 = some text := dif_pos text.isValidUTF8
    rw [textOfBytes, decoded]
  rw [ofBytes, read]

/-- Reading fails exactly where the bytes are no text. -/
theorem ofBytes_fault_iff {bytes : ByteArray} :
    (ofBytes bytes).2 = some .notText ↔ ¬bytes.IsValidUTF8 := by
  by_cases valid : bytes.IsValidUTF8
  · simp [ofBytes, textOfBytes, String.fromUTF8?, valid]
  · simp [ofBytes, textOfBytes, String.fromUTF8?, valid]

/-- The records of a text after whole lines are those that it has by itself, counted on from these.
The records of a text are those that its lines hold, in order, each with the number of its line. A
file is refused exactly if the bytes of some line are no text. -/
theorem ofBytes_line_by_line :
    (∀ a b : String, a.toList.getLast? = some '\n' →
      (ofBytes (a.toUTF8 ++ b.toUTF8)).2 = none ∧
      records (ofBytes (a.toUTF8 ++ b.toUTF8)).1 = records (ofBytes a.toUTF8).1 ++
        (records (ofBytes b.toUTF8).1).map (·.later (a.toList.count '\n'))) ∧
    (∀ text : String, (ofBytes text.toUTF8).2 = none ∧ ∃ lines, HasLines text.toList lines ∧
      (records (ofBytes text.toUTF8).1).Pairwise (·.line < ·.line) ∧
      ∀ record, record ∈ records (ofBytes text.toUTF8).1 ↔
        ∃ index line, lines[index]? = some line ∧ record.IsOn (index + 1) line) ∧
    (∀ bytes, (ofBytes bytes).2 = some .notText ↔
      ∃ line ∈ bytes.data.toList.splitOn 10, ¬line.toByteArray.IsValidUTF8) := by
  refine ⟨?_, ?_, ?_⟩
  · intro a b ended
    have joined : a.toUTF8 ++ b.toUTF8 = (a ++ b).toUTF8 := String.toByteArray_append.symm
    rw [joined, ofBytes_toUTF8, ofBytes_toUTF8, ofBytes_toUTF8, ofText_append ended,
      records_append, records_map_later]
    exact ⟨rfl, rfl⟩
  · intro text
    rw [ofBytes_toUTF8]
    refine ⟨rfl, splitLines text.toList, hasLines_splitLines _, pairwise_records 1 _, ?_⟩
    intro record
    simp only [Nat.add_comm _ 1]
    exact mem_records_readLines
  · intro bytes
    rw [ofBytes_fault_iff, isValidUTF8_iff]
    simp only [Classical.not_forall, exists_prop]

/-- A comment, a line that holds no object and one with blanks only are counted, but the records
after them are the same. -/
theorem ofBytes_line_by_line_noise :
    let a := "# note\r\noops\n \r\n"
    let b := "\n \x7b\"pid\": 1\x7d"
    a.toList.getLast? = some '\n' ∧
      (records (ofBytes b.toUTF8).1).map RecordLine.line = [2] ∧
      (records (ofBytes (a.toUTF8 ++ b.toUTF8)).1).map RecordLine.line = [5] := by
  intro a b
  have ended : a.toList.getLast? = some '\n' := by decide +kernel
  have noise : records (ofBytes a.toUTF8).1 = [] := by
    rw [ofBytes_toUTF8, ← List.length_eq_zero_iff]
    decide +kernel
  have alone : (records (ofBytes b.toUTF8).1).map RecordLine.line = [2] := by
    rw [ofBytes_toUTF8]
    decide +kernel
  have feeds : a.toList.count '\n' = 3 := by decide +kernel
  refine ⟨ended, alone, ?_⟩
  have joined := (ofBytes_line_by_line.1 a b ended).2
  rw [noise, feeds, List.nil_append] at joined
  calc (records (ofBytes (a.toUTF8 ++ b.toUTF8)).1).map RecordLine.line
    _ = ((records (ofBytes b.toUTF8).1).map RecordLine.line).map (· + 3) := by
      rw [joined, List.map_map, List.map_map]
      rfl
    _ = [5] := by rw [alone]; rfl

end RecordFile
end EventSieve
