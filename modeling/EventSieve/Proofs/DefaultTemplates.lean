import EventSieve.Coercion.Basic

/-!
# Texts that name no instant

By the default rules an instant has a hyphen between its year and its month, whether it is in the
form of RFC 3339 or in that of a template. A hyphen at the start of a text is at most the sign of
the year, so a text without another one names no instant.

## Main definitions

* `Template.startsWithYear` — templates that begin with a year and a hyphen

## Main statements

* `Coercion.instant?_eq_none` — a text without a hyphen after its first character names no instant
-/
namespace EventSieve

namespace Instant

variable {cs rest : List Char}

theorem skip?_of_notMem {c : Char} (absent : c ∉ cs) : skip? c cs = none := by
  cases cs with
  | nil => rfl
  | cons d cs =>
    rw [List.mem_cons, not_or] at absent
    exact if_neg absent.1

theorem readTimestampChars?_eq_none (plain : '-' ∉ cs.drop 1) : readTimestampChars? cs = none := by
  rw [readTimestampChars?]
  cases taken : takeDigits? 4 cs with
  | none => rfl
  | some first =>
    have later : first.2 = cs.drop 4 := by
      rw [takeDigits?] at taken
      split at taken
      · obtain ⟨year, -, rfl⟩ := Option.map_eq_some_iff.mp taken
        rfl
      · cases taken
    have none : skip? '-' first.2 = none := by
      refine skip?_of_notMem fun mem => plain ?_
      rw [later, ← List.drop_drop (i := 3) (j := 1)] at mem
      exact List.mem_of_mem_drop mem
    show (skip? '-' first.2).bind _ = _
    rw [none]
    rfl

namespace Template

/-- A number takes at least one character. -/
theorem exists_drop_of_takeNumber? {width : Nat} {value : Int}
    (taken : takeNumber? width cs = some (value, rest)) : ∃ count, rest = cs.drop (count + 1) := by
  rw [takeNumber?] at taken
  obtain ⟨number, read, taken⟩ := Option.bind_eq_some_iff.mp taken
  obtain ⟨narrow, -, taken⟩ := Option.bind_eq_some_iff.mp taken
  cases taken
  cases digits : (cs.takeWhile Char.isDigit).take width with
  | nil =>
    rw [digits] at read
    cases read
  | cons c later => exact ⟨later.length, rfl⟩

/-- After a number nothing is left of a hyphen at the start. -/
theorem notMem_of_takeNumeral? {width : Nat} {signed : Bool} {value : Int} (plain : '-' ∉ cs.drop 1)
    (taken : takeNumeral? width signed cs = some (value, rest)) : '-' ∉ rest := by
  have inner {width : Nat} {value : Int} {more : List Char} (absent : '-' ∉ more.drop 1)
      (taken : takeNumber? width more = some (value, rest)) : '-' ∉ rest := by
    obtain ⟨count, rfl⟩ := exists_drop_of_takeNumber? taken
    rw [Nat.add_comm, ← List.drop_drop]
    exact fun mem => absent (List.mem_of_mem_drop mem)
  unfold takeNumeral? at taken
  split at taken
  · obtain ⟨⟨year, later⟩, taken, same⟩ := Option.map_eq_some_iff.mp taken
    cases same
    exact inner (fun mem => plain (List.mem_of_mem_drop mem)) taken
  · exact inner (fun mem => plain (List.mem_of_mem_drop mem)) taken
  · exact inner plain taken

theorem notMem_trimStart (plain : '-' ∉ cs.drop 1) : '-' ∉ (Text.trimStart cs).drop 1 := by
  induction cs with
  | nil => exact plain
  | cons c cs ih =>
    rw [Text.trimStart, List.dropWhile_cons]
    split
    · exact ih fun mem => plain (List.mem_of_mem_drop mem)
    · exact plain

/-- Templates that begin with a year and a hyphen after it. -/
def startsWithYear : List Item → Bool
  | .numeral (.field .year) 4 true :: .literal ('-' :: _) :: _ => true
  | _ => false

theorem readItem?_hyphen {fields : Fields} {more : List Char} (absent : '-' ∉ cs) :
    readItem? fields cs (.literal ('-' :: more)) = none := by
  have other : ('-' :: more).isPrefixOf cs = false := by
    cases cs with
    | nil => rfl
    | cons c cs =>
      have differ : ('-' == c) = false :=
        beq_false_of_ne fun same => absent (same ▸ List.mem_cons_self)
      rw [List.isPrefixOf, differ, Bool.false_and]
  rw [readItem?, readPlain?, dropLiteral?, other]
  · rfl
  · exact Item.noConfusion

theorem notMem_of_readItem? {fields next : Fields} (plain : '-' ∉ cs.drop 1)
    (read : readItem? fields cs (.numeral (.field .year) 4 true) = some (next, rest)) :
    '-' ∉ rest := by
  rw [readItem?, readPlain?] at read
  · obtain ⟨⟨year, later⟩, taken, read⟩ := Option.bind_eq_some_iff.mp read
    obtain ⟨put, -, read⟩ := Option.bind_eq_some_iff.mp read
    cases read
    exact notMem_of_takeNumeral? (notMem_trimStart plain) taken
  · exact Item.noConfusion

/-- No template that begins with a year and a hyphen takes a text without a hyphen after its first
character. -/
theorem fields?_eq_none {template raw : String} (plain : '-' ∉ raw.toList.drop 1)
    (starts : (parse? template).all startsWithYear = true) : fields? template raw = none := by
  rw [fields?]
  cases parsed : parse? template with
  | none => rfl
  | some items =>
    rw [parsed, Option.all_some] at starts
    unfold startsWithYear at starts
    split at starts
    · next more later =>
      have none : readAll? readItem? [] raw.toList
          (.numeral (.field .year) 4 true :: .literal ('-' :: more) :: later) = none := by
        refine Option.bind_eq_none_iff.mpr fun first read => ?_
        show (readItem? first.1 first.2 (.literal ('-' :: more))).bind _ = none
        rw [readItem?_hyphen (notMem_of_readItem? plain read)]
        rfl
      show (readAll? readItem? [] raw.toList _).bind _ = _
      rw [none]
      rfl
    · cases starts

end Template

end Instant

/-- A text without a hyphen after its first character names no instant by the default rules. -/
theorem Coercion.instant?_eq_none {raw : String} (plain : '-' ∉ raw.toList.drop 1) :
    ({} : Coercion).instant? raw = none := by
  have templates : ∀ template ∈ ({} : Coercion).timestampFormats,
      (Instant.Template.parse? template).all Instant.Template.startsWithYear = true := by
    decide +kernel
  have untaken : ({} : Coercion).timestampFormats.findSome? (byTemplate? raw) = none := by
    rw [List.findSome?_eq_none_iff]
    intro template mem
    have none := Instant.Template.fields?_eq_none plain (templates template mem)
    rw [byTemplate?, Instant.Template.readMoment?, Instant.Template.readDate?, none]
    rfl
  rw [instant?, Instant.readTimestamp?, Instant.readTimestampChars?_eq_none plain, untaken]
  rfl

end EventSieve
