import EventSieve.Event.Basic
import Mathlib.Data.List.Forall2
import Mathlib.Data.List.Induction

/-!
# Flattening objects

A place in a JSON value tells which part to take at each level. The record of an object has one
entry for each place that holds a scalar, in the order of the places, and no others. Its name has
the keys on the way to the place. An array has no keys, so that its items are all named as it is.

The event of an object keeps these entries as its fields. A key of the header names a field, and the
last field of that name counts.

## Main definitions

* `Json.parts`, `Json.at?` — the parts of a value, and what stands at a place
* `Json.StandsAt`, `Json.StandsIn` — the same as a relation, for a value and for some parts
* `Json.Lists` — entries that list the scalars at some places
* `Record.last?` — the last value under a name

## Main statements

* `Json.induction_parts` — what passes from the parts of a value to the value holds of all values
* `Json.Lists.cons` — the entries of the first part stand before those of the others
* `Json.exists_lists_entries` — the entries of a value list its scalars
* `Event.foldl_readHeader` — a part of the header is read from the last entry with its name
* `Event.fields_ofJson` — the entries of an object, and what an event makes of them
-/
namespace EventSieve

/-! ## Places -/

namespace Json

/-- Whether a value has no parts and is not null. -/
def isScalar : Json → Bool
  | boolean _ | integer _ | float _ | string _ => true
  | null | array _ | object _ => false

/-- The parts of a value, each with its key if it has one. -/
def parts : Json → List (Option String × Json)
  | array items => items.map fun item => (none, item)
  | object members => members.map fun (key, value) => (some key, value)
  | _ => []

/-- What stands at a place in a value, with the keys on the way to it. A place tells for each level
which part to take. -/
def at? (value : Json) : List Nat → Option (List String × Json)
  | [] => some ([], value)
  | index :: place => do
    let (key?, part) ← value.parts[index]?
    let (keys, leaf) ← part.at? place
    return (key?.toList ++ keys, leaf)

/-- What stands at a place in a value, as a relation. -/
def StandsAt (value : Json) (place : List Nat) (keys : List String) (leaf : Json) : Prop :=
  value.at? place = some (keys, leaf)

/-- Scalars are the values of entries. -/
theorem isSome_ofJson? (value : Json) : (Value.ofJson? value).isSome = value.isScalar := by
  cases value with
  | integer value =>
    rw [Value.ofJson?]
    split <;> rfl
  | _ => rfl

theorem sizeOf_lt_of_mem_parts {value : Json} {part : Option String × Json}
    (mem : part ∈ value.parts) : sizeOf part.2 < sizeOf value := by
  cases value with
  | array items =>
    obtain ⟨item, inside, rfl⟩ := List.mem_map.mp mem
    have smaller := List.sizeOf_lt_of_mem inside
    simp only [array.sizeOf_spec]
    omega
  | object members =>
    obtain ⟨⟨key, value⟩, inside, rfl⟩ := List.mem_map.mp mem
    have smaller := List.sizeOf_lt_of_mem inside
    simp only [object.sizeOf_spec, Prod.mk.sizeOf_spec] at smaller ⊢
    omega
  | _ => cases mem

/-- What passes from the parts of a value to the value holds of all values. -/
theorem induction_parts {motive : Json → Prop}
    (step : ∀ value, (∀ part ∈ value.parts, motive part.2) → motive value) (value : Json) :
    motive value :=
  step value fun part _ => induction_parts step part.2
termination_by sizeOf value
decreasing_by exact sizeOf_lt_of_mem_parts ‹_›

/-- What stands at a place in some parts, which are counted from a number on, with the keys on the
way to it. -/
def StandsIn (start : Nat) (parts : List (Option String × Json)) (place : List Nat)
    (keys : List String) (leaf : Json) : Prop :=
  ∃ index inner key? part own, place = (start + index) :: inner ∧
    parts[index]? = some (key?, part) ∧ part.StandsAt inner own leaf ∧
    keys = key?.toList ++ own

variable {value leaf part : Json} {place : List Nat} {path keys : List String}
  {key? : Option String} {rest : List (Option String × Json)} {start : Nat}

theorem not_standsIn_nil : ¬StandsIn start [] place keys leaf := by
  rintro ⟨index, inner, key?, part, own, -, found, -⟩
  cases found

/-- A place in some parts is one in the first of them or in the others. -/
theorem standsIn_cons_iff :
    StandsIn start ((key?, part) :: rest) place keys leaf ↔
      (∃ inner own, place = start :: inner ∧ part.StandsAt inner own leaf ∧
        keys = key?.toList ++ own) ∨ StandsIn (start + 1) rest place keys leaf := by
  constructor
  · rintro ⟨index, inner, other?, other, own, rfl, found, stands, rfl⟩
    cases index with
    | zero =>
      cases found
      exact .inl ⟨inner, own, rfl, stands, rfl⟩
    | succ index =>
      refine .inr ⟨index, inner, other?, other, own, ?_, found, stands, rfl⟩
      rw [Nat.add_right_comm, Nat.add_assoc]
  · rintro (⟨inner, own, rfl, stands, rfl⟩ | ⟨index, inner, other?, other, own, rfl, found, later⟩)
    · exact ⟨0, inner, key?, part, own, rfl, rfl, stands, rfl⟩
    · refine ⟨index + 1, inner, other?, other, own, ?_, found, later⟩
      rw [Nat.add_right_comm, Nat.add_assoc]

theorem standsAt_iff :
    value.StandsAt place keys leaf ↔
      place = [] ∧ keys = [] ∧ leaf = value ∨ StandsIn 0 value.parts place keys leaf := by
  cases place with
  | nil =>
    rw [StandsAt, at?]
    constructor
    · intro same
      cases same
      exact .inl ⟨rfl, rfl, rfl⟩
    · rintro (⟨-, rfl, rfl⟩ | ⟨_, _, _, _, _, same, _⟩)
      · rfl
      · cases same
  | cons index inner =>
    constructor
    · intro found
      obtain ⟨⟨key?, part⟩, taken, found⟩ := Option.bind_eq_some_iff.mp found
      obtain ⟨⟨own, leaf⟩, stands, same⟩ := Option.bind_eq_some_iff.mp found
      cases same
      exact .inr ⟨index, inner, key?, part, own, by rw [Nat.zero_add], taken, stands, rfl⟩
    · rintro (⟨same, -⟩ | ⟨other, rest, key?, part, own, same, taken, stands, rfl⟩)
      · cases same
      · rw [Nat.zero_add] at same
        cases same
        rw [StandsAt] at stands ⊢
        rw [at?, taken]
        simp [stands]

/-! ## Entries -/

/-- Entries that list the scalars at some places. The places are in order, they are those of all
scalars, and the name of an entry has the keys on the way to its place behind those of a path. -/
structure Lists (stands : List Nat → List String → Json → Prop) (path : List String)
    (places : List (List Nat)) (entries : List Entry) : Prop where
  ordered : places.Pairwise (· < ·)
  scalars : ∀ place, place ∈ places ↔ ∃ keys leaf, stands place keys leaf ∧ leaf.isScalar = true
  named : List.Forall₂ (fun place entry => ∃ keys leaf, stands place keys leaf ∧
    entry.1 = ".".intercalate (path ++ keys) ∧ Value.ofJson? leaf = some entry.2) places entries

namespace Lists

variable {stands other : List Nat → List String → Json → Prop} {places more : List (List Nat)}
  {entries later : List Entry}

/-- Only what stands at the places of scalars counts. -/
theorem congr (h : Lists stands path places entries)
    (same : ∀ place keys leaf, leaf.isScalar = true →
      (stands place keys leaf ↔ other place keys leaf)) :
    Lists other path places entries where
  ordered := h.ordered
  scalars place := by
    rw [h.scalars]
    exact exists₂_congr fun keys leaf => and_congr_left (same place keys leaf)
  named := by
    refine h.named.imp ?_
    rintro place entry ⟨keys, leaf, found, name, read⟩
    have scalar : leaf.isScalar = true := by rw [← isSome_ofJson?, read, Option.isSome_some]
    exact ⟨keys, leaf, (same place keys leaf scalar).mp found, name, read⟩

theorem nil : Lists (StandsIn start []) path [] [] where
  ordered := .nil
  scalars place := by
    constructor
    · intro mem
      cases mem
    · rintro ⟨keys, leaf, found, -⟩
      exact absurd found not_standsIn_nil
  named := .nil

/-- The places of the first part stand before those of the others. -/
theorem cons (first : Lists part.StandsAt (path ++ key?.toList) places entries)
    (others : Lists (StandsIn (start + 1) rest) path more later) :
    Lists (StandsIn start ((key?, part) :: rest)) path (places.map (start :: ·) ++ more)
      (entries ++ later) where
  ordered := by
    rw [List.pairwise_append, List.pairwise_map]
    refine ⟨?_, others.ordered, ?_⟩
    · refine first.ordered.imp ?_
      intro place next before
      exact List.cons_lt_cons_iff.mpr (.inr ⟨rfl, before⟩)
    · intro place mem next memLater
      obtain ⟨inner, -, rfl⟩ := List.mem_map.mp mem
      obtain ⟨keys, leaf, ⟨index, _, _, _, _, rfl, -⟩, -⟩ := (others.scalars next).mp memLater
      refine List.cons_lt_cons_iff.mpr (.inl ?_)
      omega
  scalars place := by
    rw [List.mem_append, List.mem_map, others.scalars]
    constructor
    · rintro (⟨inner, mem, rfl⟩ | ⟨keys, leaf, found, scalar⟩)
      · obtain ⟨own, leaf, found, scalar⟩ := (first.scalars inner).mp mem
        exact ⟨_, leaf, standsIn_cons_iff.mpr (.inl ⟨inner, own, rfl, found, rfl⟩), scalar⟩
      · exact ⟨keys, leaf, standsIn_cons_iff.mpr (.inr found), scalar⟩
    · rintro ⟨keys, leaf, found, scalar⟩
      rcases standsIn_cons_iff.mp found with ⟨inner, own, rfl, found, -⟩ | found
      · exact .inl ⟨inner, (first.scalars inner).mpr ⟨own, leaf, found, scalar⟩, rfl⟩
      · exact .inr ⟨keys, leaf, found, scalar⟩
  named := by
    refine List.rel_append ?_ ?_
    · rw [List.forall₂_map_left_iff]
      refine first.named.imp ?_
      rintro inner entry ⟨own, leaf, found, name, read⟩
      refine ⟨_, leaf, standsIn_cons_iff.mpr (.inl ⟨inner, own, rfl, found, rfl⟩), ?_, read⟩
      rw [name, List.append_assoc]
    · refine others.named.imp ?_
      rintro place entry ⟨keys, leaf, found, named⟩
      exact ⟨keys, leaf, standsIn_cons_iff.mpr (.inr found), named⟩

end Lists

/-- The entries of some parts, each listing the scalars in it, list those in all of them. -/
theorem exists_lists_of_parts {parts : List (Option String × Json)}
    {each : Option String × Json → List Entry}
    (h : ∀ part ∈ parts, ∃ places,
      Lists part.2.StandsAt (path ++ part.1.toList) places (each part)) (start : Nat) :
    ∃ places, Lists (StandsIn start parts) path places (parts.flatMap each) := by
  induction parts generalizing start with
  | nil => exact ⟨[], .nil⟩
  | cons part parts ih =>
    obtain ⟨⟨places, first⟩, later⟩ := List.forall_mem_cons.mp h
    obtain ⟨more, others⟩ := ih later (start + 1)
    exact ⟨_, first.cons others⟩

/-- The name of a part inside a value that has a name itself. -/
def partName (outer : String) : Option String → String
  | some key => memberName outer key
  | none => outer

/-- What has parts or is null has the entries of its parts. -/
theorem entries_eq_flatMap {name : String} (noScalar : value.isScalar = false) :
    value.entries name = value.parts.flatMap fun part => part.2.entries (partName name part.1) := by
  cases value with
  | null => rfl
  | array items =>
    rw [entries, parts, List.flatMap_map]
    induction items with
    | nil => rfl
    | cons item items ih =>
      rw [itemEntries, List.flatMap_cons, ih rfl]
      rfl
  | object members =>
    rw [entries, parts, List.flatMap_map]
    induction members with
    | nil => rfl
    | cons member members ih =>
      rw [memberEntries, List.flatMap_cons, ih rfl]
      rfl
  | _ => cases noScalar

/-- The name of a part has its key behind the keys of the path to it. -/
theorem partName_intercalate (name : path = [] ∨ ".".intercalate path ≠ "") (key? : Option String) :
    partName (".".intercalate path) key? = ".".intercalate (path ++ key?.toList) := by
  cases key? with
  | none => simp [partName]
  | some key =>
    rcases name with rfl | name
    · rfl
    · have some : path ≠ [] := by
        rintro rfl
        exact name rfl
      rw [partName, memberName, Option.toList_some,
        String.intercalate_append_of_ne_nil some (List.cons_ne_nil key [])]
      simp [String.isEmpty_iff, name]

/-- If the entries of the parts of a value list the scalars in them, then so do its own. -/
theorem exists_lists_of_noScalar (noScalar : value.isScalar = false)
    (name : path = [] ∨ ".".intercalate path ≠ "")
    (h : ∀ part ∈ value.parts, ∃ places,
      Lists part.2.StandsAt (path ++ part.1.toList) places
        (part.2.entries (".".intercalate (path ++ part.1.toList)))) :
    ∃ places, Lists value.StandsAt path places (value.entries (".".intercalate path)) := by
  obtain ⟨places, lists⟩ := exists_lists_of_parts h 0
  simp only [entries_eq_flatMap noScalar, partName_intercalate name]
  refine ⟨places, lists.congr ?_⟩
  intro place keys leaf scalar
  rw [standsAt_iff]
  constructor
  · exact .inr
  · rintro (⟨-, -, rfl⟩ | found)
    · rw [noScalar] at scalar
      cases scalar
    · exact found

/-- A scalar is listed by its own entry. -/
theorem lists_of_scalar {name : String} (scalar : value.isScalar = true)
    (same : name = ".".intercalate path) :
    Lists value.StandsAt path [[]] (value.entries name) := by
  have noParts : value.parts = [] := by
    cases value <;> first | rfl | cases scalar
  have only {place : List Nat} {keys : List String} {leaf : Json} :
      value.StandsAt place keys leaf ↔ place = [] ∧ keys = [] ∧ leaf = value := by
    rw [standsAt_iff, noParts, or_iff_left not_standsIn_nil]
  obtain ⟨own, read⟩ := Option.isSome_iff_exists.mp ((isSome_ofJson? value).trans scalar)
  have entry : value.entries name = [(name, own)] := by
    have plain : value.entries name =
        (Value.ofJson? value).toList.map fun scalar => (name, scalar) := by
      cases value <;> first | rfl | cases scalar
    rw [plain, read]
    rfl
  rw [entry]
  constructor
  · exact List.pairwise_singleton _ _
  · intro place
    simp [only, scalar]
  · refine .cons ⟨[], value, rfl, ?_, read⟩ .nil
    rw [List.append_nil, same]

theorem partName_ne_empty {outer : String} (name : outer ≠ "") (key? : Option String) :
    partName outer key? ≠ "" := by
  cases key? with
  | none => exact name
  | some key => simp [partName, memberName, name]

/-- The entries of a value under a name list its scalars. -/
theorem exists_lists_entries (value : Json) {path : List String}
    (name : ".".intercalate path ≠ "") :
    ∃ places, Lists value.StandsAt path places (value.entries (".".intercalate path)) := by
  induction value using induction_parts generalizing path with
  | step value ih =>
    by_cases scalar : value.isScalar = true
    · exact ⟨[[]], lists_of_scalar scalar rfl⟩
    · refine exists_lists_of_noScalar (Bool.eq_false_iff.mpr scalar) (.inr name) ?_
      intro part mem
      refine ih part mem ?_
      rw [← partName_intercalate (.inr name)]
      exact partName_ne_empty name part.1

end Json

/-- The entries of an object list its scalars. -/
theorem Record.exists_lists_ofJson {members : List (String × Json)}
    (named : ∀ member ∈ members, member.1 ≠ "") :
    ∃ places, Json.Lists (Json.object members).StandsAt [] places
      (ofJson (.object members)).entries := by
  refine Json.exists_lists_of_noScalar rfl (.inl rfl) ?_
  rintro part mem
  obtain ⟨⟨key, value⟩, inside, rfl⟩ := List.mem_map.mp mem
  exact Json.exists_lists_entries value (named _ inside)

/-! ## Headers -/

/-- The last value under exactly a name. -/
def Record.last? (record : Record) (name : String) : Option Value :=
  record.entries.reverse.lookup name

namespace Event

variable {keys : HeaderKeys}

/-- A part of the header that is read from the entries with a name has what the last one says. -/
theorem foldl_readHeader {α : Type} {part : Event → α} {name : String} {read : Value → α}
    (reads : ∀ event entry,
      part (readHeader keys event entry) = if entry.1 = name then read entry.2 else part event)
    (entries : List Entry) (start : Event) :
    part (entries.foldl (readHeader keys) start) =
      ((entries.reverse.lookup name).map read).getD (part start) := by
  induction entries using List.reverseRecOn with
  | nil => rfl
  | append_singleton entries entry ih =>
    obtain ⟨own, value⟩ := entry
    rw [List.foldl_concat, reads, List.reverse_concat, List.lookup_cons]
    by_cases same : own = name
    · simp [same]
    · have other : (name == own) = false := beq_eq_false_iff_ne.mpr (Ne.symm same)
      rw [if_neg same, other, ih]

theorem traceType_readHeader (event : Event) (entry : Entry) :
    (readHeader keys event entry).traceType =
      if entry.1 = keys.traceType then entry.2.text else event.traceType := by
  rw [readHeader]
  split_ifs <;> rfl

theorem eventType_readHeader (apart : keys.eventType ≠ keys.traceType) (event : Event)
    (entry : Entry) :
    (readHeader keys event entry).eventType =
      if entry.1 = keys.eventType then entry.2.text else event.eventType := by
  rw [readHeader]
  split_ifs with trace type
  · exact absurd (type.symm.trans trace) apart
  all_goals rfl

/-- The types of an event are the texts of the last entries with their names. -/
theorem types_ofJson (apart : keys.eventType ≠ keys.traceType) (value : Json) :
    (ofJson keys value).traceType =
        (((Record.ofJson value).last? keys.traceType).map Value.text).getD "" ∧
      (ofJson keys value).eventType =
        (((Record.ofJson value).last? keys.eventType).map Value.text).getD "" :=
  ⟨foldl_readHeader traceType_readHeader _ {},
    foldl_readHeader (eventType_readHeader apart) _ {}⟩

/-- The record of an object has one entry for each of its scalars, in the order of their places,
with the keys on the way to the scalar for a name. The event of the object has these entries as its
fields, and its types are the texts of the last ones with their names. -/
theorem fields_ofJson {members : List (String × Json)} (named : ∀ member ∈ members, member.1 ≠ "")
    (keys : HeaderKeys) :
    (∃ places : List (List Nat), places.Pairwise (· < ·) ∧
      (∀ place, place ∈ places ↔
        ∃ path leaf, (Json.object members).at? place = some (path, leaf) ∧ leaf.isScalar = true) ∧
      List.Forall₂ (fun place entry => ∃ path leaf,
        (Json.object members).at? place = some (path, leaf) ∧
          entry.1 = ".".intercalate path ∧ Value.ofJson? leaf = some entry.2)
        places (Record.ofJson (.object members)).entries) ∧
    (ofJson keys (.object members)).fields = (Record.ofJson (.object members)).entries ∧
    ([keys.traceType, keys.eventType, keys.timestamp].Nodup →
      (ofJson keys (.object members)).traceType =
          (((Record.ofJson (.object members)).last? keys.traceType).map Value.text).getD "" ∧
        (ofJson keys (.object members)).eventType =
          (((Record.ofJson (.object members)).last? keys.eventType).map Value.text).getD "") := by
  refine ⟨?_, rfl, ?_⟩
  · obtain ⟨places, lists⟩ := Record.exists_lists_ofJson named
    exact ⟨places, lists.ordered, lists.scalars, lists.named⟩
  · intro distinct
    refine types_ofJson ?_ _
    intro same
    simp [same] at distinct

/-- Items have the name of their array, a part without a key of its own has a name that ends in a
point, and what holds no scalar has no entry. The last item of an array counts for the type. -/
theorem fields_ofJson_nested :
    let members : List (String × Json) :=
      [("a", .object [("", .boolean true),
        ("b", .array [.integer 1, .null, .array [], .object [("c", .integer 2)]])]),
      ("type", .array [.string "one", .string "two"])]
    (∃ places : List (List Nat), places.Pairwise (· < ·) ∧ places.length = 5 ∧
      [0, 1, 3, 0] ∈ places ∧ [0, 1, 1] ∉ places) ∧
    (ofJson {} (.object members)).fields =
      [("a.", .boolean true), ("a.b", .integer 1), ("a.b.c", .integer 2),
        ("type", .string "one"), ("type", .string "two")] ∧
    (ofJson {} (.object members)).traceType = "" ∧
    (ofJson {} (.object members)).eventType = "two" := by
  intro members
  have keyed : ∀ member ∈ members, member.1 ≠ "" := by
    decide
  obtain ⟨⟨places, ordered, scalars, named⟩, fields, types⟩ := fields_ofJson keyed {}
  have entries : (Record.ofJson (.object members)).entries =
      [("a.", .boolean true), ("a.b", .integer 1), ("a.b.c", .integer 2),
        ("type", .string "one"), ("type", .string "two")] := by
    decide +kernel
  obtain ⟨trace, type⟩ := types (by decide)
  refine ⟨⟨places, ordered, ?_, ?_, ?_⟩, fields.trans entries, ?_, ?_⟩
  · rw [named.length_eq, entries]
    rfl
  · exact (scalars _).mpr ⟨["a", "b", "c"], .integer 2, rfl, rfl⟩
  · rw [scalars]
    rintro ⟨path, leaf, found, scalar⟩
    cases found
    cases scalar
  · rw [trace, Record.last?, entries]
    rfl
  · rw [type, Record.last?, entries]
    rfl

end Event
end EventSieve
