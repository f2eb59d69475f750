import EventSieve.Text.Letter

/-!
# Sets of code points

A set of code points is kept as disjoint ranges in increasing order. Its operations keep this order
and are those of sets, so a character is looked up in the tables of a property without computing
the ranges that the operations come to.

## Main definitions

* `CodeSet.OrderedFrom` — disjoint ranges in increasing order

## Main statements

* `CodeSet.mem_union`, `CodeSet.mem_compl`, `CodeSet.mem_inter`, `CodeSet.mem_diff` — what belongs
  to the result of an operation
* `isCased_letter`, `isCaseIgnorable_letter` — a small letter has case and is not skipped
-/
namespace EventSieve.Text

namespace CodeSet

variable {a b set : CodeSet} {start code : Nat}

/-- Disjoint ranges in increasing order, of which none begins before `start`. -/
def OrderedFrom (start : Nat) : CodeSet → Prop
  | [] => True
  | (low, high) :: rest => start ≤ low ∧ low ≤ high ∧ OrderedFrom (high + 1) rest

theorem OrderedFrom.mono {later : Nat} (ordered : OrderedFrom later set) (le : start ≤ later) :
    OrderedFrom start set := by
  cases set with
  | nil => trivial
  | cons range rest => exact ⟨Nat.le_trans le ordered.1, ordered.2⟩

theorem mem_cons (low high : Nat) : mem ((low, high) :: set) code =
    ((low ≤ code && code ≤ high) || mem set code) := rfl

/-- Nothing before the first range belongs to a set. -/
theorem OrderedFrom.le_of_mem (ordered : OrderedFrom start set) (here : mem set code = true) :
    start ≤ code := by
  induction set generalizing start with
  | nil => cases here
  | cons range rest ih =>
    obtain ⟨low, high⟩ := range
    obtain ⟨after, valid, later⟩ := ordered
    simp only [mem_cons, Bool.or_eq_true, Bool.and_eq_true, decide_eq_true_eq] at here
    rcases here with inside | there
    · omega
    · have := ih later there
      omega

/-! ## Complements -/

theorem orderedFrom_gapsFrom (ordered : OrderedFrom start set) :
    OrderedFrom start (gapsFrom start set) := by
  induction set generalizing start with
  | nil =>
    rw [gapsFrom]
    split
    · next some => exact ⟨Nat.le_refl start, some, trivial⟩
    · trivial
  | cons range rest ih =>
    obtain ⟨low, high⟩ := range
    obtain ⟨after, valid, later⟩ := ordered
    rw [gapsFrom]
    split
    · next gap =>
      refine ⟨Nat.le_refl start, by omega, (ih later).mono (by omega)⟩
    · exact (ih later).mono (by omega)

/-- The gaps from `start` on hold what the set leaves out. -/
theorem mem_gapsFrom (ordered : OrderedFrom start set) (valid : code ≤ maxCode) :
    mem (gapsFrom start set) code = (start ≤ code && !mem set code) := by
  induction set generalizing start with
  | nil =>
    rw [gapsFrom]
    split
    · simp [mem, valid]
    · simp only [mem, List.any_nil, Bool.not_false, Bool.and_true, Bool.false_eq,
        decide_eq_false_iff_not]
      omega
  | cons range rest ih =>
    obtain ⟨low, high⟩ := range
    obtain ⟨after, valid, later⟩ := ordered
    have beyond : mem rest code = true → high + 1 ≤ code := later.le_of_mem
    rw [gapsFrom, mem_cons, Bool.eq_iff_iff]
    split
    · rw [mem_cons, Bool.or_eq_true, ih later]
      cases there : mem rest code with
      | true =>
        have := beyond there
        simp
        omega
      | false =>
        simp
        omega
    · rw [ih later]
      cases there : mem rest code with
      | true => simp
      | false =>
        simp
        omega

theorem orderedFrom_compl (ordered : OrderedFrom 0 set) : OrderedFrom 0 (compl set) :=
  orderedFrom_gapsFrom ordered

theorem mem_compl (ordered : OrderedFrom 0 set) (valid : code ≤ maxCode) :
    mem (compl set) code = !mem set code := by
  rw [compl, mem_gapsFrom ordered valid]
  simp

/-! ## Unions -/

/-- Ranges in increasing order of their starts are joined into ranges in increasing order. -/
theorem orderedFrom_mergeFrom {range : Nat × Nat} {rest : List (Nat × Nat)}
    (valid : ∀ r ∈ range :: rest, r.1 ≤ r.2)
    (sorted : (range :: rest).Pairwise fun a b => a.1 ≤ b.1) :
    OrderedFrom range.1 (mergeFrom range rest) := by
  induction rest generalizing range with
  | nil => exact ⟨Nat.le_refl _, valid range List.mem_cons_self, trivial⟩
  | cons next rest ih =>
    obtain ⟨first, later⟩ := List.pairwise_cons.mp sorted
    obtain ⟨validRange, validRest⟩ := List.forall_mem_cons.mp valid
    rw [mergeFrom]
    split
    · have joined : ((range.1, max range.2 next.2) :: rest).Pairwise fun a b => a.1 ≤ b.1 :=
        List.pairwise_cons.mpr ⟨fun r mem => first r (List.mem_cons_of_mem _ mem),
          (List.pairwise_cons.mp later).2⟩
      have validJoined : ∀ r ∈ (range.1, max range.2 next.2) :: rest, r.1 ≤ r.2 :=
        List.forall_mem_cons.mpr ⟨Nat.le_trans validRange (Nat.le_max_left _ _),
          fun r mem => validRest r (List.mem_cons_of_mem _ mem)⟩
      exact ih validJoined joined
    · exact ⟨Nat.le_refl _, validRange, (ih validRest later).mono (by omega)⟩

/-- Joining ranges neither adds nor drops a code point. -/
theorem mem_mergeFrom {range : Nat × Nat} {rest : List (Nat × Nat)}
    (sorted : (range :: rest).Pairwise fun a b => a.1 ≤ b.1) :
    mem (mergeFrom range rest) code = mem (range :: rest) code := by
  induction rest generalizing range with
  | nil => rfl
  | cons next rest ih =>
    obtain ⟨first, later⟩ := List.pairwise_cons.mp sorted
    have order := first next List.mem_cons_self
    rw [mergeFrom]
    split
    · have joined : ((range.1, max range.2 next.2) :: rest).Pairwise fun a b => a.1 ≤ b.1 :=
        List.pairwise_cons.mpr ⟨fun r mem => first r (List.mem_cons_of_mem _ mem),
          (List.pairwise_cons.mp later).2⟩
      rw [ih joined, mem_cons, mem_cons, mem_cons, ← Bool.or_assoc]
      congr 1
      rw [Bool.eq_iff_iff]
      simp only [Bool.or_eq_true, Bool.and_eq_true, decide_eq_true_eq]
      omega
    · rw [mem_cons, mem_cons, ih later]

theorem mem_merge {ranges : List (Nat × Nat)} (sorted : ranges.Pairwise fun a b => a.1 ≤ b.1) :
    mem (merge ranges) code = mem ranges code := by
  cases ranges with
  | nil => rfl
  | cons range rest => exact mem_mergeFrom sorted

/-- The ranges that hold a code point, in order of their starts. -/
def sortedRanges (ranges : List (Nat × Nat)) : List (Nat × Nat) :=
  (ranges.filter fun range => range.1 ≤ range.2).mergeSort fun a b => a.1 ≤ b.1

theorem ofRanges_eq (ranges : List (Nat × Nat)) : ofRanges ranges = merge (sortedRanges ranges) :=
  rfl

theorem sorted_sortedRanges (ranges : List (Nat × Nat)) :
    (sortedRanges ranges).Pairwise fun a b => a.1 ≤ b.1 := by
  have sorted : (sortedRanges ranges).Pairwise fun a b => decide (a.1 ≤ b.1) = true := by
    refine List.pairwise_mergeSort (fun a b c => ?_) (fun a b => ?_) _
    · simp only [decide_eq_true_eq]
      omega
    · simp only [Bool.or_eq_true, decide_eq_true_eq]
      omega
  simpa using sorted

theorem valid_sortedRanges {ranges : List (Nat × Nat)} {r : Nat × Nat}
    (here : r ∈ sortedRanges ranges) : r.1 ≤ r.2 := by
  have kept := (List.mergeSort_perm _ _).mem_iff.mp here
  simpa using (List.mem_filter.mp kept).2

theorem mem_sortedRanges (ranges : List (Nat × Nat)) :
    mem (sortedRanges ranges) code = mem ranges code := by
  rw [Bool.eq_iff_iff, mem, mem, List.any_eq_true, List.any_eq_true]
  simp only [sortedRanges, (List.mergeSort_perm _ _).mem_iff, List.mem_filter]
  grind

theorem mem_ofRanges (ranges : List (Nat × Nat)) :
    mem (ofRanges ranges) code = mem ranges code := by
  rw [ofRanges_eq, mem_merge (sorted_sortedRanges ranges), mem_sortedRanges]

theorem orderedFrom_ofRanges (ranges : List (Nat × Nat)) : OrderedFrom 0 (ofRanges ranges) := by
  have sorted := sorted_sortedRanges ranges
  have valid : ∀ r ∈ sortedRanges ranges, r.1 ≤ r.2 := fun r => valid_sortedRanges
  rw [ofRanges_eq]
  cases same : sortedRanges ranges with
  | nil => trivial
  | cons range rest =>
    rw [same] at sorted valid
    exact (orderedFrom_mergeFrom valid sorted).mono (Nat.zero_le _)

theorem orderedFrom_union (a b : CodeSet) : OrderedFrom 0 (union a b) :=
  orderedFrom_ofRanges (a ++ b)

theorem mem_union (a b : CodeSet) : mem (union a b) code = (mem a code || mem b code) := by
  rw [union, mem_ofRanges, mem, List.any_append]
  rfl

/-! ## Intersections and differences -/

theorem mem_inter (orderedA : OrderedFrom 0 a) (orderedB : OrderedFrom 0 b)
    (valid : code ≤ maxCode) : mem (inter a b) code = (mem a code && mem b code) := by
  rw [inter, mem_compl (orderedFrom_union _ _) valid, mem_union, mem_compl orderedA valid,
    mem_compl orderedB valid, Bool.not_or, Bool.not_not, Bool.not_not]

theorem mem_diff (orderedA : OrderedFrom 0 a) (orderedB : OrderedFrom 0 b)
    (valid : code ≤ maxCode) : mem (diff a b) code = (mem a code && !mem b code) := by
  rw [diff, mem_inter orderedA (orderedFrom_compl orderedB) valid, mem_compl orderedB valid]

/-! ## Tables -/

theorem orderedFrom_ofGapsFrom (start : Nat) (numbers : List Nat) :
    OrderedFrom start (ofGapsFrom start numbers) := by
  induction start, numbers using ofGapsFrom.induct with
  | case1 start gap more rest ih => exact ⟨by omega, by omega, ih⟩
  | case2 start numbers short =>
    rw [ofGapsFrom.eq_2 _ _ short]
    trivial

end CodeSet

/-! ## Small letters -/

open CodeSet

theorem orderedFrom_withAdded (name : String) (added : CodeSet) :
    OrderedFrom 0 (withAdded name added) :=
  orderedFrom_union _ _

theorem mem_withAdded {name : String} (table : String) {code : Nat}
    (known : Property.codes? name = some (ofGaps (unpack table))) (added : CodeSet) :
    mem (withAdded name added) code = (mem (ofGaps (unpack table)) code || mem added code) := by
  rw [withAdded, known, mem_union]
  rfl

variable {c : Char} (low : 97 ≤ c.toNat) (high : c.toNat ≤ 122)

include low high

/-- A small letter of the alphabet has case. -/
theorem isCased_letter : isCased c = true := by
  have valid : c.toNat ≤ maxCode := by
    rw [maxCode]
    omega
  obtain ⟨rest, written⟩ : ∃ rest, Property.casedTable.toList =
      ['B', '2', 'p', '6', 'p'] ++ rest := by
    rw [Property.casedTable, String.join_cons, String.toList_append]
    generalize (String.join _).toList = more
    simp
  have ranges : ofGaps (unpack Property.casedTable) =
      (65, 90) :: (97, 122) :: ofGapsFrom 123 (unpackFrom 0 1 rest) := by
    rw [unpack, written]
    rfl
  have lost : OrderedFrom 0 [(0x295, 0x295)] := ⟨Nat.zero_le _, Nat.le_refl _, trivial⟩
  have here : mem (ofGaps (unpack Property.casedTable)) c.toNat = true := by
    simp [ranges, mem_cons, low, high]
  have kept : mem [(0x295, 0x295)] c.toNat = false := by
    simp [mem]
    omega
  rw [isCased, memChar, cased, mem_diff (orderedFrom_withAdded _ _) lost valid,
    mem_withAdded Property.casedTable rfl, here, kept]
  rfl

/-- A small letter of the alphabet is not skipped in the search for a cased neighbour. -/
theorem isCaseIgnorable_letter : isCaseIgnorable c = false := by
  obtain ⟨rest, written⟩ : ∃ rest, Property.caseIgnorableTable.toList =
      ['H', '1', '0', '6', '0', 'b', '0', 'D', '1', '0', '1', '0', 'H', '2', '0'] ++ rest := by
    rw [Property.caseIgnorableTable, String.join_cons, String.toList_append]
    generalize (String.join _).toList = more
    simp
  have ranges : ofGaps (unpack Property.caseIgnorableTable) =
      (39, 39) :: (46, 46) :: (58, 58) :: (94, 94) :: (96, 96) :: (168, 168) ::
        ofGapsFrom 169 (unpackFrom 0 1 rest) := by
    rw [unpack, written]
    rfl
  have later : mem (ofGapsFrom 169 (unpackFrom 0 1 rest)) c.toNat = false := by
    refine Bool.eq_false_iff.mpr fun there => ?_
    have := (orderedFrom_ofGapsFrom 169 _).le_of_mem there
    omega
  rw [isCaseIgnorable, memChar, caseIgnorable,
    mem_withAdded Property.caseIgnorableTable rfl, ranges]
  simp only [mem_cons, later]
  simp [mem]
  omega

end EventSieve.Text
