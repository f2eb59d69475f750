import EventSieve.Operator
import Mathlib.Algebra.GroupWithZero.Nat

/-!
# The pattern that everything matches

A repetition that may be left out is found in every text, so a presence test, which is a match of
any character any number of times, holds of every value. That the pattern is within the limits is
shown by counting the states of its automata as if none was ever shared.

## Main definitions

* `forthCost` — the bytes of the states that read some sequences, with no state shared

## Main statements

* `matchesPattern_anything` — every value matches `.*`
-/
namespace EventSieve.Pattern

open Text (CodeSet)

/-! ## Repetitions that may be left out -/

namespace Regex

/-- Steps that add positions keep those that there are. -/
theorem stepAtMost_ne_zero (step : Places → Places) (count : Nat) {places : Places}
    (h : places ≠ 0) : stepAtMost step count places ≠ 0 := by
  induction count generalizing places with
  | zero => exact h
  | succ count ih =>
    rw [stepAtMost]
    split
    · exact h
    · refine ih fun none => h ?_
      exact (Nat.or_eq_zero_iff.mp none).1

/-- A repetition that may be left out is found in every text. -/
theorem isFoundIn_times_zero (inner : Regex) (most : Option Nat) (frugal : Bool)
    (text : List Char) : (times inner 0 most frugal).isFoundIn text = true := by
  have start : Nat.pow 2 (text.length + 1) - 1 ≠ 0 := by
    have := Nat.one_lt_two_pow (Nat.succ_ne_zero text.length)
    show 2 ^ (text.length + 1) - 1 ≠ 0
    omega
  rw [isFoundIn, bne_iff_ne]
  exact stepAtMost_ne_zero _ _ start

end Regex

/-! ## Counting states -/

theorem Size.bytes_state : Size.state.bytes = 32 := rfl

/-- A state is remembered or added. -/
theorem Draft.bytes_stateOf_le (draft : Draft) (edges : List Nat) (new : Size) :
    (draft.stateOf edges new).2.size.bytes ≤ draft.size.bytes + new.bytes := by
  unfold Draft.stateOf
  split
  · exact Nat.le_add_right _ _
  · exact Nat.le_of_eq (Size.bytes_add _ _)

/-- The bytes of the states that read some sequences, with no state shared. -/
def forthCost : Nat → List (List ByteRange) → Nat
  | 0, _ => 0
  | depth + 1, sequences =>
    let groups := sequences.splitBy fun one other => one.head? == other.head?
    (groups.map fun group => forthCost depth (group.map (List.drop 1))).sum +
      (Size.sparse groups.length).bytes

theorem bytes_readForth_le (finish depth : Nat) (sequences : List (List ByteRange))
    (draft : Draft) :
    (readForth finish depth sequences draft).2.size.bytes ≤
      draft.size.bytes + forthCost depth sequences := by
  induction depth generalizing sequences draft with
  | zero => exact Nat.le_refl _
  | succ depth ih =>
    -- The groups are read one after the other, each into the draft of those before it.
    have fold (groups : List (List (List ByteRange))) (edges : List Nat) (draft : Draft) :
        (groups.foldl (fun (before : List Nat × Draft) group =>
          let range := (group.head?.bind List.head?).getD (0, 0)
          let after := readForth finish depth (group.map (List.drop 1)) before.2
          (before.1 ++ [range.1, range.2, after.1], after.2)) (edges, draft)).2.size.bytes ≤
        draft.size.bytes +
          (groups.map fun group => forthCost depth (group.map (List.drop 1))).sum := by
      induction groups generalizing edges draft with
      | nil => exact Nat.le_refl _
      | cons group rest ihs =>
        rw [List.foldl_cons, List.map_cons, List.sum_cons]
        have := ih (group.map (List.drop 1)) draft
        refine Nat.le_trans (ihs _ _) ?_
        dsimp only
        omega
    rw [readForth]
    split
    · exact Nat.le_add_right _ _
    · refine Nat.le_trans (Draft.bytes_stateOf_le _ _ _) ?_
      rw [forthCost, ← Nat.add_assoc]
      exact Nat.add_le_add_right (fold _ [] draft) _

/-- Reading back adds one state for each range at most. -/
theorem bytes_readBack_le (finish : Nat) (sequence : List ByteRange) (draft : Draft) :
    (readBack finish sequence draft).size.bytes ≤ draft.size.bytes + 32 * sequence.length := by
  rw [readBack]
  generalize finish = next
  induction sequence generalizing next draft with
  | nil => exact Nat.le_refl _
  | cons range rest ih =>
    obtain ⟨low, high⟩ := range
    rw [List.foldl_cons, List.length_cons]
    have added := Draft.bytes_stateOf_le draft [next, low, high] .state
    rw [Size.bytes_state] at added
    refine Nat.le_trans (ih (draft.stateOf [next, low, high] .state).2
      (draft.stateOf [next, low, high] .state).1) ?_
    omega

theorem bytes_foldl_readBack_le (finish : Nat) (sequences : List (List ByteRange))
    (draft : Draft) :
    (sequences.foldl (fun draft sequence => readBack finish sequence draft) draft).size.bytes ≤
      draft.size.bytes + 32 * (sequences.map List.length).sum := by
  induction sequences generalizing draft with
  | nil => exact Nat.le_refl _
  | cons sequence rest ih =>
    rw [List.foldl_cons, List.map_cons, List.sum_cons]
    have := bytes_readBack_le finish sequence draft
    refine Nat.le_trans (ih _) ?_
    omega

/-! ## Any characters that end no line -/

/-- The characters that end no line. -/
def lineChars : CodeSet :=
  [(0, 9), (11, 0xD7FF), (0xE000, 0x10FFFF)]

/-- Any number of characters that end no line. -/
def lineRun : Regex :=
  .times (.oneOf lineChars) 0 none false

theorem others_lineFeed : Class.others [(10, 10)] = lineChars := by
  simp [Class.others, Class.everything, lineChars, CodeSet.inter, CodeSet.compl, CodeSet.union,
    CodeSet.ofRanges, CodeSet.merge, CodeSet.mergeFrom, CodeSet.gapsFrom, CodeSet.maxCode,
    List.mergeSort, List.MergeSort.Internal.splitInTwo]

/-- A choice of one plan that is itself no choice. -/
theorem choose_singleton {plan : Plan} (single : plan.branches = [plan]) :
    Plan.choose [plan] = plan := by
  rw [Plan.choose]
  unfold Plan.chooseIn
  simp only [List.flatMap_singleton, single]

theorem ofRegex_lineRun : Plan.ofRegex lineRun = .times (.set lineChars) 0 none false := by
  have nonempty : (Plan.set lineChars).isEmptyOnly = false := by decide +kernel
  have run : Plan.repeated (.set lineChars) 0 none false =
      .times (.set lineChars) 0 none false := by
    simp [Plan.repeated, nonempty]
  have inner : Plan.choose [.set lineChars] = .set lineChars := choose_singleton rfl
  calc Plan.ofRegex lineRun
    _ = Plan.choose [Plan.repeated (Plan.choose [.set lineChars]) 0 none false] := rfl
    _ = Plan.choose [.times (.set lineChars) 0 none false] := by rw [inner, run]
    _ = .times (.set lineChars) 0 none false := choose_singleton rfl

/-- A repetition that may be left out adds a choice and its class. -/
theorem grow_lineRun (backward : Bool) (size : Size) :
    (Plan.times (.set lineChars) 0 none false).grow backward size =
      growClass backward lineChars (size + .fork 2) := by
  simp [Plan.grow, Plan.growBranches, Plan.words?, Plan.branches, Plan.growEach, growChoice,
    growRepeated, Plan.shortest?, lineChars, spelling]

theorem bytes_growClass_le (size : Size) :
    (growClass false lineChars size).bytes ≤ size.bytes + 32 + forthCost 4 (spellings lineChars) ∧
    (growClass true lineChars size).bytes ≤
      size.bytes + 4 * (spellings lineChars).length + 64 +
        32 * ((spellings lineChars).map List.length).sum := by
  have ascii : lineChars.isAscii = false := rfl
  simp only [growClass, ascii, Bool.false_eq_true, if_false, if_true]
  constructor
  · have := bytes_readForth_le size.states 4 (spellings lineChars) ⟨size + .state, ⟨10000, {}⟩⟩
    rw [Size.bytes_add, Size.bytes_state] at this
    exact this
  · have := bytes_foldl_readBack_le (size.states + 1) (spellings lineChars)
      ⟨size + .fork (spellings lineChars).length + .state, ⟨1000, {}⟩⟩
    have fork : (Size.fork (spellings lineChars).length).bytes =
        32 + 4 * (spellings lineChars).length := rfl
    rw [Size.bytes_add, Size.bytes_add, Size.bytes_state, fork] at this
    refine Nat.le_trans this ?_
    omega

theorem isSmall_lineRun : lineRun.isSmall = true := by
  have forth : forthCost 4 (spellings lineChars) ≤ 10000 := by decide +kernel
  have back : 4 * (spellings lineChars).length + 64 +
      32 * ((spellings lineChars).map List.length).sum ≤ 10000 := by decide +kernel
  have lead (isSure : Bool) : (Plan.leadSize isSure).bytes ≤ 112 := by
    cases isSure <;> decide
  have fork : (Size.fork 2).bytes = 40 := rfl
  have limit : Size.limit = 10485760 := rfl
  have plan : (Plan.times (.set lineChars) 0 none false).forwardSize.isWithin = true := by
    rw [Plan.forwardSize, grow_lineRun, Size.isWithin, decide_eq_true_eq, Size.bytes_add,
      Size.bytes_add, Size.bytes_state]
    refine Nat.le_trans (Nat.add_le_add_right (Nat.add_le_add_right
      (bytes_growClass_le _).1 _) _) ?_
    have := lead (Plan.times (.set lineChars) 0 none false).isAtStart
    rw [Size.bytes_add, Size.bytes_add, Size.bytes_state, fork, limit]
    omega
  have reverse : (Plan.times (.set lineChars) 0 none false).backwardSize.isWithin = true := by
    rw [Plan.backwardSize, grow_lineRun, Size.isWithin, decide_eq_true_eq, Size.bytes_add,
      Size.bytes_state]
    refine Nat.le_trans (Nat.add_le_add_right (bytes_growClass_le _).2 _) ?_
    have := lead (Plan.times (.set lineChars) 0 none false).isAtEnd
    rw [Size.bytes_add, fork, limit]
    omega
  rw [Regex.isSmall, ofRegex_lineRun, plan, reverse]
  rfl

/-- The pattern of a presence test is well formed. -/
theorem compile?_anything : Pattern.compile? ".*" = some ⟨".*", lineRun⟩ := by
  have read : (Reader.expression 3 [] []).run { rest := ['.', '*'] } =
      some (⟨.times (.oneOf (Class.others [(10, 10)])) 0 none false, 1⟩, { rest := [] }) := rfl
  have chars : ".*".toList = ['.', '*'] := rfl
  have parsed : Regex.parse? ".*" = some lineRun := by
    rw [others_lineFeed] at read
    rw [Regex.parse?, chars]
    simp only [List.length_cons, List.length_nil, Nat.zero_add, Nat.reduceAdd]
    rw [read]
    exact if_pos ⟨rfl, by decide, isSmall_lineRun⟩
  rw [Pattern.compile?, parsed, Option.map_some]

end EventSieve.Pattern

namespace EventSieve

/-- Every value matches the pattern of a presence test. -/
theorem matchesPattern_anything (coercion : Coercion) (value : Value) :
    matchesPattern value (coercion.prepare ".*" true) coercion = true := by
  have found : (Pattern.mk ".*" Pattern.lineRun).isFoundIn value.text = true :=
    Pattern.Regex.isFoundIn_times_zero _ _ _ _
  have ready : coercion.prepare ".*" true =
      .pattern ⟨".*", Pattern.lineRun⟩ (coercion.number? ".*") := by
    rw [Coercion.prepare, if_pos rfl, Pattern.compile?_anything]
  rw [ready, matchesPattern]
  show (_ || (Pattern.mk ".*" Pattern.lineRun).isFoundIn value.text) = true
  rw [found, Bool.or_true]

end EventSieve
