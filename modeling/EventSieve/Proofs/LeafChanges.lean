import EventSieve.Tree.Node
import Mathlib.Data.Int.Order.Basic

/-!
# Changed leaves

A leaf keeps its text prepared, and a leaf that compares keeps the instant of the text besides. A
change of the text prepares both anew and keeps the rest, and every other change keeps both. So
after any changes a leaf is the one that would be made now, of what it was given last.

## Main definitions

* `LeafChange` — the changes of a leaf
* `LeafSettings` — what a leaf is made of, and `LeafSettings.fresh` the leaf made of it
* `LeafSettings.last` — what a leaf was given last
* `Node.IsPreparedBy` — what a leaf keeps is what a coercion makes of its text

## Main statements

* `LeafChange.changeAll_fresh` — a changed leaf is the fresh one
* `LeafChange.isPreparedBy_changeAll` — so it is prepared by the coercion that it was given last
-/
namespace EventSieve.Tree

/-- The kinds of leaves. -/
inductive LeafKind where
  | equals | contains | «matches» | compare
deriving DecidableEq, Repr

/-- The kind of node that a leaf is. -/
def LeafKind.kind : LeafKind → NodeKind
  | equals => .equals
  | contains => .contains
  | «matches» => .matches
  | compare => .compare

/-- A change of a leaf. -/
inductive LeafChange where
  | setValue (text : String) (coercion : Coercion)
  | setAspect (aspect : Aspect)
  | setIgnoreCase (ignoreCase : Bool)
  | setType (type : CompareType)
  | setResult (result : Int)
deriving Repr

namespace LeafChange

/-- A node after a change, if nodes of its kind can be changed so. -/
def change? : LeafChange → Node → Option Node
  | setValue text coercion => Node.setValue? text coercion
  | setAspect aspect => Node.setAspect? aspect
  | setIgnoreCase ignoreCase => Node.setIgnoreCase? ignoreCase
  | setType type => Node.setType? type
  | setResult result => Node.setResult? result

/-- A node after a change; a change that nodes of its kind do not have leaves it as it was. -/
def change (node : Node) (change : LeafChange) : Node :=
  (change.change? node).getD node

/-- A node after changes, one after the other. -/
def changeAll (changes : List LeafChange) (node : Node) : Node :=
  changes.foldl change node

/-- The text that a change gives to a leaf. -/
def text? : LeafChange → Option String
  | setValue text _ => some text
  | _ => none

/-- The coercion that a change gives to a leaf. -/
def coercion? : LeafChange → Option Coercion
  | setValue _ coercion => some coercion
  | _ => none

/-- The aspect that a change gives to a leaf. -/
def aspect? : LeafChange → Option Aspect
  | setAspect aspect => some aspect
  | _ => none

/-- Whether case is ignored, as a change gives it to a leaf. -/
def ignoreCase? : LeafChange → Option Bool
  | setIgnoreCase ignoreCase => some ignoreCase
  | _ => none

/-- The order that a change gives to a leaf. -/
def type? : LeafChange → Option CompareType
  | setType type => some type
  | _ => none

/-- The wanted sign that a change gives to a leaf. -/
def result? : LeafChange → Option Int
  | setResult result => some result
  | _ => none

/-- What changes gave last, or what there was before if they gave none. -/
def lastGiven {α : Type} (given? : LeafChange → Option α) (changes : List LeafChange)
    (before : α) : α :=
  (changes.filterMap given?).getLastD before

variable {α : Type} (given? : LeafChange → Option α) (before : α)

@[simp] theorem lastGiven_nil : lastGiven given? [] before = before := rfl

/-- The first of some changes only counts for what the others do not give. -/
theorem lastGiven_cons (change : LeafChange) (rest : List LeafChange) :
    lastGiven given? (change :: rest) before =
      lastGiven given? rest ((given? change).getD before) := by
  cases given : given? change with
  | none => rw [lastGiven, List.filterMap_cons_none given, lastGiven, Option.getD_none]
  | some value =>
    rw [lastGiven, List.filterMap_cons_some given, List.getLastD_cons, lastGiven,
      Option.getD_some]

end LeafChange

/-- What a leaf is made of. -/
structure LeafSettings where
  aspect : Aspect
  text : String
  coercion : Coercion := {}
  ignoreCase : Bool := false
  type : CompareType := .num
  /-- A number with the wanted sign. -/
  result : Int := 0
deriving Repr

namespace LeafSettings

/-- The leaf of a kind that is made of some settings. -/
def fresh (settings : LeafSettings) : LeafKind → Node
  | .equals => .equals
      { EqualsLeaf.make settings.aspect settings.text settings.coercion with
        ignoreCase := settings.ignoreCase }
  | .contains => .contains ⟨settings.aspect, settings.text, settings.ignoreCase⟩
  | .matches => .matches (MatchesLeaf.make settings.aspect settings.text settings.coercion)
  | .compare => .compare
      { CompareLeaf.make settings.aspect settings.text settings.result settings.coercion with
        type := settings.type }

/-- The settings that changes gave last. -/
def last (changes : List LeafChange) (settings : LeafSettings) : LeafSettings where
  aspect := LeafChange.lastGiven LeafChange.aspect? changes settings.aspect
  text := LeafChange.lastGiven LeafChange.text? changes settings.text
  coercion := LeafChange.lastGiven LeafChange.coercion? changes settings.coercion
  ignoreCase := LeafChange.lastGiven LeafChange.ignoreCase? changes settings.ignoreCase
  type := LeafChange.lastGiven LeafChange.type? changes settings.type
  result := LeafChange.lastGiven LeafChange.result? changes settings.result

variable (settings : LeafSettings) (kind : LeafKind) (changes : List LeafChange)

theorem last_cons (change : LeafChange) :
    settings.last (change :: changes) = (settings.last [change]).last changes := by
  simp only [last, LeafChange.lastGiven_cons, LeafChange.lastGiven_nil]

@[simp] theorem kind_fresh : (settings.fresh kind).kind = kind.kind := by
  cases kind <;> rfl

@[simp] theorem aspect?_fresh : (settings.fresh kind).aspect? = some settings.aspect := by
  cases kind <;> rfl

/-- A leaf shows the text that it was made of, also where it keeps it prepared. -/
@[simp] theorem value?_fresh : (settings.fresh kind).value? = some settings.text := by
  have prepared (forMatch : Bool) :
      (settings.coercion.prepare settings.text forMatch).text = settings.text :=
    settings.coercion.text_prepare settings.text forMatch
  cases kind with
  | contains => rfl
  | equals | compare => exact congrArg some (prepared false)
  | «matches» => exact congrArg some (prepared true)

/-- A changed leaf is the one made of the changed settings. -/
theorem change_fresh (change : LeafChange) :
    LeafChange.change (settings.fresh kind) change = (settings.last [change]).fresh kind := by
  cases change <;> cases kind <;> rfl

end LeafSettings

/-- What a leaf keeps beside its text is what a coercion makes of the text: the prepared text, and
the instant where it has one. The sign that it wants is a sign. -/
def Node.IsPreparedBy (coercion : Coercion) : Node → Prop
  | .equals leaf =>
    leaf.value = coercion.prepare leaf.value.text false ∧ leaf.coercion = coercion
  | .contains _ => True
  | .matches leaf =>
    leaf.pattern = coercion.prepare leaf.pattern.text true ∧ leaf.coercion = coercion
  | .compare leaf =>
    leaf.value = coercion.prepare leaf.value.text false ∧ leaf.coercion = coercion ∧
      leaf.instant = coercion.instant? leaf.value.text ∧
      (leaf.result = -1 ∨ leaf.result = 0 ∨ leaf.result = 1)
  | _ => False

/-- A fresh leaf is prepared by its coercion. -/
theorem LeafSettings.isPreparedBy_fresh (settings : LeafSettings) (kind : LeafKind) :
    (settings.fresh kind).IsPreparedBy settings.coercion := by
  have again (forMatch : Bool) : settings.coercion.prepare settings.text forMatch =
      settings.coercion.prepare
        (settings.coercion.prepare settings.text forMatch).text forMatch := by
    rw [Coercion.text_prepare]
  cases kind with
  | contains => trivial
  | equals => exact ⟨again false, rfl⟩
  | «matches» => exact ⟨again true, rfl⟩
  | compare =>
    refine ⟨again false, rfl, ?_, ?_⟩
    · show settings.coercion.instant? settings.text =
        settings.coercion.instant? (settings.coercion.prepare settings.text false).text
      rw [Coercion.text_prepare]
    · rcases settings.result.sign_trichotomy with sign | sign | sign
      · exact .inr (.inr sign)
      · exact .inr (.inl sign)
      · exact .inl sign

namespace LeafChange

variable (changes : List LeafChange) (settings : LeafSettings) (kind : LeafKind)

/-- A leaf after changes is the fresh leaf of what it was given last. -/
theorem changeAll_fresh :
    changeAll changes (settings.fresh kind) = (settings.last changes).fresh kind := by
  induction changes generalizing settings with
  | nil => rfl
  | cons change rest ih =>
    rw [changeAll, List.foldl_cons, settings.change_fresh, settings.last_cons rest]
    exact ih (settings.last [change])

/-- Whatever the order of its changes, a leaf shows the text and the aspect that it was given last,
what it keeps is what the coercion that came with the last text makes of this text, and it accepts
what a fresh leaf of all that it was given last accepts. -/
theorem isPreparedBy_changeAll :
    (changeAll changes (settings.fresh kind)).kind = kind.kind ∧
    (changeAll changes (settings.fresh kind)).aspect? = some (settings.last changes).aspect ∧
    (changeAll changes (settings.fresh kind)).value? = some (settings.last changes).text ∧
    (changeAll changes (settings.fresh kind)).IsPreparedBy (settings.last changes).coercion ∧
    ∀ event, (changeAll changes (settings.fresh kind)).leafAccepts event =
      ((settings.last changes).fresh kind).leafAccepts event := by
  rw [changeAll_fresh]
  exact ⟨LeafSettings.kind_fresh _ kind, LeafSettings.aspect?_fresh _ kind,
    LeafSettings.value?_fresh _ kind, LeafSettings.isPreparedBy_fresh _ kind, fun _ => rfl⟩

end LeafChange

end EventSieve.Tree
