import EventSieve.Proofs.Branches
import EventSieve.Tree.Outline
import Mathlib.Data.List.Induction

/-!
# Renderings of branches

A branch in JSON holds one object for each of its nodes, and its outline has one line for each of
them, both from the top down.

## Main definitions

* `Json.objects` — the objects in a value, each before those inside it
* `Branch.levels` — a branch and all branches below it, each with its depth

## Main statements

* `Json.get?_ofMembers` — of equal keys the last counts
* `Branch.objects_toJson` — the objects of a branch are those of its nodes
* `Branch.outline_eq` — the lines of a branch are those of its nodes
-/
namespace EventSieve

open EventSieve.Tree (Node NodeKind NodeId Branch)

/-! ## Members of objects -/

namespace Json

variable {key other : String} {value : Json} {members : List (String × Json)}

theorem lookup_cons (key other : String) (value : Json) (members : List (String × Json)) :
    List.lookup other ((key, value) :: members) =
      if other = key then some value else members.lookup other := by
  by_cases same : other = key
  · simp [same]
  · simp [List.lookup_cons, same, beq_eq_false_iff_ne.mpr same]

theorem lookup_insertMember (key other : String) (value : Json) (members : List (String × Json)) :
    (insertMember key value members).lookup other =
      if other = key then some value else members.lookup other := by
  induction members with
  | nil => exact lookup_cons key other value []
  | cons member rest ih =>
    obtain ⟨first, old⟩ := member
    rw [insertMember]
    by_cases before : key < first
    · rw [if_pos before, lookup_cons]
    · rw [if_neg before]
      by_cases replaced : key = first
      · by_cases same : other = first <;> simp [lookup_cons, replaced, same]
      · by_cases same : other = first
        · simp [replaced, same, Ne.symm replaced]
        · simp [lookup_cons, replaced, same, ih]

/-- The member of an object with a key is the last one given. -/
theorem get?_ofMembers (members : List (String × Json)) (key : String) :
    (ofMembers members).get? key = members.reverse.lookup key := by
  show (members.foldl _ []).lookup key = _
  induction members using List.reverseRecOn with
  | nil => rfl
  | append_singleton members member ih =>
    rw [List.foldl_concat, lookup_insertMember, ih, List.reverse_concat, lookup_cons]

theorem mem_insertMember {member : String × Json} (h : member ∈ insertMember key value members) :
    member = (key, value) ∨ member ∈ members := by
  induction members with
  | nil => simpa [insertMember] using h
  | cons first rest ih =>
    rw [insertMember] at h
    split_ifs at h
    · simpa using h
    · rcases List.mem_cons.mp h with here | later
      · exact .inl here
      · exact .inr (List.mem_cons_of_mem _ later)
    · rcases List.mem_cons.mp h with here | later
      · exact .inr (here ▸ List.mem_cons_self)
      · exact (ih later).imp_right (List.mem_cons_of_mem _)

/-! ## Objects -/

mutual

/-- The objects in a value, each before those inside it. -/
def objects : Json → List Json
  | array items => objectsOfItems items
  | object members => object members :: objectsOfMembers members
  | _ => []

/-- The objects in some items, one after the other. -/
def objectsOfItems : List Json → List Json
  | [] => []
  | item :: rest => objects item ++ objectsOfItems rest

/-- The objects in some members, one after the other. -/
def objectsOfMembers : List (String × Json) → List Json
  | [] => []
  | (_, value) :: rest => objects value ++ objectsOfMembers rest

end

theorem objectsOfItems_eq (items : List Json) : objectsOfItems items = items.flatMap objects := by
  induction items with
  | nil => rfl
  | cons item rest ih => rw [objectsOfItems, ih, List.flatMap_cons]

/-- Members without any objects. -/
def NoObjects (members : List (String × Json)) : Prop :=
  ∀ member ∈ members, member.2.objects = []

theorem NoObjects.objectsOfMembers (h : NoObjects members) : objectsOfMembers members = [] := by
  induction members with
  | nil => rfl
  | cons member rest ih =>
    obtain ⟨here, later⟩ := List.forall_mem_cons.mp h
    rw [Json.objectsOfMembers, here, ih later, List.append_nil]

theorem NoObjects.insertMember (h : NoObjects members) (plain : value.objects = []) :
    NoObjects (insertMember key value members) := by
  intro member mem
  rcases mem_insertMember mem with rfl | old
  · exact plain
  · exact h member old

/-- Among members without objects, one more brings its own objects. -/
theorem NoObjects.objectsOfMembers_insertMember (h : NoObjects members) (key : String)
    (value : Json) : Json.objectsOfMembers (Json.insertMember key value members) =
      value.objects := by
  induction members with
  | nil => simp [Json.insertMember, Json.objectsOfMembers]
  | cons member rest ih =>
    obtain ⟨here, later⟩ := List.forall_mem_cons.mp h
    have none : Json.objectsOfMembers rest = [] := NoObjects.objectsOfMembers later
    rw [Json.insertMember]
    split_ifs <;> simp [Json.objectsOfMembers, here, none, ih later]

/-- The members of an object that is made of members without objects have none. -/
theorem NoObjects.foldl (h : NoObjects members) :
    NoObjects (members.foldl (fun sorted member =>
      Json.insertMember member.1 member.2 sorted) []) := by
  induction members using List.reverseRecOn with
  | nil => exact nofun
  | append_singleton members member ih =>
    rw [List.foldl_concat]
    exact (ih fun other mem => h other (List.mem_append_left _ mem)).insertMember
      (h member (List.mem_append_right _ List.mem_cons_self))

/-- An object that is made of members without objects is the only one. -/
theorem NoObjects.objects_ofMembers (h : NoObjects members) :
    (ofMembers members).objects = [ofMembers members] := by
  rw [ofMembers, objects, h.foldl.objectsOfMembers]

/-- With one more member, its objects come after the whole. -/
theorem NoObjects.objects_ofMembers_concat (h : NoObjects members) (key : String) (value : Json) :
    (ofMembers (members ++ [(key, value)])).objects =
      ofMembers (members ++ [(key, value)]) :: value.objects := by
  rw [ofMembers, objects, List.foldl_concat, h.foldl.objectsOfMembers_insertMember]

end Json

/-! ## Branches in JSON -/

theorem Tree.Node.noObjects_members (node : Node) : Json.NoObjects node.members := by
  cases node <;> simp [members, Json.NoObjects, Json.objects]

namespace Tree.Branch

theorem toJsonAll_eq (branches : List Branch) : toJsonAll branches = branches.map toJson := by
  induction branches with
  | nil => rfl
  | cons b rest ih => rw [toJsonAll, ih, List.map_cons]

/-- The objects of a branch are those of its nodes, from the top down. -/
theorem objects_toJson (branch : Branch) :
    branch.toJson.objects = branch.preorder.map toJson := by
  induction branch using Branch.induction with
  | mk id node negated children ih =>
    have own : Json.NoObjects
        ([("kind", .string node.kind.name), ("negate", .boolean negated)] ++ node.members) :=
      List.forall_mem_append.mpr ⟨by simp [Json.objects], node.noObjects_members⟩
    rw [preorder_mk, List.map_cons, List.map_flatMap, ← List.flatMap_congr ih, toJson]
    cases children with
    | nil => simp only [List.isEmpty_nil, if_true, List.append_nil, List.flatMap_nil,
        own.objects_ofMembers]
    | cons child rest =>
      simp only [List.isEmpty_cons, Bool.false_eq_true, if_false, own.objects_ofMembers_concat,
        Json.objects, Json.objectsOfItems_eq, toJsonAll_eq, List.flatMap_map]

/-- The object of a node has its kind and its flag. -/
theorem get?_toJson (branch : Branch) :
    branch.toJson.get? "kind" = some (.string branch.node.kind.name) ∧
      branch.toJson.get? "negate" = some (.boolean branch.negated) := by
  obtain ⟨id, node, negated, children⟩ := branch
  rw [toJson, Json.get?_ofMembers, Json.get?_ofMembers]
  cases children <;> cases node <;> exact ⟨rfl, rfl⟩

/-! ## Outlines -/

mutual

/-- A branch and all branches below it, from the top down, each with its depth. -/
def levels (depth : Nat) : Branch → List (Nat × Branch)
  | mk id node negated children =>
    (depth, mk id node negated children) :: levelsAll (depth + 1) children

/-- Branches and all branches below them, one after the other, each with its depth. -/
def levelsAll (depth : Nat) : List Branch → List (Nat × Branch)
  | [] => []
  | branch :: rest => levels depth branch ++ levelsAll depth rest

end

variable {branch part child : Branch} {depth level : Nat}

theorem levelsAll_eq (depth : Nat) (branches : List Branch) :
    levelsAll depth branches = branches.flatMap (levels depth) := by
  induction branches with
  | nil => rfl
  | cons b rest ih => rw [levelsAll, ih, List.flatMap_cons]

theorem levels_mk (depth : Nat) (id : NodeId) (node : Node) (negated : Bool)
    (children : List Branch) : (mk id node negated children).levels depth =
      (depth, .mk id node negated children) :: children.flatMap (levels (depth + 1)) := by
  rw [levels, levelsAll_eq]

theorem map_snd_levels (depth : Nat) (branch : Branch) :
    (branch.levels depth).map Prod.snd = branch.preorder := by
  induction branch using Branch.induction generalizing depth with
  | mk id node negated children ih =>
    rw [levels_mk, preorder_mk, List.map_cons, List.map_flatMap]
    exact congrArg (_ :: ·) (List.flatMap_congr fun child mem => ih child mem (depth + 1))

theorem mem_levels_self (depth : Nat) (branch : Branch) : (depth, branch) ∈ branch.levels depth := by
  obtain ⟨id, node, negated, children⟩ := branch
  rw [levels_mk]
  exact List.mem_cons_self

/-- A child is one level deeper than its parent. -/
theorem mem_levels_child (mem : (level, part) ∈ branch.levels depth)
    (below : child ∈ part.children) : (level + 1, child) ∈ branch.levels depth := by
  induction branch using Branch.induction generalizing depth with
  | mk id node negated children ih =>
    rw [levels_mk] at mem ⊢
    refine List.mem_cons_of_mem _ ?_
    rcases List.mem_cons.mp mem with same | inside
    · cases same
      exact List.mem_flatMap.mpr ⟨child, below, mem_levels_self _ child⟩
    · obtain ⟨top, htop, inside⟩ := List.mem_flatMap.mp inside
      exact List.mem_flatMap.mpr ⟨top, htop, ih top htop inside⟩

/-- The lines of some branches are those of one after the other. -/
theorem outlineAll_eq {branches : List Branch} {depth : Nat}
    (each : ∀ b ∈ branches, b.outline depth =
      String.join ((b.levels depth).map fun (level, part) => line level part.node part.negated)) :
    outlineAll depth branches = String.join
      ((branches.flatMap (levels depth)).map fun (level, part) =>
        line level part.node part.negated) := by
  induction branches with
  | nil => rfl
  | cons b rest ih =>
    obtain ⟨here, later⟩ := List.forall_mem_cons.mp each
    rw [outlineAll, here, ih later]
    simp

/-- The lines of a branch are those of its nodes, from the top down. -/
theorem outline_eq (depth : Nat) (branch : Branch) :
    branch.outline depth = String.join
      ((branch.levels depth).map fun (level, part) => line level part.node part.negated) := by
  induction branch using Branch.induction generalizing depth with
  | mk id node negated children ih =>
    rw [outline, levels_mk, outlineAll_eq fun b mem => ih b mem (depth + 1), List.map_cons,
      String.join_cons]
    rfl

end Tree.Branch
end EventSieve
