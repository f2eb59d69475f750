import EventSieve.Tree.Basic
import Mathlib.Data.List.Nodup
import Mathlib.Data.List.Perm.Basic

/-!
# Laws of branches

What the recursions on branches say about lists of branches, and what a change at one identity
does to the identities of a branch and to the branches below it.

## Main definitions

* `Branch.ids` — the identities of a branch, from the top down
* `Branch.adopt` — a branch with more branches below its top

## Main statements

* `find?_key_eq_some_iff` — what is found by a key
* `Branch.ids_modify_perm_of` — what a change at one identity does to the identities of a branch
* `Branch.ids_modify_perm` — adopting at one identity adds the identities of what is adopted
* `Branch.modify_mem_preorder_of` — what a change at one identity keeps
* `Branch.modify_modify_adopted` — a change at a branch that has just been adopted
-/
namespace EventSieve

/-- Among items with different keys, the first one with a key is the one that has it. -/
theorem find?_key_eq_some_iff {α κ : Type} [DecidableEq κ] {key : α → κ} {items : List α}
    (distinct : (items.map key).Nodup) {wanted : κ} {item : α} :
    items.find? (key · == wanted) = some item ↔ item ∈ items ∧ key item = wanted := by
  constructor
  · intro found
    exact ⟨List.mem_of_find?_eq_some found, by simpa using List.find?_some found⟩
  · rintro ⟨mem, rfl⟩
    cases found : items.find? (key · == key item) with
    | none => simpa using List.find?_eq_none.mp found item mem
    | some other =>
      have same : key other = key item := by simpa using List.find?_some found
      rw [List.inj_on_of_nodup_map distinct (List.mem_of_find?_eq_some found) mem same]

namespace Tree.Branch

/-! ## Branches as lists -/

/-- Induction on branches: what holds of all branches below a top holds of the branch. -/
theorem induction {motive : Branch → Prop}
    (mk : ∀ id node negated children, (∀ b ∈ children, motive b) →
      motive (.mk id node negated children)) : ∀ branch, motive branch
  | .mk id node negated children => mk id node negated children fun b _ => induction mk b

theorem preorderAll_eq (branches : List Branch) :
    preorderAll branches = branches.flatMap preorder := by
  induction branches with
  | nil => rfl
  | cons b rest ih => rw [preorderAll, ih, List.flatMap_cons]

theorem modifyAll_eq (target : NodeId) (change : Branch → Branch) (branches : List Branch) :
    modifyAll target change branches = branches.map (modify target change) := by
  induction branches with
  | nil => rfl
  | cons b rest ih => rw [modifyAll, ih, List.map_cons]

theorem allAccept_eq (event : Event) (branches : List Branch) :
    allAccept event branches = branches.all (accepts event) := by
  induction branches with
  | nil => rfl
  | cons b rest ih => rw [allAccept, ih, List.all_cons]

theorem anyAccepts_eq (event : Event) (branches : List Branch) :
    anyAccepts event branches = branches.any (accepts event) := by
  induction branches with
  | nil => rfl
  | cons b rest ih => rw [anyAccepts, ih, List.any_cons]

theorem preorder_mk (id : NodeId) (node : Node) (negated : Bool) (children : List Branch) :
    (mk id node negated children).preorder =
      .mk id node negated children :: children.flatMap preorder := by
  rw [preorder, preorderAll_eq]

theorem modify_mk_self (target : NodeId) (change : Branch → Branch) (node : Node)
    (negated : Bool) (children : List Branch) :
    (mk target node negated children).modify target change =
      change (.mk target node negated children) := by
  rw [modify, if_pos rfl]

theorem modify_mk_of_ne {id target : NodeId} (h : id ≠ target) (change : Branch → Branch)
    (node : Node) (negated : Bool) (children : List Branch) :
    (mk id node negated children).modify target change =
      .mk id node negated (children.map (modify target change)) := by
  rw [modify, if_neg h, modifyAll_eq]

/-! ## Identities -/

/-- The identities of a branch, from the top down. -/
def ids (branch : Branch) : List NodeId :=
  branch.preorder.map (·.id)

theorem ids_mk (id : NodeId) (node : Node) (negated : Bool) (children : List Branch) :
    (mk id node negated children).ids = id :: children.flatMap ids := by
  rw [ids, preorder_mk, List.map_cons, List.map_flatMap]
  rfl

theorem id_mem_ids (branch : Branch) : branch.id ∈ branch.ids := by
  obtain ⟨id, node, negated, children⟩ := branch
  rw [ids_mk]
  exact List.mem_cons_self

theorem mem_preorder_self (branch : Branch) : branch ∈ branch.preorder := by
  obtain ⟨id, node, negated, children⟩ := branch
  rw [preorder_mk]
  exact List.mem_cons_self

/-- What is below a child is below its parent. -/
theorem mem_preorder_below {branch child part : Branch} (hchild : child ∈ branch.children)
    (hpart : part ∈ child.preorder) : part ∈ branch.preorder := by
  obtain ⟨id, node, negated, children⟩ := branch
  rw [preorder_mk]
  exact List.mem_cons_of_mem _ (List.mem_flatMap.mpr ⟨child, hchild, hpart⟩)

theorem mem_preorder_of_mem_children {branch child : Branch} (h : child ∈ branch.children) :
    child ∈ branch.preorder :=
  mem_preorder_below h child.mem_preorder_self

/-- The branches below a branch of a branch are below that branch too. -/
theorem mem_preorder_trans {a b c : Branch} (hab : a ∈ b.preorder) (hbc : b ∈ c.preorder) :
    a ∈ c.preorder := by
  induction c using Branch.induction with
  | mk id node negated children ih =>
    rw [preorder_mk, List.mem_cons] at hbc
    rcases hbc with rfl | hbc
    · exact hab
    · obtain ⟨child, hchild, hbc⟩ := List.mem_flatMap.mp hbc
      exact mem_preorder_below hchild (ih child hchild hbc)

theorem ids_subset_of_mem_preorder {a b : Branch} (h : a ∈ b.preorder) : a.ids ⊆ b.ids := by
  intro id hid
  obtain ⟨x, hx, rfl⟩ := List.mem_map.mp hid
  exact List.mem_map.mpr ⟨x, mem_preorder_trans hx h, rfl⟩

theorem ids_nodup_of_mem_preorder {a b : Branch} (distinct : b.ids.Nodup) (h : a ∈ b.preorder) :
    a.ids.Nodup := by
  induction b using Branch.induction with
  | mk id node negated children ih =>
    rw [preorder_mk, List.mem_cons] at h
    rcases h with rfl | h
    · exact distinct
    · obtain ⟨child, hchild, inside⟩ := List.mem_flatMap.mp h
      rw [ids_mk, List.nodup_cons] at distinct
      exact ih child hchild ((List.nodup_flatMap.mp distinct.2).1 child hchild) inside

/-! ## Changes -/

/-- Where an identity does not occur there is nothing to change. -/
theorem modify_of_notMem {target : NodeId} {branch : Branch} (h : target ∉ branch.ids)
    (change : Branch → Branch) : branch.modify target change = branch := by
  induction branch using Branch.induction with
  | mk id node negated children ih =>
    rw [ids_mk, List.mem_cons, not_or] at h
    obtain ⟨hid, hchildren⟩ := h
    rw [modify_mk_of_ne (Ne.symm hid), List.map_congr_left (g := fun b => b), List.map_id']
    exact fun b hb => ih b hb fun hmem => hchildren (List.mem_flatMap.mpr ⟨b, hb, hmem⟩)

theorem map_modify_of_notMem {target : NodeId} {branches : List Branch}
    (h : target ∉ branches.flatMap ids) (change : Branch → Branch) :
    branches.map (modify target change) = branches := by
  have same : ∀ b ∈ branches, b.modify target change = b := fun b hb =>
    modify_of_notMem (fun hmem => h (List.mem_flatMap.mpr ⟨b, hb, hmem⟩)) change
  rw [List.map_congr_left same, List.map_id']

theorem modify_of_id_eq {target : NodeId} {branch : Branch} (h : branch.id = target)
    (change : Branch → Branch) : branch.modify target change = change branch := by
  obtain ⟨id, node, negated, children⟩ := branch
  cases h
  exact modify_mk_self _ _ _ _ _

/-- Changes that agree on the branches with an identity are the same change there. -/
theorem modify_congr {target : NodeId} {change other : Branch → Branch} {branch : Branch}
    (h : ∀ b ∈ branch.preorder, b.id = target → change b = other b) :
    branch.modify target change = branch.modify target other := by
  induction branch using Branch.induction with
  | mk id node negated children ih =>
    by_cases here : id = target
    · subst here
      rw [modify_mk_self, modify_mk_self]
      exact h _ (mem_preorder_self _) rfl
    · rw [modify_mk_of_ne here, modify_mk_of_ne here]
      congr 1
      refine List.map_congr_left fun child hchild => ih child hchild fun b hb => h b ?_
      exact mem_preorder_below hchild hb

/-- Two changes at one identity, of which the first keeps the identity. -/
theorem modify_modify {target : NodeId} {first : Branch → Branch}
    (keeps : ∀ b, (first b).id = b.id) (second : Branch → Branch) (branch : Branch) :
    (branch.modify target first).modify target second =
      branch.modify target (second ∘ first) := by
  induction branch using Branch.induction with
  | mk id node negated children ih =>
    by_cases h : id = target
    · subst h
      rw [modify_mk_self, modify_mk_self, modify_of_id_eq (by rw [keeps]; rfl)]
      rfl
    · rw [modify_mk_of_ne h, modify_mk_of_ne h, modify_mk_of_ne h, List.map_map]
      congr 1
      exact List.map_congr_left ih

/-- A change that keeps identities keeps those of a branch with the change made to it. -/
theorem id_modify {target : NodeId} {change : Branch → Branch}
    (keeps : ∀ b, (change b).id = b.id) (branch : Branch) :
    (branch.modify target change).id = branch.id := by
  obtain ⟨id, node, negated, children⟩ := branch
  by_cases h : id = target
  · subst h
    rw [modify_mk_self, keeps]
  · rw [modify_mk_of_ne h]
    rfl

theorem node_modify {target : NodeId} {change : Branch → Branch}
    (keeps : ∀ b, (change b).node = b.node) (branch : Branch) :
    (branch.modify target change).node = branch.node := by
  obtain ⟨id, node, negated, children⟩ := branch
  by_cases h : id = target
  · subst h
    rw [modify_mk_self, keeps]
  · rw [modify_mk_of_ne h]
    rfl

theorem negated_modify {target : NodeId} {change : Branch → Branch}
    (keeps : ∀ b, (change b).negated = b.negated) (branch : Branch) :
    (branch.modify target change).negated = branch.negated := by
  obtain ⟨id, node, negated, children⟩ := branch
  by_cases h : id = target
  · subst h
    rw [modify_mk_self, keeps]
  · rw [modify_mk_of_ne h]
    rfl

theorem map_id_modify {target : NodeId} {change : Branch → Branch}
    (keeps : ∀ b, (change b).id = b.id) (branches : List Branch) :
    (branches.map (modify target change)).map (·.id) = branches.map (·.id) := by
  rw [List.map_map]
  exact List.map_congr_left fun b _ => id_modify keeps b

/-- A change at another identity keeps the identities of the children. -/
theorem childIds_modify {target : NodeId} {change : Branch → Branch}
    (keeps : ∀ b, (change b).id = b.id) {branch : Branch} (other : branch.id ≠ target) :
    (branch.modify target change).children.map (·.id) = branch.children.map (·.id) := by
  obtain ⟨id, node, negated, children⟩ := branch
  have other : id ≠ target := other
  rw [modify_mk_of_ne other]
  exact map_id_modify keeps children

/-- A change that keeps all identities of a branch keeps them where it is made. -/
theorem ids_modify {target : NodeId} {change : Branch → Branch}
    (keeps : ∀ b, (change b).ids = b.ids) (branch : Branch) :
    (branch.modify target change).ids = branch.ids := by
  induction branch using Branch.induction with
  | mk id node negated children ih =>
    by_cases h : id = target
    · subst h
      rw [modify_mk_self, keeps]
    · rw [modify_mk_of_ne h, ids_mk, ids_mk, List.flatMap_map, List.flatMap_congr ih]

theorem ids_withNode (node : Node) (branch : Branch) : (branch.withNode node).ids = branch.ids := by
  obtain ⟨id, _, negated, children⟩ := branch
  rw [withNode, ids_mk, ids_mk]

theorem ids_withNegated (negated : Bool) (branch : Branch) :
    (branch.withNegated negated).ids = branch.ids := by
  obtain ⟨id, node, _, children⟩ := branch
  rw [withNegated, ids_mk, ids_mk]

section
variable {target : NodeId} {change : Branch → Branch} {minus plus : List NodeId}

/-- Of branches with different identities, a change at one identity changes at most one: it takes
some identities away and brings others. -/
theorem flatMap_ids_modify_perm_of {branches : List Branch}
    (each : ∀ b ∈ branches, b.ids.Nodup → target ∈ b.ids →
      ((b.modify target change).ids ++ minus).Perm (b.ids ++ plus))
    (distinct : (branches.flatMap ids).Nodup) (known : target ∈ branches.flatMap ids) :
    ((branches.map (modify target change)).flatMap ids ++ minus).Perm
      (branches.flatMap ids ++ plus) := by
  induction branches with
  | nil => simp at known
  | cons b rest ih =>
    rw [List.flatMap_cons, List.nodup_append] at distinct
    obtain ⟨one, others, apart⟩ := distinct
    rw [List.map_cons, List.flatMap_cons, List.flatMap_cons]
    rw [List.flatMap_cons, List.mem_append] at known
    by_cases here : target ∈ b.ids
    · have absent : target ∉ rest.flatMap ids := fun h => apart target here target h rfl
      rw [map_modify_of_notMem absent]
      have changed := each b List.mem_cons_self one here
      calc (b.modify target change).ids ++ rest.flatMap ids ++ minus
        List.Perm _ ((b.modify target change).ids ++ minus ++ rest.flatMap ids) := by
          rw [List.append_assoc, List.append_assoc]
          exact List.perm_append_comm.append_left _
        List.Perm _ (b.ids ++ plus ++ rest.flatMap ids) := changed.append_right _
        List.Perm _ (b.ids ++ rest.flatMap ids ++ plus) := by
          rw [List.append_assoc, List.append_assoc]
          exact List.perm_append_comm.append_left _
    · rw [modify_of_notMem here, List.append_assoc, List.append_assoc]
      have later := known.resolve_left here
      exact (ih (fun c hc => each c (List.mem_cons_of_mem _ hc)) others later).append_left _

/-- A change at an identity takes away and brings the identities that it does there. -/
theorem ids_modify_perm_of {branch : Branch}
    (here : ∀ b ∈ branch.preorder, b.id = target →
      ((change b).ids ++ minus).Perm (b.ids ++ plus))
    (distinct : branch.ids.Nodup) (known : target ∈ branch.ids) :
    ((branch.modify target change).ids ++ minus).Perm (branch.ids ++ plus) := by
  induction branch using Branch.induction with
  | mk id node negated children ih =>
    by_cases h : id = target
    · subst h
      rw [modify_mk_self]
      exact here _ (mem_preorder_self _) rfl
    · rw [modify_mk_of_ne h, ids_mk, ids_mk, List.cons_append, List.cons_append]
      rw [ids_mk, List.nodup_cons] at distinct
      rw [ids_mk, List.mem_cons] at known
      refine (flatMap_ids_modify_perm_of (fun child hchild => ih child hchild fun b hb => here b ?_)
        distinct.2 (known.resolve_left (Ne.symm h))).cons _
      exact mem_preorder_below hchild hb

/-- A part of a branch with a change made to it is an old part with the change made below it, or a
part of what was changed. -/
theorem mem_preorder_modify {part branch : Branch}
    (h : part ∈ (branch.modify target change).preorder) :
    (∃ old ∈ branch.preorder, old.id ≠ target ∧ part = old.modify target change) ∨
      ∃ old ∈ branch.preorder, old.id = target ∧ part ∈ (change old).preorder := by
  induction branch using Branch.induction with
  | mk id node negated children ih =>
    by_cases here : id = target
    · subst here
      rw [modify_mk_self] at h
      exact .inr ⟨_, mem_preorder_self _, rfl, h⟩
    · rw [modify_mk_of_ne here, preorder_mk, List.mem_cons] at h
      rcases h with rfl | h
      · exact .inl ⟨_, mem_preorder_self _, here, (modify_mk_of_ne here _ _ _ _).symm⟩
      · obtain ⟨changed, hchanged, hpart⟩ := List.mem_flatMap.mp h
        obtain ⟨child, hchild, rfl⟩ := List.mem_map.mp hchanged
        rcases ih child hchild hpart with ⟨old, hold, rest⟩ | ⟨old, hold, rest⟩
        · exact .inl ⟨old, mem_preorder_below hchild hold, rest⟩
        · exact .inr ⟨old, mem_preorder_below hchild hold, rest⟩

/-- A part of a branch is still there after a change, with the change made to it, if the change keeps
the child that it is below. -/
theorem modify_mem_preorder_of {part branch : Branch} (distinct : branch.ids.Nodup)
    (h : part ∈ branch.preorder)
    (stays : ∀ owner ∈ branch.preorder, owner.id = target → ∀ child ∈ owner.children,
      part ∈ child.preorder → child ∈ (change owner).children) :
    part.modify target change ∈ (branch.modify target change).preorder := by
  induction branch using Branch.induction with
  | mk id node negated children ih =>
    rw [preorder_mk, List.mem_cons] at h
    rw [ids_mk, List.nodup_cons] at distinct
    rcases h with rfl | h
    · exact mem_preorder_self _
    · obtain ⟨child, hchild, hpart⟩ := List.mem_flatMap.mp h
      by_cases same : id = target
      · subst same
        have absent : id ∉ part.ids := fun hmem => distinct.1 <|
          List.mem_flatMap.mpr ⟨child, hchild, ids_subset_of_mem_preorder hpart hmem⟩
        rw [modify_of_notMem absent, modify_mk_self]
        exact mem_preorder_below (stays _ (mem_preorder_self _) rfl child hchild hpart) hpart
      · rw [modify_mk_of_ne same]
        have one : child.ids.Nodup := (List.nodup_flatMap.mp distinct.2).1 child hchild
        refine mem_preorder_below (List.mem_map_of_mem hchild) (ih child hchild one hpart ?_)
        exact fun owner howner => stays owner (mem_preorder_below hchild howner)

end

/-! ## Adoption -/

/-- A branch with more branches below its top, after those that it has. -/
def adopt (new : List Branch) (branch : Branch) : Branch :=
  branch.withChildren (branch.children ++ new)

@[simp] theorem id_adopt (new : List Branch) (branch : Branch) :
    (branch.adopt new).id = branch.id :=
  id_withChildren _ _

@[simp] theorem node_adopt (new : List Branch) (branch : Branch) :
    (branch.adopt new).node = branch.node :=
  node_withChildren _ _

@[simp] theorem negated_adopt (new : List Branch) (branch : Branch) :
    (branch.adopt new).negated = branch.negated :=
  negated_withChildren _ _

theorem adopt_mk (new : List Branch) (id : NodeId) (node : Node) (negated : Bool)
    (children : List Branch) :
    (mk id node negated children).adopt new = .mk id node negated (children ++ new) := rfl

@[simp] theorem adopt_nil (branch : Branch) : branch.adopt [] = branch := by
  obtain ⟨id, node, negated, children⟩ := branch
  rw [adopt_mk, List.append_nil]

theorem adopt_adopt (new more : List Branch) (branch : Branch) :
    (branch.adopt new).adopt more = branch.adopt (new ++ more) := by
  obtain ⟨id, node, negated, children⟩ := branch
  rw [adopt_mk, adopt_mk, adopt_mk, List.append_assoc]

section
variable {parent : NodeId} {new : List Branch}

theorem ids_adopt_perm (branch : Branch) :
    ((branch.adopt new).ids ++ []).Perm (branch.ids ++ new.flatMap ids) := by
  obtain ⟨id, node, negated, children⟩ := branch
  rw [adopt_mk, ids_mk, ids_mk, List.flatMap_append, List.append_nil]
  exact .rfl

/-- Adoption at an identity adds the identities of what is adopted. -/
theorem ids_modify_perm {branch : Branch} (distinct : branch.ids.Nodup)
    (known : parent ∈ branch.ids) :
    (branch.modify parent (adopt new)).ids.Perm (branch.ids ++ new.flatMap ids) := by
  simpa using ids_modify_perm_of (fun b _ _ => b.ids_adopt_perm) distinct known

/-- Of branches with different identities, adoption at one identity changes at most one. -/
theorem flatMap_ids_modify_perm {branches : List Branch}
    (each : ∀ b ∈ branches, b.ids.Nodup → parent ∈ b.ids →
      (b.modify parent (adopt new)).ids.Perm (b.ids ++ new.flatMap ids))
    (distinct : (branches.flatMap ids).Nodup) (known : parent ∈ branches.flatMap ids) :
    ((branches.map (modify parent (adopt new))).flatMap ids).Perm
      (branches.flatMap ids ++ new.flatMap ids) := by
  have here (b : Branch) (hb : b ∈ branches) (one : b.ids.Nodup) (mem : parent ∈ b.ids) :
      ((b.modify parent (adopt new)).ids ++ []).Perm (b.ids ++ new.flatMap ids) := by
    rw [List.append_nil]
    exact each b hb one mem
  simpa using flatMap_ids_modify_perm_of here distinct known

/-- A change at a branch that has just been adopted changes what is adopted. -/
theorem modify_modify_adopted {adopted branch : Branch} (fresh : adopted.id ∉ branch.ids)
    (change : Branch → Branch) :
    (branch.modify parent (adopt [adopted])).modify adopted.id change =
      branch.modify parent (adopt [change adopted]) := by
  induction branch using Branch.induction with
  | mk id node negated children ih =>
    rw [ids_mk, List.mem_cons, not_or] at fresh
    obtain ⟨other, below⟩ := fresh
    by_cases h : id = parent
    · subst h
      rw [modify_mk_self, modify_mk_self, adopt_mk, adopt_mk, modify_mk_of_ne (Ne.symm other),
        List.map_append, map_modify_of_notMem below, List.map_singleton, modify_of_id_eq rfl]
    · rw [modify_mk_of_ne h, modify_mk_of_ne h, modify_mk_of_ne (Ne.symm other), List.map_map]
      congr 1
      refine List.map_congr_left fun b hb => ih b hb fun hmem => below ?_
      exact List.mem_flatMap.mpr ⟨b, hb, hmem⟩

/-- A branch below another one is still there after an adoption, with the adoption made to it. -/
theorem modify_mem_preorder {part branch : Branch} (distinct : branch.ids.Nodup)
    (h : part ∈ branch.preorder) :
    part.modify parent (adopt new) ∈ (branch.modify parent (adopt new)).preorder := by
  refine modify_mem_preorder_of distinct h fun owner _ _ child hchild _ => ?_
  rw [adopt, children_withChildren]
  exact List.mem_append_left _ hchild

/-- What is adopted stands below the branch afterwards. -/
theorem adopted_mem_preorder {adopted part branch : Branch} (known : parent ∈ branch.ids)
    (hadopted : adopted ∈ new) (hpart : part ∈ adopted.preorder) :
    part ∈ (branch.modify parent (adopt new)).preorder := by
  induction branch using Branch.induction with
  | mk id node negated children ih =>
    by_cases same : id = parent
    · subst same
      rw [modify_mk_self, adopt_mk]
      exact mem_preorder_below (List.mem_append_right _ hadopted) hpart
    · rw [ids_mk, List.mem_cons] at known
      obtain ⟨child, hchild, hmem⟩ := List.mem_flatMap.mp (known.resolve_left (Ne.symm same))
      rw [modify_mk_of_ne same]
      exact mem_preorder_below (List.mem_map_of_mem hchild) (ih child hchild hmem)

end

end Tree.Branch
end EventSieve
