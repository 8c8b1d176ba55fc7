import TaskDesk.Proofs.Catalog.Shown
import TaskDesk.Proofs.Text.Bytes

/-!
# The order of siblings

A builder puts what it takes in at the end of a list of siblings, so the siblings of its forest are
`InOrder`: they come in the order in which they were taken in.  The catalog that it makes is
`Arranged`: the roots, the children of each category and its task types are the stable sort by name
of what was taken in and belongs there.
-/

namespace TaskDesk

open TaskDesk.Text

namespace Branch

/-- Whether the children and the task types of a branch come in the order of the given lists. -/
structure FollowsBelow (ks : List Category) (ts : List TaskType) (b : Branch) : Prop where
  children : (b.children.map category).Sublist ks
  types : b.types.Sublist ts

/-- Whether all siblings in a forest come in the order of the given lists. -/
structure InOrder (ks : List Category) (ts : List TaskType) (bs : List Branch) : Prop where
  roots : (bs.map category).Sublist ks
  below : ∀ b ∈ branchesOf bs, b.FollowsBelow ks ts

/-! ### A change of one branch -/

section Alter

variable {id : String} {f : Branch → Branch} {ks ks' : List Category} {ts ts' : List TaskType}

theorem category_alter (hf : ∀ b, (f b).category = b.category) (b : Branch) :
  (alter id f b).category = b.category
  := by
  obtain ⟨c, kids, own⟩ := b
  rw [alter]
  split
  · apply hf
  · rfl

theorem map_category_alterEach (hf : ∀ b, (f b).category = b.category) (bs : List Branch) :
  (alterEach id f bs).map category = bs.map category
  := by
  induction bs with
  | nil => rfl
  | cons b bs ih => rw [alterEach, List.map_cons, List.map_cons, ih, category_alter hf]

mutual

theorem followsBelow_alter (hf : ∀ b, (f b).category = b.category) (hks : ks.Sublist ks')
    (hts : ts.Sublist ts')
    (hchange : ∀ b, (∀ x ∈ b.branches, x.FollowsBelow ks ts) →
      ∀ x ∈ (f b).branches, x.FollowsBelow ks' ts') :
    ∀ (b : Branch), (∀ x ∈ b.branches, x.FollowsBelow ks ts) →
      ∀ x ∈ (alter id f b).branches, x.FollowsBelow ks' ts'
  | .mk c kids own, h => by
    rw [alter]
    split
    · apply hchange _ h
    · obtain ⟨hown, hkids⟩ := List.forall_mem_cons.mp h
      rw [branches, List.forall_mem_cons]
      constructor
      · constructor
        · rw [children, map_category_alterEach hf]
          apply hown.children.trans hks
        · apply hown.types.trans hts
      · apply followsBelow_alterEach hf hks hts hchange kids hkids

/-- If a change keeps to an order, so does the forest in which one branch is changed. -/
theorem followsBelow_alterEach (hf : ∀ b, (f b).category = b.category) (hks : ks.Sublist ks')
    (hts : ts.Sublist ts')
    (hchange : ∀ b, (∀ x ∈ b.branches, x.FollowsBelow ks ts) →
      ∀ x ∈ (f b).branches, x.FollowsBelow ks' ts') :
    ∀ (bs : List Branch), (∀ x ∈ branchesOf bs, x.FollowsBelow ks ts) →
      ∀ x ∈ branchesOf (alterEach id f bs), x.FollowsBelow ks' ts'
  | [], _ => by
    intro x hx
    cases hx
  | b :: bs, h => by
    obtain ⟨hb, hbs⟩ := List.forall_mem_append.mp h
    rw [alterEach, branchesOf, List.forall_mem_append]
    constructor
    · apply followsBelow_alter hf hks hts hchange b hb
    · apply followsBelow_alterEach hf hks hts hchange bs hbs

end

end Alter

theorem category_withChild (kid b : Branch) :
  (withChild kid b).category = b.category
  := by
  cases b
  rfl

theorem category_withType (t : TaskType) (b : Branch) :
  (withType t b).category = b.category
  := by
  cases b
  rfl

section InOrder

variable {ks ks' : List Category} {ts ts' : List TaskType} {bs : List Branch}

theorem FollowsBelow.mono {b : Branch} (h : b.FollowsBelow ks ts) (hks : ks.Sublist ks')
    (hts : ts.Sublist ts') :
  b.FollowsBelow ks' ts'
  where
  children := h.children.trans hks
  types := h.types.trans hts

theorem followsBelow_leaf (k : Category) :
  (leaf k).FollowsBelow ks ts
  where
  children := List.nil_sublist ks
  types := List.nil_sublist ts

theorem inOrder_append_leaf (h : InOrder ks ts bs) (k : Category) :
  InOrder (ks ++ [k]) ts (bs ++ [leaf k])
  where
  roots := by
    rw [List.map_append]
    apply h.roots.append (List.Sublist.refl [k])
  below := by
    rw [branchesOf_eq, List.flatMap_append, ← branchesOf_eq, List.forall_mem_append]
    constructor
    · intro b hb
      apply (h.below b hb).mono (List.sublist_append_left ks [k]) (List.Sublist.refl ts)
    · intro b hb
      obtain rfl : b = leaf k := by simpa [leaf, branches, branchesOf] using hb
      apply followsBelow_leaf

theorem inOrder_withChild (h : InOrder ks ts bs) (id : String) (k : Category) :
  InOrder (ks ++ [k]) ts (alterEach id (withChild (leaf k)) bs)
  where
  roots := by
    rw [map_category_alterEach (category_withChild _)]
    apply h.roots.trans (List.sublist_append_left ks [k])
  below := by
    apply followsBelow_alterEach (category_withChild _) (List.sublist_append_left ks [k])
      (List.Sublist.refl ts) _ bs h.below
    rintro ⟨c, kids, own⟩ hb
    obtain ⟨hown, hkids⟩ := List.forall_mem_cons.mp hb
    have horder : InOrder ks ts kids := ⟨hown.children, hkids⟩
    have hnext := inOrder_append_leaf horder k
    rw [withChild, branches, List.forall_mem_cons]
    use ⟨hnext.roots, hown.types⟩, hnext.below

theorem inOrder_withType (h : InOrder ks ts bs) (id : String) (t : TaskType) :
  InOrder ks (ts ++ [t]) (alterEach id (withType t) bs)
  where
  roots := by
    rw [map_category_alterEach (category_withType _)]
    apply h.roots
  below := by
    apply followsBelow_alterEach (category_withType _) (List.Sublist.refl ks)
      (List.sublist_append_left ts [t]) _ bs h.below
    rintro ⟨c, kids, own⟩ hb
    obtain ⟨hown, hkids⟩ := List.forall_mem_cons.mp hb
    rw [withType, branches, List.forall_mem_cons]
    constructor
    · use hown.children
      apply hown.types.append (List.Sublist.refl [t])
    · intro x hx
      apply (hkids x hx).mono (List.Sublist.refl ks) (List.sublist_append_left ts [t])

/-- A list in the order of another one that holds what passes a test, and nothing else, is what the
test leaves of the other one. -/
theorem eq_filter_of_sublist {α : Type} {xs ys : List α} {p : α → Bool} (hsublist : xs.Sublist ys)
    (hperm : xs.Perm (ys.filter p)) :
  xs = ys.filter p
  := by
  have hall : xs.filter p = xs := by
    rw [List.filter_eq_self]
    intro x hx
    rw [hperm.mem_iff] at hx
    apply (List.mem_filter.mp hx).2
  apply List.Sublist.eq_of_length _ hperm.length_eq
  rw [← hall]
  apply hsublist.filter

namespace WellFormed

variable {b : Branch}

/-- In a forest that lists given categories in their order, the roots are those without a parent. -/
theorem roots_eq (h : WellFormed bs) (horder : InOrder ks ts bs)
    (hcategories : (categoriesOf bs).Perm ks) :
  bs.map category = ks.filter fun k => k.parent = none
  := by
  apply eq_filter_of_sublist horder.roots
  apply h.roots_perm.trans (hcategories.filter _)

theorem children_eq (h : WellFormed bs) (horder : InOrder ks ts bs)
    (hcategories : (categoriesOf bs).Perm ks) (hb : b ∈ branchesOf bs) :
  b.children.map category = ks.filter fun k => k.parent = some b.category.id
  := by
  apply eq_filter_of_sublist (horder.below b hb).children
  apply (h.children_perm hb).trans (hcategories.filter _)

theorem types_eq (h : WellFormed bs) (horder : InOrder ks ts bs) (htypes : (typesOf bs).Perm ts)
    (hb : b ∈ branchesOf bs) :
  b.types = ts.filter fun t => t.category = b.category.id
  := by
  apply eq_filter_of_sublist (horder.below b hb).types
  apply (h.types_perm hb).trans (htypes.filter _)

end WellFormed

end InOrder

/-! ### Sorting -/

theorem category_sorted (b : Branch) :
  b.sorted.category = b.category
  := by
  cases b
  rfl

theorem sortedEach_eq (bs : List Branch) :
  sortedEach bs = bs.map sorted
  := by
  induction bs with
  | nil => rfl
  | cons b bs ih => rw [sortedEach, ih, List.map_cons]

/-- Sorting a forest sorts the categories of its roots. -/
theorem map_category_sorted (bs : List Branch) :
  (sortOn name (sortedEach bs)).map category = sortOn Category.name (bs.map category)
  := by
  have hcategories : (sortedEach bs).map category = bs.map category := by
    rw [sortedEach_eq, List.map_map]
    apply List.map_congr_left
    intro b _
    apply category_sorted
  have hname (b : Branch) : b.category.name = b.name := rfl
  rw [map_sortOn hname, hcategories]

theorem children_sorted (b : Branch) :
  b.sorted.children.map category = sortOn Category.name (b.children.map category)
  := by
  obtain ⟨c, kids, ts⟩ := b
  apply map_category_sorted

theorem types_sorted (b : Branch) :
  b.sorted.types = sortOn TaskType.name b.types
  := by
  cases b
  rfl

theorem mem_branchesOf_sortOn {bs : List Branch} {x : Branch} :
  x ∈ branchesOf (sortOn name bs) ↔ x ∈ branchesOf bs
  := by
  rw [branchesOf_eq, branchesOf_eq, ((sortOn_perm name bs).flatMap_right branches).mem_iff]

mutual

theorem exists_of_mem_branches_sorted {x : Branch} :
    ∀ (b : Branch), x ∈ b.sorted.branches → ∃ y ∈ b.branches, x = y.sorted
  | .mk c kids ts, hx => by
    rw [sorted, branches, List.mem_cons] at hx
    obtain rfl | hx := hx
    · use .mk c kids ts, List.mem_cons_self
      rw [sorted]
    · rw [mem_branchesOf_sortOn] at hx
      obtain ⟨y, hy, hxy⟩ := exists_of_mem_branchesOf_sortedEach kids hx
      use y, List.mem_cons_of_mem _ hy

/-- The branches of a sorted forest are those of the forest, each sorted. -/
theorem exists_of_mem_branchesOf_sortedEach {x : Branch} :
    ∀ (bs : List Branch), x ∈ branchesOf (sortedEach bs) → ∃ y ∈ branchesOf bs, x = y.sorted
  | b :: bs, hx => by
    obtain hx | hx := List.mem_append.mp hx
    · obtain ⟨y, hy, hxy⟩ := exists_of_mem_branches_sorted b hx
      use y, List.mem_append_left _ hy
    · obtain ⟨y, hy, hxy⟩ := exists_of_mem_branchesOf_sortedEach bs hx
      use y, List.mem_append_right _ hy

end

end Branch

namespace Builder

variable {b b' : Builder} {ks : List Category} {ts : List TaskType}

/-- What a step adds comes after all that was added before. -/
theorem inOrder_apply {s : Step} (h : Branch.InOrder ks ts b.roots) (hb : b.apply s = .ok b') :
  Branch.InOrder (ks ++ s.categories) (ts ++ s.types) b'.roots
  := by
  cases s with
  | category k =>
    rw [Step.types, List.append_nil]
    obtain ⟨-, ⟨-, rfl⟩ | ⟨parent, -, -, rfl⟩⟩ := addCategory_eq_ok.mp hb
    · apply Branch.inOrder_append_leaf h
    · apply Branch.inOrder_withChild h
  | type t =>
    rw [Step.categories, List.append_nil]
    obtain ⟨-, -, rfl⟩ := addType_eq_ok.mp hb
    apply Branch.inOrder_withType h

theorem accepted_nil (b : Builder) :
  b.accepted [] = []
  := rfl

/-- Siblings come in the order in which they were taken in. -/
theorem inOrder_run (h : Branch.InOrder ks ts b.roots) (steps : List Step) :
  Branch.InOrder (ks ++ (b.accepted steps).flatMap Step.categories)
    (ts ++ (b.accepted steps).flatMap Step.types) (b.run steps).1.roots
  := by
  induction steps generalizing b ks ts with
  | nil =>
    rw [accepted_nil, List.flatMap_nil, List.flatMap_nil, List.append_nil, List.append_nil]
    apply h
  | cons s rest ih =>
    cases hs : b.apply s with
    | ok b' =>
      rw [accepted_of_ok hs, fst_run_of_ok hs, List.flatMap_cons, List.flatMap_cons,
        ← List.append_assoc, ← List.append_assoc]
      apply ih (inOrder_apply h hs)
    | error e =>
      rw [accepted_of_error hs, fst_run_of_error hs]
      apply ih h

end Builder

namespace Catalog

/-- Whether the siblings of a catalog are, at every level, the stable sort by name of those of the
given categories and task types that belong there. -/
structure Arranged (c : Catalog) (ks : List Category) (ts : List TaskType) : Prop where
  roots : StableSort Category.name (ks.filter fun k => k.parent = none)
    (c.roots.map Branch.category)
  branch : ∀ k ∈ ks, ∃ b, c.branch? k.id = some b ∧ b.category = k
    ∧ StableSort Category.name (ks.filter fun q => q.parent = some k.id)
      (b.children.map Branch.category)
    ∧ StableSort TaskType.name (ts.filter fun t => t.category = k.id) b.types

end Catalog

namespace Builder

theorem inOrder_empty :
  Branch.InOrder [] [] empty.roots
  where
  roots := List.Sublist.refl []
  below := by simp [empty, Branch.branchesOf]

theorem perm_run (steps : List Step) :
  (Branch.categoriesOf (empty.run steps).1.roots).Perm
      ((empty.accepted steps).flatMap Step.categories)
    ∧ (Branch.typesOf (empty.run steps).1.roots).Perm ((empty.accepted steps).flatMap Step.types)
  := by
  obtain ⟨hcategories, htypes⟩ := extends_run (b := empty) Branch.wellFormed_nil steps
  have hnone : Branch.categoriesOf empty.roots = [] := rfl
  have hnone' : Branch.typesOf empty.roots = [] := rfl
  rw [hnone, List.append_nil] at hcategories
  rw [hnone', List.append_nil] at htypes
  use hcategories, htypes

/-- The catalog of a builder has what was taken in. -/
theorem perm_build (steps : List Step) :
  (empty.run steps).1.build.categories.Perm ((empty.accepted steps).flatMap Step.categories)
    ∧ (empty.run steps).1.build.types.Perm ((empty.accepted steps).flatMap Step.types)
  := by
  obtain ⟨hcategories, htypes⟩ := perm_run steps
  have hsorted := Branch.extends_sorted (empty.run steps).1.roots
  constructor
  · apply hsorted.categories.trans hcategories
  · apply hsorted.types.trans htypes

/-- The catalog of a builder is arranged by what was taken in. -/
theorem arranged_build (steps : List Step) :
  (empty.run steps).1.build.Arranged ((empty.accepted steps).flatMap Step.categories)
    ((empty.accepted steps).flatMap Step.types)
  := by
  have horder := inOrder_run inOrder_empty steps
  rw [List.nil_append, List.nil_append] at horder
  have hwell : Branch.WellFormed (empty.run steps).1.roots :=
    wellFormed_run Branch.wellFormed_nil steps
  obtain ⟨hcategories, htypes⟩ := perm_run steps
  constructor
  case roots =>
    rw [build, Branch.map_category_sorted, hwell.roots_eq horder hcategories]
    apply stableSort_sortOn
  case branch =>
    intro k hk
    rw [← (perm_build steps).1.mem_iff] at hk
    obtain ⟨b, hb, hfound, rfl⟩ := Catalog.exists_branch? (wellFormed_build steps) hk
    rw [build, Branch.mem_branchesOf_sortOn] at hb
    obtain ⟨y, hy, rfl⟩ := Branch.exists_of_mem_branchesOf_sortedEach _ hb
    use y.sorted, hfound, rfl
    rw [Branch.category_sorted, Branch.children_sorted, Branch.types_sorted,
      hwell.children_eq horder hcategories hy, hwell.types_eq horder htypes hy]
    constructor
    · apply stableSort_sortOn
    · apply stableSort_sortOn

end Builder

end TaskDesk
