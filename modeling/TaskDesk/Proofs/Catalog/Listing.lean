import TaskDesk.Proofs.Catalog.Filtered
import Mathlib.Data.List.Nodup

/-!
# What a catalog lists

In a well-formed forest the lists of a branch are found by what categories and task types say of
themselves: the roots are the categories without a parent, the children of a branch those that name
it as their parent, its types those that name it as their category.  `Catalog.Listing` says so of a
catalog, and `listing_of_wellFormed` that a well-formed one is such.  `Builder.accepted` are the
steps that were not refused; they alone make the same builder, `applyAll_accepted`, and a run adds
to the forest what they add, `extends_run`.
-/

namespace TaskDesk

namespace Branch

/-! ### The branches of a forest -/

mutual

theorem map_category_branches :
    ∀ (b : Branch), b.branches.map category = b.categories
  | .mk c kids ts => by
    rw [branches, List.map_cons, map_category_branchesOf kids, categories, category]

theorem map_category_branchesOf :
    ∀ (bs : List Branch), (branchesOf bs).map category = categoriesOf bs
  | [] => rfl
  | b :: bs => by
    rw [branchesOf, List.map_append, map_category_branches b, map_category_branchesOf bs,
      categoriesOf]

end

/-- The categories of the children of some branches. -/
def childrenOf (bs : List Branch) : List Category :=
  bs.flatMap fun b => b.children.map category

mutual

/-- The categories of a branch are its own and those of all children. -/
theorem categories_perm :
    ∀ (b : Branch), b.categories.Perm (b.category :: childrenOf b.branches)
  | .mk c kids ts => by
    rw [categories, branches, childrenOf, List.flatMap_cons]
    apply List.Perm.cons
    exact categoriesOf_perm kids

/-- The categories of a forest are those of the roots and those of all children. -/
theorem categoriesOf_perm :
    ∀ (bs : List Branch),
      (categoriesOf bs).Perm (bs.map category ++ childrenOf (branchesOf bs))
  | [] => .nil
  | b :: bs => by
    rw [categoriesOf, branchesOf, childrenOf, List.flatMap_append, List.map_cons, List.cons_append]
    apply ((categories_perm b).append (categoriesOf_perm bs)).trans
    rw [List.cons_append]
    apply List.Perm.cons
    apply List.perm_append_comm_assoc

end

mutual

theorem allTypes_perm :
    ∀ (b : Branch), b.allTypes.Perm (b.branches.flatMap types)
  | .mk c kids ts => by
    rw [allTypes, branches, List.flatMap_cons]
    apply List.perm_append_comm.trans
    exact (typesOf_perm kids).append_left ts

/-- The task types of a forest are those of all branches. -/
theorem typesOf_perm :
    ∀ (bs : List Branch), (typesOf bs).Perm ((branchesOf bs).flatMap types)
  | [] => .nil
  | b :: bs => by
    rw [typesOf, branchesOf, List.flatMap_append]
    exact (allTypes_perm b).append (typesOf_perm bs)

end

mutual

theorem linked_of_mem_branches {b' : Branch} :
    ∀ {parent : Option String} (b : Branch), b.Linked parent → b' ∈ b.branches →
      ∃ above, b'.Linked above
  | parent, .mk c kids ts, h, hmem => by
    rw [branches, List.mem_cons] at hmem
    obtain rfl | hmem := hmem
    · exact ⟨parent, h⟩
    · exact linked_of_mem_branchesOf kids h.2.1 hmem

/-- Every branch of a linked forest is linked. -/
theorem linked_of_mem_branchesOf {b' : Branch} :
    ∀ {parent : Option String} (bs : List Branch), LinkedEach parent bs → b' ∈ branchesOf bs →
      ∃ above, b'.Linked above
  | _, b :: bs, h, hmem => by
    rw [branchesOf, List.mem_append] at hmem
    obtain hmem | hmem := hmem
    · exact linked_of_mem_branches b h.1 hmem
    · exact linked_of_mem_branchesOf bs h.2 hmem

end

/-- The children of a linked branch name it, and so do its task types. -/
theorem Linked.below {parent : Option String} {b : Branch} (h : b.Linked parent) :
  b.category.parent = parent ∧ (∀ k ∈ b.children.map category, k.parent = some b.category.id)
    ∧ ∀ t ∈ b.types, t.category = b.category.id
  := by
  obtain ⟨c, kids, ts⟩ := b
  obtain ⟨hparent, hkids, hts⟩ := h
  refine ⟨hparent, ?_, hts⟩
  intro k hk
  obtain ⟨⟨c', kids', ts'⟩, hb, rfl⟩ := List.mem_map.mp hk
  exact (linkedEach_iff.mp hkids _ hb).1

/-! ### The lists of a well-formed forest -/

/-- Of lists that belong to keys, each of its own, the elements with a key are the list of it. -/
theorem filter_flatMap_of_nodup {α β κ : Type} [DecidableEq κ] {f : β → List α} {id : β → κ}
    {g : α → κ} {bs : List β} (hnodup : (bs.map id).Nodup)
    (hkey : ∀ b ∈ bs, ∀ x ∈ f b, g x = id b) {b : β} (hb : b ∈ bs) :
  (bs.flatMap f).filter (fun x => g x = id b) = f b
  := by
  induction bs with
  | nil => cases hb
  | cons a rest ih =>
    rw [List.map_cons, List.nodup_cons] at hnodup
    rw [List.forall_mem_cons] at hkey
    rw [List.flatMap_cons, List.filter_append]
    obtain rfl | hb := List.mem_cons.mp hb
    · have hown : (f b).filter (fun x => g x = id b) = f b :=
        List.filter_eq_self.mpr fun x hx => decide_eq_true (hkey.1 x hx)
      have hrest : (rest.flatMap f).filter (fun x => g x = id b) = [] := by
        rw [List.filter_eq_nil_iff]
        intro x hx hxb
        obtain ⟨b', hb', hx⟩ := List.mem_flatMap.mp hx
        apply hnodup.1
        rw [← of_decide_eq_true hxb, hkey.2 b' hb' x hx]
        exact List.mem_map_of_mem hb'
      rw [hown, hrest, List.append_nil]
    · have hother : (f a).filter (fun x => g x = id b) = [] := by
        rw [List.filter_eq_nil_iff]
        intro x hx hxb
        apply hnodup.1
        rw [← hkey.1 x hx, of_decide_eq_true hxb]
        exact List.mem_map_of_mem hb
      rw [hother, List.nil_append]
      apply ih hnodup.2 hkey.2 hb

namespace WellFormed

variable {bs : List Branch} {b : Branch}

theorem branch_ids_nodup (h : WellFormed bs) :
  ((branchesOf bs).map fun b => b.category.id).Nodup
  := by
  have hids : (branchesOf bs).map (fun b => b.category.id) = idsOf bs := by
    rw [idsOf, ← map_category_branchesOf, List.map_map]
    rfl
  rw [hids]
  exact h.ids_nodup

/-- What stands below a branch names it. -/
theorem below (h : WellFormed bs) (hb : b ∈ branchesOf bs) :
  (∀ k ∈ b.children.map category, k.parent = some b.category.id)
    ∧ ∀ t ∈ b.types, t.category = b.category.id
  := by
  obtain ⟨above, hlinked⟩ := linked_of_mem_branchesOf bs h.linked hb
  exact hlinked.below.2

/-- The roots are the categories without a parent, up to order. -/
theorem roots_perm (h : WellFormed bs) :
  (bs.map category).Perm ((categoriesOf bs).filter fun k => k.parent = none)
  := by
  apply List.Perm.symm
  apply ((categoriesOf_perm bs).filter _).trans
  have hroots : (bs.map category).filter (fun k => k.parent = none) = bs.map category := by
    rw [List.filter_eq_self]
    intro k hk
    obtain ⟨b, hb, rfl⟩ := List.mem_map.mp hk
    exact decide_eq_true (linkedEach_iff.mp h.linked b hb).below.1
  have hkids : (childrenOf (branchesOf bs)).filter (fun k => k.parent = none) = [] := by
    rw [List.filter_eq_nil_iff]
    intro k hk
    obtain ⟨b, hb, hk⟩ := List.mem_flatMap.mp hk
    simp [(h.below hb).1 k hk]
  rw [List.filter_append, hroots, hkids, List.append_nil]

/-- The children of all branches are the categories with a parent, up to order. -/
theorem childrenOf_perm (h : WellFormed bs) :
  (childrenOf (branchesOf bs)).Perm ((categoriesOf bs).filter fun k => k.parent ≠ none)
  := by
  apply List.Perm.symm
  apply ((categoriesOf_perm bs).filter _).trans
  have hroots : (bs.map category).filter (fun k => k.parent ≠ none) = [] := by
    rw [List.filter_eq_nil_iff]
    intro k hk
    obtain ⟨b, hb, rfl⟩ := List.mem_map.mp hk
    simp [(linkedEach_iff.mp h.linked b hb).below.1]
  have hkids : (childrenOf (branchesOf bs)).filter (fun k => k.parent ≠ none)
      = childrenOf (branchesOf bs) := by
    rw [List.filter_eq_self]
    intro k hk
    obtain ⟨b, hb, hk⟩ := List.mem_flatMap.mp hk
    simp [(h.below hb).1 k hk]
  rw [List.filter_append, hroots, hkids, List.nil_append]

/-- The children of a branch are the categories that name it as their parent, up to order. -/
theorem children_perm (h : WellFormed bs) (hb : b ∈ branchesOf bs) :
  (b.children.map category).Perm
    ((categoriesOf bs).filter fun k => k.parent = some b.category.id)
  := by
  have hids : ((branchesOf bs).map fun b => some b.category.id).Nodup := by
    have hnodup := h.branch_ids_nodup.map (f := some) fun _ _ => Option.some.inj
    rwa [List.map_map] at hnodup
  have hown := filter_flatMap_of_nodup (f := fun b => b.children.map category)
    (g := Category.parent) hids (fun b hb => (h.below hb).1) hb
  have hroots : (bs.map category).filter (fun k => k.parent = some b.category.id) = [] := by
    rw [List.filter_eq_nil_iff]
    intro k hk
    obtain ⟨r, hr, rfl⟩ := List.mem_map.mp hk
    simp [(linkedEach_iff.mp h.linked r hr).below.1]
  apply List.Perm.symm
  apply ((categoriesOf_perm bs).filter _).trans
  rw [List.filter_append, hroots, List.nil_append, childrenOf, hown]

/-- The task types of a branch are those that name it as their category, up to order. -/
theorem types_perm (h : WellFormed bs) (hb : b ∈ branchesOf bs) :
  b.types.Perm ((typesOf bs).filter fun t => t.category = b.category.id)
  := by
  have hown := filter_flatMap_of_nodup (f := types) (g := TaskType.category)
    h.branch_ids_nodup (fun b hb => (h.below hb).2) hb
  apply List.Perm.symm
  apply ((typesOf_perm bs).filter _).trans
  rw [hown]

end WellFormed

end Branch

namespace Catalog

/-! ### The parents of a category -/

section Lineage

variable {c : Catalog} {k : Category}

mutual

theorem exists_lineage_of_branch :
    ∀ (above : List Category) (b : Branch), (∀ q ∈ b.categories, c.category? q.id = some q) →
      b.Linked (above.head?.map Category.id) → (above = [] ∨ c.Lineage above) →
      (above.map Category.id ++ b.ids).Nodup → k ∈ b.categories →
      ∃ rest, c.Lineage (k :: rest) ∧ ((k :: rest).map Category.id).Nodup
  | above, .mk q kids ts, hcategories, hlinked, habove, hnodup, hmem => by
    have hlineage : c.Lineage (q :: above) :=
      .cons (hcategories q List.mem_cons_self) hlinked.1 habove
    -- The ids of the branch are those of the category, which now comes before `above`, and of the
    -- branches below it.
    have hbelow : ((q :: above).map Category.id ++ Branch.idsOf kids).Nodup := by
      rw [Branch.ids_mk, List.perm_middle.nodup_iff] at hnodup
      exact hnodup
    obtain rfl | hmem := List.mem_cons.mp hmem
    · exact ⟨above, hlineage, hbelow.of_append_left⟩
    · apply exists_lineage_of_forest (q :: above) kids _ hlinked.2.1 (.inr hlineage) hbelow
        hmem
      intro p hp
      exact hcategories p (List.mem_cons_of_mem q hp)

theorem exists_lineage_of_forest :
    ∀ (above : List Category) (bs : List Branch),
      (∀ q ∈ Branch.categoriesOf bs, c.category? q.id = some q) →
      Branch.LinkedEach (above.head?.map Category.id) bs → (above = [] ∨ c.Lineage above) →
      (above.map Category.id ++ Branch.idsOf bs).Nodup → k ∈ Branch.categoriesOf bs →
      ∃ rest, c.Lineage (k :: rest) ∧ ((k :: rest).map Category.id).Nodup
  | above, b :: bs, hcategories, hlinked, habove, hnodup, hmem => by
    rw [Branch.idsOf_cons] at hnodup
    obtain hmem | hmem := List.mem_append.mp hmem
    · apply exists_lineage_of_branch above b _ hlinked.1 habove _ hmem
      · intro q hq
        exact hcategories q (List.mem_append_left _ hq)
      · rw [← List.append_assoc] at hnodup
        exact hnodup.of_append_left
    · apply exists_lineage_of_forest above bs _ hlinked.2 habove _ hmem
      · intro q hq
        exact hcategories q (List.mem_append_right _ hq)
      · rw [List.perm_append_comm_assoc _ _ _ |>.nodup_iff] at hnodup
        exact hnodup.of_append_right

end

/-- In a well-formed catalog going from a category to its parent, the parent of that and so on ends
in a root and meets no category twice. -/
theorem exists_lineage (h : Branch.WellFormed c.roots) (hk : k ∈ c.categories) :
  ∃ above, c.Lineage (k :: above) ∧ ((k :: above).map Category.id).Nodup
  := by
  apply exists_lineage_of_forest [] c.roots _ h.linked (.inl rfl) h.ids_nodup hk
  intro q hq
  exact (category?_eq_some_iff h).mpr hq

end Lineage

/-- In a well-formed catalog the branch of a category is found. -/
theorem exists_branch? {c : Catalog} (h : Branch.WellFormed c.roots) {k : Category}
    (hk : k ∈ c.categories) :
  ∃ b ∈ Branch.branchesOf c.roots, c.branch? k.id = some b ∧ b.category = k
  := by
  rw [categories, ← Branch.map_category_branchesOf] at hk
  obtain ⟨b, hb, rfl⟩ := List.mem_map.mp hk
  exact ⟨b, hb, (Keyed.find?_key_iff h.branch_ids_nodup).mpr hb, rfl⟩

/-- A catalog lists the given categories and task types, which have ids of their own, each once and
in its place: what it lists can be looked up, and from each category the way from parent to parent
meets no category twice and ends in a root. -/
structure Listing (c : Catalog) (ks : List Category) (ts : List TaskType) : Prop where
  categories : c.categories.Perm ks
  types : c.types.Perm ts
  category_ids : (ks.map Category.id).Nodup
  type_ids : (ts.map TaskType.id).Nodup
  category_found : ∀ k ∈ ks, c.category? k.id = some k
  type_found : ∀ t ∈ ts, c.type? t.id = some t
  roots : (c.roots.map Branch.category).Perm (ks.filter fun k => k.parent = none)
  children : (Branch.childrenOf (Branch.branchesOf c.roots)).Perm
    (ks.filter fun k => k.parent ≠ none)
  branch_types : ((Branch.branchesOf c.roots).flatMap Branch.types).Perm ts
  branch : ∀ k ∈ ks, ∃ b ∈ Branch.branchesOf c.roots, c.branch? k.id = some b ∧ b.category = k
    ∧ (b.children.map Branch.category).Perm (ks.filter fun q => q.parent = some k.id)
    ∧ b.types.Perm (ts.filter fun t => t.category = k.id)
  lineage : ∀ k ∈ ks, ∃ above, c.Lineage (k :: above) ∧ ((k :: above).map Category.id).Nodup

theorem listing_of_wellFormed {c : Catalog} (h : Branch.WellFormed c.roots) {ks : List Category}
    {ts : List TaskType} (hcategories : c.categories.Perm ks) (htypes : c.types.Perm ts) :
  c.Listing ks ts
  where
  categories := hcategories
  types := htypes
  category_ids := ((hcategories.map Category.id).nodup_iff).mp h.ids_nodup
  type_ids := ((htypes.map TaskType.id).nodup_iff).mp h.type_ids_nodup
  category_found k hk := by
    rwa [category?_eq_some_iff h, hcategories.mem_iff]
  type_found t ht := by
    rwa [type?_eq_some_iff h, htypes.mem_iff]
  roots := h.roots_perm.trans (hcategories.filter _)
  children := h.childrenOf_perm.trans (hcategories.filter _)
  branch_types := (Branch.typesOf_perm c.roots).symm.trans htypes
  branch k hk := by
    rw [← hcategories.mem_iff] at hk
    obtain ⟨b, hb, hfound, rfl⟩ := exists_branch? h hk
    refine ⟨b, hb, hfound, rfl, ?_, ?_⟩
    · exact (h.children_perm hb).trans (hcategories.filter _)
    · exact (h.types_perm hb).trans (htypes.filter _)
  lineage k hk := by
    rw [← hcategories.mem_iff] at hk
    exact exists_lineage h hk

end Catalog

namespace Builder

/-! ### The steps that are taken in -/

/-- The categories that a step adds. -/
def Step.categories : Step → List Category
  | .category k => [k]
  | .type _ => []

/-- The task types that a step adds. -/
def Step.types : Step → List TaskType
  | .category _ => []
  | .type t => [t]

/-- The steps for which no error is reported. -/
def accepted (b : Builder) (steps : List Step) : List Step :=
  ((steps.zip (b.run steps).2).filter fun s => s.2.isNone).map Prod.fst

variable {b b' : Builder}

theorem accepted_of_ok {s : Step} (h : b.apply s = .ok b') (steps : List Step) :
  b.accepted (s :: steps) = s :: b'.accepted steps
  := by
  simp only [accepted, run, h]
  rfl

theorem accepted_of_error {s : Step} {e : CatalogError} (h : b.apply s = .error e)
    (steps : List Step) :
  b.accepted (s :: steps) = b.accepted steps
  := by
  simp only [accepted, run, h]
  rfl

theorem fst_run_of_ok {s : Step} (h : b.apply s = .ok b') (steps : List Step) :
  (b.run (s :: steps)).1 = (b'.run steps).1
  := by
  simp only [run, h]

theorem fst_run_of_error {s : Step} {e : CatalogError} (h : b.apply s = .error e)
    (steps : List Step) :
  (b.run (s :: steps)).1 = (b.run steps).1
  := by
  simp only [run, h]

/-- The accepted steps alone are taken in one and all, and make the same builder. -/
theorem applyAll_accepted (steps : List Step) :
  b.applyAll (b.accepted steps) = .ok (b.run steps).1
  := by
  induction steps generalizing b with
  | nil => rfl
  | cons s rest ih =>
    cases h : b.apply s with
    | ok b' =>
      rw [accepted_of_ok h, fst_run_of_ok h, applyAll, h]
      exact ih
    | error e =>
      rw [accepted_of_error h, fst_run_of_error h]
      exact ih

theorem extends_apply (h : Branch.WellFormed b.roots) {s : Step} (hb : b.apply s = .ok b') :
  Branch.Extends b.roots b'.roots s.categories s.types
  := by
  cases s with
  | category k => exact extends_addCategory h hb
  | type t => exact extends_addType h hb

/-- A run of steps adds to the forest of a builder what the accepted steps add. -/
theorem extends_run (h : Branch.WellFormed b.roots) (steps : List Step) :
  Branch.Extends b.roots (b.run steps).1.roots ((b.accepted steps).flatMap Step.categories)
    ((b.accepted steps).flatMap Step.types)
  := by
  induction steps generalizing b with
  | nil => exact ⟨.refl _, .refl _⟩
  | cons s rest ih =>
    cases hs : b.apply s with
    | ok b' =>
      rw [accepted_of_ok hs, fst_run_of_ok hs, List.flatMap_cons, List.flatMap_cons]
      exact (extends_apply h hs).trans (ih (wellFormed_apply h hs))
    | error e =>
      rw [accepted_of_error hs, fst_run_of_error hs]
      exact ih h

end Builder

end TaskDesk
