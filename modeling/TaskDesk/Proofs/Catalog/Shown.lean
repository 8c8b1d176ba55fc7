import TaskDesk.Proofs.Catalog.Listing
import Mathlib.Logic.Relation

/-!
# The categories that are shown

The branches of the part of a catalog that applies are the branches that apply, each with what
applies below it.  So a category is shown if its branch applies, which with filtering means that a
task type applies that is registered in it or in a category `Below` it; then the categories it is
below are shown, too.  Without filtering the whole catalog is shown: `shown_iff`.
-/

namespace TaskDesk

namespace Branch

theorem branchesOf_eq (bs : List Branch) :
  branchesOf bs = bs.flatMap branches
  := by
  induction bs with
  | nil => rfl
  | cons b bs ih => rw [branchesOf, ih, List.flatMap_cons]

theorem mem_branches_self (b : Branch) :
  b ∈ b.branches
  := by
  obtain ⟨c, kids, ts⟩ := b
  apply List.mem_cons_self

theorem mem_branches_of_children {b z x : Branch} (hz : z ∈ b.children) (hx : x ∈ z.branches) :
  x ∈ b.branches
  := by
  obtain ⟨c, kids, ts⟩ := b
  rw [branches, branchesOf_eq]
  apply List.mem_cons_of_mem
  apply List.mem_flatMap_of_mem hz hx

mutual

/-- The branches of a branch of a branch are branches of it. -/
theorem branches_subset {b' : Branch} :
    ∀ (b : Branch), b' ∈ b.branches → b'.branches ⊆ b.branches
  | .mk c kids ts, h => by
    obtain rfl | h := List.mem_cons.mp h
    · apply List.Subset.refl
    · apply List.subset_cons_of_subset
      apply branchesOf_subset kids h

theorem branchesOf_subset {b' : Branch} :
    ∀ (bs : List Branch), b' ∈ branchesOf bs → b'.branches ⊆ branchesOf bs
  | b :: bs, h => by
    obtain h | h := List.mem_append.mp h
    · apply List.subset_append_of_subset_left
      apply branches_subset b h
    · apply List.subset_append_of_subset_right
      apply branchesOf_subset bs h

end

theorem allTypes_subset {b z : Branch} (hz : z ∈ b.children) :
  z.allTypes ⊆ b.allTypes
  := by
  obtain ⟨c, kids, ts⟩ := b
  intro t ht
  rw [allTypes, typesOf_eq]
  apply List.mem_append_left
  apply List.mem_flatMap_of_mem hz ht

/-! ### The branches that apply -/

section Filtered

variable {ctx : FilterContext}

theorem filteredEach_eq (bs : List Branch) :
  filteredEach ctx bs = (bs.filter (applies ctx)).map (filtered ctx)
  := by
  induction bs with
  | nil => rfl
  | cons b bs ih =>
    rw [filteredEach, List.filter_cons]
    split
    · rw [ih, List.map_cons]
    · apply ih

theorem category_filtered (b : Branch) :
  (b.filtered ctx).category = b.category
  := by
  cases b
  rfl

mutual

/-- With filtering a branch applies only if a task type below it does. -/
theorem exists_of_applies (hctx : ctx.filtering = true) :
    ∀ (b : Branch), b.applies ctx = true → ∃ t ∈ b.allTypes, t.applies ctx = true
  | .mk c kids ts, h => by
    rw [applies, hctx, Bool.not_true, Bool.false_or, Bool.or_eq_true] at h
    obtain h | h := h
    · obtain ⟨t, ht, happlies⟩ := exists_of_someApplies hctx kids h
      use t, List.mem_append_left _ ht
    · obtain ⟨t, ht, happlies⟩ := List.any_eq_true.mp h
      use t, List.mem_append_right _ ht

theorem exists_of_someApplies (hctx : ctx.filtering = true) :
    ∀ (bs : List Branch), someApplies ctx bs = true → ∃ t ∈ typesOf bs, t.applies ctx = true
  | b :: bs, h => by
    rw [someApplies, Bool.or_eq_true] at h
    obtain h | h := h
    · obtain ⟨t, ht, happlies⟩ := exists_of_applies hctx b h
      use t, List.mem_append_left _ ht
    · obtain ⟨t, ht, happlies⟩ := exists_of_someApplies hctx bs h
      use t, List.mem_append_right _ ht

end

theorem applies_iff (hctx : ctx.filtering = true) {b : Branch} :
  b.applies ctx = true ↔ ∃ t ∈ b.allTypes, t.applies ctx = true
  := by
  constructor
  · apply exists_of_applies hctx b
  · rintro ⟨t, ht, happlies⟩
    apply applies_of_mem happlies b ht

theorem applies_of_disabled (hctx : ctx.filtering = false) (b : Branch) :
  b.applies ctx = true
  := by
  obtain ⟨c, kids, ts⟩ := b
  simp [applies, hctx]

mutual

/-- A branch applies if one of its branches does. -/
theorem applies_of_branches {b' : Branch} (happlies : b'.applies ctx = true) :
    ∀ (b : Branch), b' ∈ b.branches → b.applies ctx = true
  | .mk c kids ts, h => by
    obtain rfl | h := List.mem_cons.mp h
    · apply happlies
    · simp [applies, someApplies_of_branchesOf happlies kids h]

theorem someApplies_of_branchesOf {b' : Branch} (happlies : b'.applies ctx = true) :
    ∀ (bs : List Branch), b' ∈ branchesOf bs → someApplies ctx bs = true
  | b :: bs, h => by
    rw [someApplies, Bool.or_eq_true]
    apply (List.mem_append.mp h).imp
    · apply applies_of_branches happlies b
    · apply someApplies_of_branchesOf happlies bs

end

mutual

theorem branches_filtered :
    ∀ (b : Branch), b.applies ctx = true →
      (b.filtered ctx).branches = (b.branches.filter (applies ctx)).map (filtered ctx)
  | .mk c kids ts, h => by
    rw [branches, List.filter_cons_of_pos h, List.map_cons, ← branchesOf_filteredEach kids]
    rfl

/-- The branches of the part of a forest that applies are those that apply, in their order. -/
theorem branchesOf_filteredEach :
    ∀ (bs : List Branch), branchesOf (filteredEach ctx bs)
      = ((branchesOf bs).filter (applies ctx)).map (filtered ctx)
  | [] => rfl
  | b :: bs => by
    rw [filteredEach, branchesOf, List.filter_append, List.map_append]
    split
    · next h => rw [branchesOf, branches_filtered b h, branchesOf_filteredEach bs]
    · next h =>
      have hnone : b.branches.filter (applies ctx) = [] := by
        rw [List.filter_eq_nil_iff]
        intro b' hb' happlies
        apply h
        apply applies_of_branches happlies b hb'
      rw [hnone, List.map_nil, List.nil_append, branchesOf_filteredEach bs]

end

theorem categoriesOf_filteredEach (bs : List Branch) :
  categoriesOf (filteredEach ctx bs) = ((branchesOf bs).filter (applies ctx)).map category
  := by
  rw [← map_category_branchesOf, branchesOf_filteredEach, List.map_map]
  congr 1
  funext b
  apply category_filtered

end Filtered

/-- A well-formed forest has one branch of each category. -/
theorem WellFormed.eq_of_category {bs : List Branch} (h : WellFormed bs) {b b' : Branch}
    (hb : b ∈ branchesOf bs) (hb' : b' ∈ branchesOf bs) (heq : b.category = b'.category) :
  b = b'
  := by
  apply List.inj_on_of_nodup_map h.branch_ids_nodup hb hb'
  rw [heq]

end Branch

namespace Catalog

variable {c : Catalog} {b : Branch} {t : TaskType}

/-- Whether a category is another one or stands below it at any depth: going from parent to parent
comes from the one to the other. -/
def Below (c : Catalog) : Category → Category → Prop :=
  Relation.ReflTransGen fun q p => c.parentOf q = some p

theorem category_mem (hb : b ∈ Branch.branchesOf c.roots) :
  b.category ∈ c.categories
  := by
  rw [categories, ← Branch.map_category_branchesOf]
  apply List.mem_map_of_mem hb

theorem parentOf_child (h : Branch.WellFormed c.roots) (hb : b ∈ Branch.branchesOf c.roots)
    {z : Branch} (hz : z ∈ b.children) :
  c.parentOf z.category = some b.category
  := by
  have hparent : z.category.parent = some b.category.id :=
    (h.below hb).1 z.category (List.mem_map_of_mem hz)
  rw [parentOf, hparent, Option.bind_some, category?_eq_some_iff h]
  apply category_mem hb

theorem mem_of_category? {id : String} {k : Category} (h : c.category? id = some k) :
  k ∈ c.categories ∧ k.id = id
  := by
  constructor
  · apply List.mem_of_find?_eq_some h
  · simpa using List.find?_some h

/-- What a category stands below is in the catalog with it. -/
theorem Below.mem {q k : Category} (h : c.Below q k) (hq : q ∈ c.categories) :
  k ∈ c.categories
  := by
  induction h with
  | refl => apply hq
  | @tail p k _ hparent _ =>
    obtain ⟨id, -, hid⟩ := Option.bind_eq_some_iff.mp hparent
    apply (mem_of_category? hid).1

/-- A category under another one is that of one of the children of its branch. -/
theorem exists_child (h : Branch.WellFormed c.roots) (hb : b ∈ Branch.branchesOf c.roots)
    {k : Category} (hk : k ∈ c.categories) (hparent : c.parentOf k = some b.category) :
  ∃ z ∈ b.children, z.category = k
  := by
  obtain ⟨id, hid, hfound⟩ := Option.bind_eq_some_iff.mp hparent
  have hchild : k ∈ b.children.map Branch.category := by
    rw [(h.children_perm hb).mem_iff, List.mem_filter]
    constructor
    · apply hk
    · rw [decide_eq_true_eq, hid, (mem_of_category? hfound).2]
  simpa using hchild

mutual

theorem below_of_branches {x : Branch} :
    ∀ (b : Branch),
      (∀ y ∈ b.branches, ∀ z ∈ y.children, c.parentOf z.category = some y.category) →
      x ∈ b.branches → c.Below x.category b.category
  | .mk k kids ts, hparents, hx => by
    obtain rfl | hx := List.mem_cons.mp hx
    · apply Relation.ReflTransGen.refl
    · obtain ⟨z, hz, hbelow⟩ := below_of_branchesOf kids (fun y hy =>
        hparents y (List.mem_cons_of_mem _ hy)) hx
      apply hbelow.tail
      apply hparents _ List.mem_cons_self z hz

/-- The category of a branch in a forest is below that of the tree that it is in. -/
theorem below_of_branchesOf {x : Branch} :
    ∀ (bs : List Branch),
      (∀ y ∈ Branch.branchesOf bs, ∀ z ∈ y.children, c.parentOf z.category = some y.category) →
      x ∈ Branch.branchesOf bs → ∃ z ∈ bs, c.Below x.category z.category
  | b :: bs, hparents, hx => by
    obtain hx | hx := List.mem_append.mp hx
    · use b, List.mem_cons_self
      apply below_of_branches b _ hx
      intro y hy
      apply hparents y (List.mem_append_left _ hy)
    · obtain ⟨z, hz, hbelow⟩ := below_of_branchesOf bs (fun y hy =>
        hparents y (List.mem_append_right _ hy)) hx
      use z, List.mem_cons_of_mem b hz

end

/-- A task type of the branch of a category is in the branches of all that the category is below. -/
theorem mem_allTypes_of_below (h : Branch.WellFormed c.roots) {q k : Category}
    (hbelow : c.Below q k) {x : Branch} (hx : x ∈ Branch.branchesOf c.roots)
    (hxq : x.category = q) (ht : t ∈ x.allTypes) (hb : b ∈ Branch.branchesOf c.roots)
    (hbk : b.category = k) :
  t ∈ b.allTypes
  := by
  induction hbelow generalizing b with
  | refl =>
    rw [h.eq_of_category hb hx (hbk.trans hxq.symm)]
    apply ht
  | @tail p k hqp hparent ih =>
    subst hxq hbk
    have hp : p ∈ c.categories := Below.mem hqp (category_mem hx)
    obtain ⟨z, hz, hzp⟩ := exists_child h hb hp hparent
    apply Branch.allTypes_subset hz
    apply ih _ hzp
    apply Branch.branchesOf_subset c.roots hb
    apply Branch.mem_branches_of_children hz
    apply Branch.mem_branches_self

/-- The task types of a branch are those registered in its category or in one below that. -/
theorem mem_allTypes_iff (h : Branch.WellFormed c.roots) (hb : b ∈ Branch.branchesOf c.roots) :
  t ∈ b.allTypes ↔ t ∈ c.types ∧ ∃ q, c.categoryOf t = some q ∧ c.Below q b.category
  := by
  have hbranches : b.branches ⊆ Branch.branchesOf c.roots := Branch.branchesOf_subset c.roots hb
  have hcategory (x : Branch) (hx : x ∈ Branch.branchesOf c.roots) (hown : t ∈ x.types) :
      c.categoryOf t = some x.category := by
    rw [categoryOf, (h.below hx).2 t hown, category?_eq_some_iff h]
    apply category_mem hx
  rw [types, (Branch.typesOf_perm c.roots).mem_iff, (Branch.allTypes_perm b).mem_iff]
  constructor
  · intro ht
    obtain ⟨x, hx, hown⟩ := List.mem_flatMap.mp ht
    constructor
    · apply List.mem_flatMap_of_mem (hbranches hx) hown
    · use x.category, hcategory x (hbranches hx) hown
      apply below_of_branches b _ hx
      intro y hy z hz
      apply parentOf_child h (hbranches hy) hz
  · rintro ⟨ht, q, hq, hbelow⟩
    obtain ⟨x, hx, hown⟩ := List.mem_flatMap.mp ht
    obtain rfl : x.category = q := by
      rw [hcategory x hx hown] at hq
      apply Option.some.inj hq
    rw [← (Branch.allTypes_perm b).mem_iff]
    apply mem_allTypes_of_below h hbelow hx rfl _ hb rfl
    rw [(Branch.allTypes_perm x).mem_iff]
    apply List.mem_flatMap_of_mem (Branch.mem_branches_self x) hown

section Shown

variable {ctx : FilterContext}

theorem mem_shown_iff (h : Branch.WellFormed c.roots) (hb : b ∈ Branch.branchesOf c.roots) :
  b.category ∈ Branch.categoriesOf (c.filtered ctx) ↔ b.applies ctx = true
  := by
  rw [filtered, Branch.categoriesOf_filteredEach, List.mem_map]
  constructor
  · rintro ⟨b', hb', heq⟩
    rw [List.mem_filter] at hb'
    rw [← h.eq_of_category hb'.1 hb heq]
    apply hb'.2
  · intro happlies
    use b, List.mem_filter.mpr ⟨hb, happlies⟩

/-- The categories that are shown are categories of the catalog, in the order of the catalog. -/
theorem shown_sublist :
  (Branch.categoriesOf (c.filtered ctx)).Sublist c.categories
  := by
  rw [filtered, Branch.categoriesOf_filteredEach, categories, ← Branch.map_category_branchesOf]
  apply List.filter_sublist.map

/-- With filtering a category is shown if and only if a task type that is registered in it or below
it applies. -/
theorem mem_shown_iff_exists (h : Branch.WellFormed c.roots) (hctx : ctx.filtering = true)
    {k : Category} (hk : k ∈ c.categories) :
  k ∈ Branch.categoriesOf (c.filtered ctx)
    ↔ ∃ t ∈ c.types, t.applies ctx = true ∧ ∃ q, c.categoryOf t = some q ∧ c.Below q k
  := by
  obtain ⟨b, hb, -, rfl⟩ := exists_branch? h hk
  rw [mem_shown_iff h hb, Branch.applies_iff hctx]
  constructor
  · rintro ⟨t, ht, happlies⟩
    obtain ⟨htype, hbelow⟩ := (mem_allTypes_iff h hb).mp ht
    use t, htype, happlies
  · rintro ⟨t, htype, happlies, hbelow⟩
    use t, (mem_allTypes_iff h hb).mpr ⟨htype, hbelow⟩

/-- What a category that is shown stands below is shown. -/
theorem shown_of_below (h : Branch.WellFormed c.roots) (hctx : ctx.filtering = true)
    {k p : Category} (hk : k ∈ Branch.categoriesOf (c.filtered ctx)) (hbelow : c.Below k p) :
  p ∈ Branch.categoriesOf (c.filtered ctx)
  := by
  have hcategory : k ∈ c.categories := shown_sublist.subset hk
  obtain ⟨t, ht, happlies, q, hq, hqk⟩ := (mem_shown_iff_exists h hctx hcategory).mp hk
  rw [mem_shown_iff_exists h hctx (hbelow.mem hcategory)]
  use t, ht, happlies, q, hq
  apply Relation.ReflTransGen.trans hqk hbelow

/-- With filtering there is a task type below each node. -/
theorem allTypes_ne_nil (hctx : ctx.filtering = true) {n : Branch}
    (hn : n ∈ Branch.branchesOf (c.filtered ctx)) :
  n.allTypes ≠ []
  := by
  rw [filtered, Branch.branchesOf_filteredEach, List.mem_map] at hn
  obtain ⟨b, hb, rfl⟩ := hn
  obtain ⟨t, ht, happlies⟩ := (Branch.applies_iff hctx).mp (List.mem_filter.mp hb).2
  rw [Branch.allTypes_filtered]
  apply List.ne_nil_of_mem
  rw [List.mem_filter]
  constructor
  · apply ht
  · apply happlies

theorem shown_of_disabled (hctx : ctx.filtering = false) :
  Branch.categoriesOf (c.filtered ctx) = c.categories
  := by
  have hall : (Branch.branchesOf c.roots).filter (Branch.applies ctx)
      = Branch.branchesOf c.roots := by
    rw [List.filter_eq_self]
    intro b _
    apply Branch.applies_of_disabled hctx
  rw [filtered, Branch.categoriesOf_filteredEach, hall, Branch.map_category_branchesOf, categories]

end Shown

/-- Whatever was added to the builder of a catalog, each category is shown once at most.  With
filtering it is shown if and only if its branch applies, that is, if a task type applies that is
registered in it or in a category below it; so there is a task type below each node, and what a
category stands below is shown with it.  Without filtering all categories are shown. -/
theorem shown_iff (steps : List Builder.Step) (ctx : FilterContext) :
  let c := (Builder.empty.run steps).1.build
  let shown := Branch.categoriesOf (c.filtered ctx)
  (shown.map Category.id).Nodup
    ∧ (∀ k ∈ shown, k ∈ c.categories)
    ∧ (ctx.filtering = true →
      (∀ k ∈ c.categories, ∃ b, c.branch? k.id = some b ∧ b.category = k
        ∧ (k ∈ shown ↔ b.applies ctx = true)
        ∧ (k ∈ shown
          ↔ ∃ t ∈ c.types, t.applies ctx = true ∧ ∃ q, c.categoryOf t = some q ∧ c.Below q k))
      ∧ (∀ n ∈ Branch.branchesOf (c.filtered ctx), n.allTypes ≠ [])
      ∧ ∀ k ∈ shown, ∀ p, c.Below k p → p ∈ shown)
    ∧ (ctx.filtering = false → shown = c.categories)
  := by
  intro c shown
  have hc : Branch.WellFormed c.roots := Builder.wellFormed_build steps
  have hsublist : shown.Sublist c.categories := shown_sublist
  refine ⟨(hsublist.map _).nodup hc.ids_nodup, hsublist.subset, ?_, shown_of_disabled⟩
  intro hctx
  refine ⟨?_, fun n => allTypes_ne_nil hctx, fun k hk p => shown_of_below hc hctx hk⟩
  intro k hk
  obtain ⟨b, hb, hfound, rfl⟩ := exists_branch? hc hk
  use b, hfound, rfl, mem_shown_iff hc hb
  apply mem_shown_iff_exists hc hctx hk

/-- A category is shown for a task type two levels below it; one without task types is not. -/
theorem shown_iff_instance :
  let category (id : String) (parent : Option String) : Category := ⟨id, id, "", none, parent⟩
  let steps : List Builder.Step := [.category (category "tools" none),
    .category (category "backup" (some "tools")), .category (category "pg" (some "backup")),
    .category (category "spare" (some "pg")),
    .type ⟨"dump", "Dump", "pg", "", none, false, .drivers ["postgresql"]⟩]
  let c := (Builder.empty.run steps).1.build
  let shown (ctx : FilterContext) := Branch.categoriesOf (c.filtered ctx)
  category "tools" none ∈ shown ⟨true, true, ["postgresql"]⟩
    ∧ category "spare" (some "pg") ∉ shown ⟨true, true, ["postgresql"]⟩
    ∧ category "spare" (some "pg") ∈ shown .disabled
  := by
  intro category steps c shown
  obtain ⟨-, -, hfiltering, -⟩ := shown_iff steps ⟨true, true, ["postgresql"]⟩
  obtain ⟨hshown, -, -⟩ := hfiltering rfl
  obtain ⟨-, -, -, hdisabled⟩ := shown_iff steps .disabled
  constructor
  · obtain ⟨b, hb, -, hiff, -⟩ := hshown (category "tools" none) (by decide +kernel)
    apply hiff.mpr
    have happlies : (c.branch? "tools").any (Branch.applies ⟨true, true, ["postgresql"]⟩) = true :=
      by decide +kernel
    rwa [hb] at happlies
  constructor
  · obtain ⟨b, hb, -, hiff, -⟩ := hshown (category "spare" (some "pg")) (by decide +kernel)
    rw [hiff]
    have hnone : (c.branch? "spare").any (Branch.applies ⟨true, true, ["postgresql"]⟩) = false := by
      decide +kernel
    rw [hb] at hnone
    simpa using hnone
  · have hall : shown .disabled = c.categories := hdisabled rfl
    rw [hall]
    decide +kernel

end Catalog

end TaskDesk
