import TaskDesk.Proofs.Catalog.Described
import TaskDesk.Proofs.Catalog.Tables

/-!
# How a catalog is arranged

All siblings of a catalog are in one order, the stable sort by name of what was taken in, and what
is shown of them keeps it.  Neither the order of entries in tables nor, where siblings of a
definition have distinct names, the order in which these are defined makes a difference:
`Catalog.sibling_order`.
-/

namespace TaskDesk

open TaskDesk.Builder (Step)

namespace Branch

variable {ctx : FilterContext}

theorem map_category_filteredEach (bs : List Branch) :
  (filteredEach ctx bs).map category = (bs.filter (applies ctx)).map category
  := by
  rw [filteredEach_eq, List.map_map]
  apply List.map_congr_left
  intro b _
  apply category_filtered

theorem children_filtered (b : Branch) :
  (b.filtered ctx).children = filteredEach ctx b.children
  := by
  cases b
  rfl

theorem types_filtered (b : Branch) :
  (b.filtered ctx).types = b.types.filter (TaskType.applies ctx)
  := by
  cases b
  rfl

end Branch

namespace Catalog

/-- Whether what is shown of a catalog are, at every level, the siblings that apply, in the order of
the catalog. -/
structure ShownInOrder (c : Catalog) (ctx : FilterContext) : Prop where
  roots : (c.filtered ctx).map Branch.category
    = (c.roots.filter (Branch.applies ctx)).map Branch.category
  branch : ∀ n ∈ Branch.branchesOf (c.filtered ctx), ∃ b, c.branch? n.category.id = some b
    ∧ b.category = n.category
    ∧ n.children.map Branch.category
      = (b.children.filter (Branch.applies ctx)).map Branch.category
    ∧ n.types = b.types.filter (TaskType.applies ctx)

theorem shownInOrder {c : Catalog} (h : Branch.WellFormed c.roots) (ctx : FilterContext) :
  c.ShownInOrder ctx
  where
  roots := Branch.map_category_filteredEach c.roots
  branch n hn := by
    rw [filtered, Branch.branchesOf_filteredEach, List.mem_map] at hn
    obtain ⟨b, hb, rfl⟩ := hn
    use b
    rw [Branch.category_filtered, Branch.children_filtered, Branch.map_category_filteredEach,
      Branch.types_filtered]
    use (Keyed.find?_key_iff h.branch_ids_nodup).mpr (List.mem_filter.mp hb).1

/-- Whatever is given to a builder, all siblings of its catalog are the stable sort by the bytes of
names of what was taken in, what is shown of them are those that apply in the same order, and tables
hold the same, however their entries are rearranged.  So the order of siblings in a definition does
not matter, if their names are distinct. -/
theorem sibling_order :
  (∀ steps : List Step,
    let taken := Builder.empty.accepted steps
    let c := (Builder.empty.run steps).1.build
    c.Arranged (taken.flatMap Step.categories) (taken.flatMap Step.types)
      ∧ (∀ ctx, c.ShownInOrder ctx)
      ∧ (∃ errors T, Tables.empty.Reaches steps errors T)
      ∧ ∀ (T T' : Tables) (errors : List (Option CatalogError)),
        Tables.empty.Reaches steps errors T → T.build.Rearranged T' →
          errors = (Builder.empty.run steps).2 ∧ T'.Holds c)
    ∧ ∀ D D' : CatalogDefinition, D.NamesDistinct → D.Shuffled D' →
      ∀ c, D.build = .ok c ↔ D'.build = .ok c
  := by
  constructor
  · intro steps taken c
    use Builder.arranged_build steps, shownInOrder (Builder.wellFormed_build steps),
      Tables.exists_reaches .empty steps
    intro T T' errors hrun hT
    apply Tables.holds_of_reaches hrun hT
  · intro D D' hnames h c
    apply CatalogDefinition.build_iff_of_shuffled hnames h

/-- A category is refused, entries change their places, and roots are defined in another order. -/
theorem sibling_order_instance :
  let category (id name : String) : Category := ⟨id, name, "", none, none⟩
  let steps : List Step := [.category (category "x" "B"), .category (category "y" "A"),
    .category (category "x" "C")]
  let c := (Builder.empty.run steps).1.build
  let root (id name : String) : CategoryDefinition := .mk id name "" none [] []
  c.Arranged [category "x" "B", category "y" "A"] []
    ∧ (∃ T, Tables.empty.Reaches steps [none, none, some (.duplicateCategory "x")] T
      ∧ T.categories.map Prod.fst = ["y", "x"] ∧ T.build.Holds c)
    ∧ ∃ c', CatalogDefinition.build ⟨[root "x" "B", root "y" "A"]⟩ = .ok c'
      ∧ CatalogDefinition.build ⟨[root "y" "A", root "x" "B"]⟩ = .ok c'
  := by
  intro category steps c root
  obtain ⟨hsteps, hshuffled⟩ := sibling_order
  obtain ⟨harranged, -, -, htables⟩ := hsteps steps
  have hcategories : (Builder.empty.accepted steps).flatMap Step.categories
      = [category "x" "B", category "y" "A"] := by decide +kernel
  have htypes : (Builder.empty.accepted steps).flatMap Step.types = [] := rfl
  refine ⟨?_, ?_, ?_⟩
  · rw [hcategories, htypes] at harranged
    apply harranged
  · let x : String × CategoryEntry := ("x", ⟨category "x" "B", [], []⟩)
    let y : String × CategoryEntry := ("y", ⟨category "y" "A", [], []⟩)
    have hx : Tables.empty.apply (.category (category "x" "B")) = .ok ⟨[x], [], ["x"]⟩ := rfl
    have hy : Tables.apply ⟨[x], [], ["x"]⟩ (.category (category "y" "A"))
        = .ok ⟨[x, y], [], ["x", "y"]⟩ := rfl
    have hagain : Tables.apply ⟨[y, x], [], ["x", "y"]⟩ (.category (category "x" "C"))
        = .error (.duplicateCategory "x") := rfl
    have hswap : Tables.Rearranged ⟨[x, y], [], ["x", "y"]⟩ ⟨[y, x], [], ["x", "y"]⟩ :=
      ⟨.swap y x [], .refl _, rfl⟩
    have hreaches : Tables.empty.Reaches steps [none, none, some (.duplicateCategory "x")]
        ⟨[y, x], [], ["x", "y"]⟩ := by
      apply Tables.Reaches.ok (.refl _) hx
      apply Tables.Reaches.ok (.refl _) hy
      apply Tables.Reaches.error hswap hagain
      apply Tables.Reaches.nil (.refl _)
    use ⟨[y, x], [], ["x", "y"]⟩, hreaches, rfl
    apply (htables _ _ _ hreaches (.refl _)).2
  · let D : CatalogDefinition := ⟨[root "x" "B", root "y" "A"]⟩
    have hids : D.ids.Nodup := by decide +kernel
    have hbuild : D.build = .ok D.catalog := CatalogDefinition.build_eq_ok.mpr ⟨hids, rfl⟩
    have hnames : D.NamesDistinct := by
      simp [D, root, CatalogDefinition.NamesDistinct, CategoryDefinition.NamesDistinctEach,
        CategoryDefinition.NamesDistinct, CategoryDefinition.name]
    use D.catalog, hbuild
    apply (hshuffled D _ hnames (.swap _ _ []) D.catalog).mp hbuild

end Catalog

end TaskDesk
