import TaskDesk.Catalog.Filter
import TaskDesk.Keyed
import TaskDesk.Proofs.Catalog.Forest

/-!
# What the filtered part of a catalog shows

A walk through the part of a catalog that applies sees the task types that apply, each once and in
the order of the catalog: a category is left out only if nothing below it applies.  `visits` also
notes the categories above each type that is seen; they are the `Lineage` of its category, which
goes from parent to parent up to a root.
-/

namespace TaskDesk

namespace Branch

mutual

/-- The task types of a branch in the order of a walk, each with the categories that the walk is in,
the innermost first; `above` are those above the branch. -/
def visits (above : List Category) : Branch → List (TaskType × List Category)
  | .mk c kids ts => visitsOf (c :: above) kids ++ ts.map fun t => (t, c :: above)

/-- The task types of a forest in the order of a walk, each with the categories that it is in. -/
def visitsOf (above : List Category) : List Branch → List (TaskType × List Category)
  | [] => []
  | b :: bs => b.visits above ++ visitsOf above bs

end

mutual

theorem map_fst_visits :
    ∀ (above : List Category) (b : Branch), (b.visits above).map Prod.fst = b.allTypes
  | above, .mk c kids ts => by
    have hown : (ts.map fun t => (t, c :: above)).map Prod.fst = ts := by
      simp [Function.comp_def]
    rw [visits, List.map_append, map_fst_visitsOf (c :: above) kids, hown, allTypes]

theorem map_fst_visitsOf :
    ∀ (above : List Category) (bs : List Branch), (visitsOf above bs).map Prod.fst = typesOf bs
  | _, [] => rfl
  | above, b :: bs => by
    rw [visitsOf, List.map_append, map_fst_visits above b, map_fst_visitsOf above bs, typesOf]

end

/-! ### The types that are seen -/

section Filtered

variable {ctx : FilterContext}

mutual

/-- A branch with a task type that applies anywhere below it applies. -/
theorem applies_of_mem {t : TaskType} (ht : t.applies ctx = true) :
    ∀ (b : Branch), t ∈ b.allTypes → b.applies ctx = true
  | .mk c kids ts, hmem => by
    rw [applies]
    obtain hkids | hown := List.mem_append.mp hmem
    · simp [someApplies_of_mem ht kids hkids]
    · have hsome : ts.any (TaskType.applies ctx) = true := List.any_eq_true.mpr ⟨t, hown, ht⟩
      simp [hsome]

theorem someApplies_of_mem {t : TaskType} (ht : t.applies ctx = true) :
    ∀ (bs : List Branch), t ∈ typesOf bs → someApplies ctx bs = true
  | b :: bs, hmem => by
    rw [someApplies, Bool.or_eq_true]
    exact (List.mem_append.mp hmem).imp (applies_of_mem ht b) (someApplies_of_mem ht bs)

end

mutual

theorem allTypes_filtered :
    ∀ (b : Branch), (b.filtered ctx).allTypes = b.allTypes.filter (TaskType.applies ctx)
  | .mk c kids ts => by
    rw [filtered, allTypes, typesOf_filteredEach kids, allTypes, List.filter_append]

/-- The part of a forest that applies has the task types that apply, in their order. -/
theorem typesOf_filteredEach :
    ∀ (bs : List Branch),
      typesOf (filteredEach ctx bs) = (typesOf bs).filter (TaskType.applies ctx)
  | [] => rfl
  | b :: bs => by
    rw [filteredEach, typesOf, List.filter_append]
    split
    · rw [typesOf, allTypes_filtered b, typesOf_filteredEach bs]
    · next hb =>
      have hnone : b.allTypes.filter (TaskType.applies ctx) = [] := by
        rw [List.filter_eq_nil_iff]
        intro t ht happlies
        exact hb (applies_of_mem happlies b ht)
      rw [hnone, List.nil_append, typesOf_filteredEach bs]

end

/-! ### The categories they are in -/

mutual

theorem linked_filtered :
    ∀ {parent : Option String} (b : Branch), b.Linked parent → (b.filtered ctx).Linked parent
  | _, .mk c kids ts, h => by
    refine ⟨h.1, linkedEach_filteredEach kids h.2.1, ?_⟩
    intro t ht
    exact h.2.2 t (List.mem_filter.mp ht).1

theorem linkedEach_filteredEach :
    ∀ {parent : Option String} (bs : List Branch), LinkedEach parent bs →
      LinkedEach parent (filteredEach ctx bs)
  | _, [], _ => trivial
  | _, b :: bs, h => by
    rw [filteredEach]
    split
    · exact ⟨linked_filtered b h.1, linkedEach_filteredEach bs h.2⟩
    · exact linkedEach_filteredEach bs h.2

end

mutual

theorem categories_filtered_subset :
    ∀ (b : Branch), (b.filtered ctx).categories ⊆ b.categories
  | .mk c kids _ => List.cons_subset_cons c (categoriesOf_filteredEach_subset kids)

theorem categoriesOf_filteredEach_subset :
    ∀ (bs : List Branch), categoriesOf (filteredEach ctx bs) ⊆ categoriesOf bs
  | [] => List.Subset.refl []
  | b :: bs => by
    rw [filteredEach]
    split
    · apply List.append_subset.mpr
      constructor
      · exact List.subset_append_of_subset_left _ (categories_filtered_subset b)
      · exact List.subset_append_of_subset_right _ (categoriesOf_filteredEach_subset bs)
    · exact List.subset_append_of_subset_right _ (categoriesOf_filteredEach_subset bs)

end

end Filtered

end Branch

namespace Catalog

/-- A category of a catalog, its parent, the parent of that, and so on up to a root. -/
inductive Lineage (c : Catalog) : List Category → Prop where
  | root {k : Category} (here : c.category? k.id = some k) (top : k.parent = none) :
    c.Lineage [k]
  | under {k p : Category} {above : List Category} (here : c.category? k.id = some k)
      (parent : c.parentOf k = some p) (rest : c.Lineage (p :: above)) :
    c.Lineage (k :: p :: above)

variable {c : Catalog}

theorem Lineage.here {k : Category} {above : List Category} (h : c.Lineage (k :: above)) :
  c.category? k.id = some k
  := by
  cases h with
  | root here _ => exact here
  | under here _ _ => exact here

/-- A category under the first one of a lineage begins a lineage, and so does a root. -/
theorem Lineage.cons {k : Category} {above : List Category} (here : c.category? k.id = some k)
    (hparent : k.parent = above.head?.map Category.id) (habove : above = [] ∨ c.Lineage above) :
  c.Lineage (k :: above)
  := by
  cases above with
  | nil => exact .root here hparent
  | cons p above =>
    obtain hnil | habove := habove
    · cases hnil
    · have hp : c.parentOf k = some p := by
        rw [parentOf, hparent]
        exact habove.here
      exact .under here hp habove

mutual

/-- In a linked branch of categories of a catalog each type is seen in its own category, below the
parents of that. -/
theorem lineage_of_mem_visits {t : TaskType} {chain : List Category} :
    ∀ {above : List Category} (b : Branch), (∀ k ∈ b.categories, c.category? k.id = some k) →
      b.Linked (above.head?.map Category.id) → (above = [] ∨ c.Lineage above) →
      (t, chain) ∈ b.visits above →
      ∃ k rest, chain = k :: rest ∧ c.categoryOf t = some k ∧ c.Lineage chain
  | above, .mk k kids ts, hcategories, hlinked, habove, hmem => by
    obtain ⟨hparent, hkids, hts⟩ := hlinked
    replace hkids : Branch.LinkedEach ((k :: above).head?.map Category.id) kids := hkids
    have here : c.category? k.id = some k := hcategories k List.mem_cons_self
    have hlineage : c.Lineage (k :: above) := .cons here hparent habove
    obtain hmem | hmem := List.mem_append.mp hmem
    · apply lineage_of_mem_visitsOf kids _ hkids (.inr hlineage) hmem
      intro q hq
      exact hcategories q (List.mem_cons_of_mem k hq)
    · obtain ⟨_, hu, ⟨⟩⟩ := List.mem_map.mp hmem
      refine ⟨k, above, rfl, ?_, hlineage⟩
      rw [categoryOf, hts t hu, here]

theorem lineage_of_mem_visitsOf {t : TaskType} {chain : List Category} :
    ∀ {above : List Category} (bs : List Branch),
      (∀ k ∈ Branch.categoriesOf bs, c.category? k.id = some k) →
      Branch.LinkedEach (above.head?.map Category.id) bs → (above = [] ∨ c.Lineage above) →
      (t, chain) ∈ Branch.visitsOf above bs →
      ∃ k rest, chain = k :: rest ∧ c.categoryOf t = some k ∧ c.Lineage chain
  | _, b :: bs, hcategories, hlinked, habove, hmem => by
    obtain hmem | hmem := List.mem_append.mp hmem
    · apply lineage_of_mem_visits b _ hlinked.1 habove hmem
      intro k hk
      exact hcategories k (List.mem_append_left _ hk)
    · apply lineage_of_mem_visitsOf bs _ hlinked.2 habove hmem
      intro k hk
      exact hcategories k (List.mem_append_right _ hk)

end

theorem category?_eq_some_iff (h : Branch.WellFormed c.roots) {k : Category} :
  c.category? k.id = some k ↔ k ∈ c.categories
  := Keyed.find?_key_iff h.ids_nodup

theorem type?_eq_some_iff (h : Branch.WellFormed c.roots) {t : TaskType} :
  c.type? t.id = some t ↔ t ∈ c.types
  := Keyed.find?_key_iff h.type_ids_nodup

/-- Whatever was added to the builder of a catalog, a walk through the part of the catalog that
applies sees exactly the task types that apply, each once and in the order of the catalog.  Each is
seen in its own category, and the categories that this is in are its parent, the parent of that,
and so on up to a root. -/
theorem visits_filtered (steps : List Builder.Step) (ctx : FilterContext) :
  let c := (Builder.empty.run steps).1.build
  let seen := Branch.typesOf (c.filtered ctx)
  let visits := Branch.visitsOf [] (c.filtered ctx)
  seen = c.types.filter (TaskType.applies ctx)
    ∧ (seen.map TaskType.id).Nodup
    ∧ (∀ t, t ∈ seen ↔ c.type? t.id = some t ∧ t.applies ctx = true)
    ∧ visits.map Prod.fst = seen
    ∧ ∀ t chain, (t, chain) ∈ visits →
      ∃ k above, chain = k :: above ∧ c.categoryOf t = some k ∧ c.Lineage chain
  := by
  intro c seen visits
  have hc : Branch.WellFormed c.roots := Builder.wellFormed_build steps
  have hseen : seen = c.types.filter (TaskType.applies ctx) :=
    Branch.typesOf_filteredEach c.roots
  refine ⟨hseen, ?_, ?_, Branch.map_fst_visitsOf [] (c.filtered ctx), ?_⟩
  · rw [hseen]
    exact (List.filter_sublist.map TaskType.id).nodup hc.type_ids_nodup
  · intro t
    rw [hseen, List.mem_filter, type?_eq_some_iff hc]
  · intro t chain hmem
    apply lineage_of_mem_visitsOf (c.filtered ctx) _ _ (.inl rfl) hmem
    · intro k hk
      rw [category?_eq_some_iff hc]
      exact Branch.categoriesOf_filteredEach_subset c.roots hk
    · exact Branch.linkedEach_filteredEach c.roots hc.linked

end Catalog

end TaskDesk
