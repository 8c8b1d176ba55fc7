import TaskDesk.Catalog.Definition
import TaskDesk.Proofs.Catalog.Listing

/-!
# What a definition makes of a catalog

The ids of a definition are taken in one after another, that of a category before those of its
children and these before those of its task types.  Each step finds the category that it belongs
under, for this was added before: `Grounded`.  So a definition can be refused for an id that comes
twice alone, and it is refused for the first such id.  If there is none, the catalog holds what
the definition describes, each category under the one that encloses it:
`CatalogDefinition.build_outcome`.
-/

namespace TaskDesk

/-- An id in a definition; categories and task types do not share their ids. -/
inductive CatalogId where
  | category (id : String)
  | type (id : String)
deriving DecidableEq, Repr

namespace CatalogId

/-- The id of a category. -/
def category? : CatalogId → Option String
  | .category id => some id
  | .type _ => none

/-- The id of a task type. -/
def type? : CatalogId → Option String
  | .category _ => none
  | .type id => some id

/-- The error that names an id which is there already. -/
def repeated : CatalogId → CatalogError
  | .category id => .duplicateCategory id
  | .type id => .duplicateTaskType id

theorem mem_filterMap_category? {xs : List CatalogId} {id : String} :
  id ∈ xs.filterMap category? ↔ .category id ∈ xs
  := by
  rw [List.mem_filterMap]
  constructor
  · rintro ⟨_ | _, hx, ⟨⟩⟩
    exact hx
  · exact fun hx => ⟨_, hx, rfl⟩

theorem mem_filterMap_type? {xs : List CatalogId} {id : String} :
  id ∈ xs.filterMap type? ↔ .type id ∈ xs
  := by
  rw [List.mem_filterMap]
  constructor
  · rintro ⟨_ | _, hx, ⟨⟩⟩
    exact hx
  · exact fun hx => ⟨_, hx, rfl⟩

/-- Ids are distinct if those of the categories are and those of the task types are. -/
theorem nodup_iff {xs : List CatalogId} :
  xs.Nodup ↔ (xs.filterMap category?).Nodup ∧ (xs.filterMap type?).Nodup
  := by
  induction xs with
  | nil => simp
  | cons x rest ih =>
    cases x with
    | category id =>
      have hcategories : (category id :: rest).filterMap category?
          = id :: rest.filterMap category? := rfl
      have htypes : (category id :: rest).filterMap type? = rest.filterMap type? := rfl
      rw [hcategories, htypes, List.nodup_cons, List.nodup_cons, mem_filterMap_category?, ih,
        and_assoc]
    | type id =>
      have hcategories : (type id :: rest).filterMap category? = rest.filterMap category? := rfl
      have htypes : (type id :: rest).filterMap type? = id :: rest.filterMap type? := rfl
      rw [hcategories, htypes, List.nodup_cons, List.nodup_cons, mem_filterMap_type?, ih,
        and_left_comm]

end CatalogId

/-- Whether an element is the first of a list that has come before. -/
def FirstRepeat {α : Type} (x : α) (xs : List α) : Prop :=
  ∃ before after, xs = before ++ x :: after ∧ before.Nodup ∧ x ∈ before

namespace FirstRepeat

variable {α : Type} {x y : α} {xs : List α}

theorem not_nodup (h : FirstRepeat x xs) :
  ¬ xs.Nodup
  := by
  obtain ⟨before, after, rfl, -, hx⟩ := h
  intro hnodup
  exact (List.nodup_append.mp hnodup).2.2 x hx x List.mem_cons_self rfl

private theorem head_of_append {before later after after' : List α} (hx : x ∈ before)
    (hnodup : (before ++ later).Nodup) (h : x :: after = later ++ y :: after') :
  x = y
  := by
  cases later with
  | nil => exact (List.cons.inj h).1
  | cons z rest =>
    obtain rfl := (List.cons.inj h).1
    exact absurd rfl ((List.nodup_append.mp hnodup).2.2 x hx x List.mem_cons_self)

/-- A list has one first repeated element at most. -/
theorem unique (hx : FirstRepeat x xs) (hy : FirstRepeat y xs) :
  x = y
  := by
  obtain ⟨before, after, rfl, hnodup, hx⟩ := hx
  obtain ⟨before', after', heq, hnodup', hy⟩ := hy
  -- What comes before the one repeat starts with what comes before the other.
  obtain ⟨later, rfl, hrest⟩ | ⟨later, rfl, hrest⟩ := List.append_eq_append_iff.mp heq
  · exact head_of_append hx hnodup' hrest
  · exact (head_of_append hy hnodup hrest).symm

end FirstRepeat

/-! ### Definitions -/

namespace CategoryDefinition

/-- The definitions of the child categories. -/
def children : CategoryDefinition → List CategoryDefinition
  | .mk _ _ _ _ children _ => children

/-- The definitions of the task types. -/
def types : CategoryDefinition → List TypeDefinition
  | .mk _ _ _ _ _ types => types

/-- The category that a definition under a parent describes. -/
def category (parent : Option String) : CategoryDefinition → Category
  | .mk id name description icon _ _ => ⟨id, name, description, icon, parent⟩

mutual

/-- The ids in a definition: that of the category, those in its children, those of its types. -/
def ids : CategoryDefinition → List CatalogId
  | .mk id _ _ _ children types => .category id :: (idsOf children ++ types.map fun t => .type t.id)

/-- The ids in definitions, in order. -/
def idsOf : List CategoryDefinition → List CatalogId
  | [] => []
  | d :: ds => ids d ++ idsOf ds

end

end CategoryDefinition

namespace CatalogDefinition

/-- All ids in a definition, in the order in which they are taken in. -/
def ids (D : CatalogDefinition) : List CatalogId :=
  CategoryDefinition.idsOf D.categories

/-- The ids of all categories in a definition. -/
def categoryIds (D : CatalogDefinition) : List String :=
  D.ids.filterMap CatalogId.category?

/-- The ids of all task types in a definition. -/
def typeIds (D : CatalogDefinition) : List String :=
  D.ids.filterMap CatalogId.type?

/-- Whether a category is defined, at any depth, directly under the one of an id or as a root. -/
inductive Defines (D : CatalogDefinition) : Option String → CategoryDefinition → Prop where
  | root {d : CategoryDefinition} (h : d ∈ D.categories) : Defines D none d
  | child {above : Option String} {p d : CategoryDefinition} (hp : Defines D above p)
      (h : d ∈ p.children) : Defines D (some p.id) d

end CatalogDefinition

/-- A task type is as defined in a category: without a list of drivers it fits each one, with a list
those of the list. -/
structure TypeDefinition.Describes (e : TypeDefinition) (category : String) (t : TaskType) :
    Prop where
  id : t.id = e.id
  name : t.name = e.name
  category : t.category = category
  description : t.description = e.description
  icon : t.icon = e.icon
  standalone : t.standalone = e.standalone
  fits : ∀ driver, t.applicability.fits driver = true
    ↔ ∀ drivers, e.drivers = some drivers → driver ∈ drivers

theorem TypeDefinition.describes_type (e : TypeDefinition) (category : String) :
  e.Describes category (e.type category)
  where
  id := rfl
  name := rfl
  category := rfl
  description := rfl
  icon := rfl
  standalone := rfl
  fits driver := by
    cases h : e.drivers with
    | none => simp [type, h, Applicability.fits]
    | some drivers => simp [type, h, Applicability.ofList, Applicability.fits, Text.mem_nameSet]

/-- A catalog holds what a definition describes and nothing else, each category and task type once
and under what encloses it. -/
structure Catalog.Realizes (c : Catalog) (D : CatalogDefinition) : Prop where
  listing : c.Listing c.categories c.types
  category_iff : ∀ k, k ∈ c.categories ↔ ∃ above d, D.Defines above d ∧ k = d.category above
  category_found : ∀ above d, D.Defines above d → c.category? d.id = some (d.category above)
  parent_found : ∀ above p, D.Defines above p → ∀ d ∈ p.children,
    c.parentOf (d.category (some p.id)) = some (p.category above)
  type_defined : ∀ t ∈ c.types, ∃ above d, D.Defines above d ∧ ∃ e ∈ d.types, e.Describes d.id t
  type_found : ∀ above d, D.Defines above d → ∀ e ∈ d.types,
    ∃ t, c.type? e.id = some t ∧ e.Describes d.id t ∧ c.categoryOf t = some (d.category above)

/-! ### What a definition adds -/

namespace Builder

/-- The id that a step adds. -/
def Step.id : Step → CatalogId
  | .category k => .category k.id
  | .type t => .type t.id

/-- The category under which a step adds something. -/
def Step.place : Step → Option String
  | .category k => k.parent
  | .type t => some t.category

/-- Whether each step adds under a category that is known or that a step before it adds. -/
def Grounded (known : List String) : List Step → Prop
  | [] => True
  | s :: rest =>
    (∀ p, s.place = some p → p ∈ known) ∧ Grounded (s.categories.map Category.id ++ known) rest

theorem Grounded.mono {known known' : List String} {steps : List Step}
    (h : Grounded known steps) (hsub : known ⊆ known') :
  Grounded known' steps
  := by
  induction steps generalizing known known' with
  | nil => trivial
  | cons s rest ih =>
    constructor
    · exact fun p hp => hsub (h.1 p hp)
    · apply ih h.2
      intro p hp
      rw [List.mem_append] at hp ⊢
      exact hp.imp_right fun hp => hsub hp

theorem Grounded.append {known : List String} {steps later : List Step}
    (h : Grounded known steps) (hlater : Grounded known later) :
  Grounded known (steps ++ later)
  := by
  induction steps generalizing known with
  | nil => exact hlater
  | cons s rest ih =>
    refine ⟨h.1, ih h.2 ?_⟩
    exact hlater.mono (List.subset_append_right _ _)

theorem grounded_types {known : List String} {id : String} (hid : id ∈ known)
    (types : List TypeDefinition) :
  Grounded known (types.map fun e => .type (e.type id))
  := by
  induction types with
  | nil => trivial
  | cons e rest ih =>
    refine ⟨?_, ih⟩
    rintro p ⟨⟩
    exact hid

end Builder

namespace CategoryDefinition

open Builder (Step Grounded)

mutual

theorem map_id_steps :
    ∀ (parent : Option String) (d : CategoryDefinition), (steps parent d).map Step.id = d.ids
  | parent, .mk id name description icon children types => by
    rw [steps, List.map_cons, List.map_append, map_id_stepsOf (some id) children, List.map_map, ids]
    rfl

theorem map_id_stepsOf :
    ∀ (parent : Option String) (ds : List CategoryDefinition),
      (stepsOf parent ds).map Step.id = idsOf ds
  | _, [] => rfl
  | parent, d :: ds => by
    rw [stepsOf, List.map_append, map_id_steps parent d, map_id_stepsOf parent ds, idsOf]

end

mutual

theorem grounded_steps :
    ∀ {known : List String} {parent : Option String} (d : CategoryDefinition),
      (∀ p, parent = some p → p ∈ known) → Grounded known (steps parent d)
  | known, parent, .mk id name description icon children types, hparent => by
    have hid : id ∈ id :: known := List.mem_cons_self
    refine ⟨hparent, .append ?_ (Builder.grounded_types hid types)⟩
    apply grounded_stepsOf children
    rintro p ⟨⟩
    exact hid

theorem grounded_stepsOf :
    ∀ {known : List String} {parent : Option String} (ds : List CategoryDefinition),
      (∀ p, parent = some p → p ∈ known) → Grounded known (stepsOf parent ds)
  | _, _, [], _ => trivial
  | _, _, d :: ds, hparent => .append (grounded_steps d hparent) (grounded_stepsOf ds hparent)

end

theorem stepsOf_eq (parent : Option String) (ds : List CategoryDefinition) :
  stepsOf parent ds = ds.flatMap (steps parent)
  := by
  induction ds with
  | nil => rfl
  | cons d rest ih => rw [stepsOf, ih, List.flatMap_cons]

/-- A definition adds its category, what its children add, and its task types. -/
theorem mem_steps_iff {parent : Option String} {d : CategoryDefinition} {s : Step} :
  s ∈ steps parent d ↔ s = .category (d.category parent) ∨ s ∈ stepsOf (some d.id) d.children
    ∨ ∃ e ∈ d.types, s = .type (e.type d.id)
  := by
  obtain ⟨id, name, description, icon, children, types⟩ := d
  simp only [steps, List.mem_cons, List.mem_append, List.mem_map]
  simp only [category, CategoryDefinition.id, CategoryDefinition.children, CategoryDefinition.types,
    eq_comm]

end CategoryDefinition

namespace CatalogDefinition

open Builder (Step)

variable {D : CatalogDefinition}

/-- What a definition adds to a catalog, in order. -/
def steps (D : CatalogDefinition) : List Step :=
  CategoryDefinition.stepsOf none D.categories

mutual

theorem exists_defines_of_mem_steps {s : Step} :
    ∀ {above : Option String} (d : CategoryDefinition), D.Defines above d →
      s ∈ CategoryDefinition.steps above d →
      ∃ above d, D.Defines above d
        ∧ (s = .category (d.category above) ∨ ∃ e ∈ d.types, s = .type (e.type d.id))
  | above, .mk id name description icon children types, hd, hs => by
    obtain rfl | hs | hs := CategoryDefinition.mem_steps_iff.mp hs
    · exact ⟨above, _, hd, .inl rfl⟩
    · exact exists_defines_of_mem_stepsOf children (fun d h => .child hd h) hs
    · exact ⟨above, _, hd, .inr hs⟩

theorem exists_defines_of_mem_stepsOf {s : Step} :
    ∀ {above : Option String} (ds : List CategoryDefinition), (∀ d ∈ ds, D.Defines above d) →
      s ∈ CategoryDefinition.stepsOf above ds →
      ∃ above d, D.Defines above d
        ∧ (s = .category (d.category above) ∨ ∃ e ∈ d.types, s = .type (e.type d.id))
  | _, d :: ds, hds, hs => by
    rw [List.forall_mem_cons] at hds
    obtain hs | hs := List.mem_append.mp hs
    · exact exists_defines_of_mem_steps d hds.1 hs
    · exact exists_defines_of_mem_stepsOf ds hds.2 hs

end

theorem Defines.steps_subset {above : Option String} {d : CategoryDefinition}
    (h : D.Defines above d) :
  CategoryDefinition.steps above d ⊆ D.steps
  := by
  induction h with
  | root h =>
    intro s hs
    rw [steps, CategoryDefinition.stepsOf_eq]
    exact List.mem_flatMap_of_mem h hs
  | @child above p d hp h ih =>
    intro s hs
    apply ih
    rw [CategoryDefinition.mem_steps_iff, CategoryDefinition.stepsOf_eq]
    exact .inr (.inl (List.mem_flatMap_of_mem h hs))

/-- A definition adds the categories and the task types that it defines, and nothing else. -/
theorem mem_steps_iff {s : Step} :
  s ∈ D.steps ↔ ∃ above d, D.Defines above d
    ∧ (s = .category (d.category above) ∨ ∃ e ∈ d.types, s = .type (e.type d.id))
  := by
  constructor
  · exact exists_defines_of_mem_stepsOf D.categories fun d h => .root h
  · rintro ⟨above, d, hd, hs⟩
    apply hd.steps_subset
    rw [CategoryDefinition.mem_steps_iff]
    exact hs.imp_right .inr

end CatalogDefinition

/-! ### Steps that are refused -/

namespace Builder

variable {b b' : Builder} {s : Step}

/-- Whether an id is taken. -/
def Has (b : Builder) : CatalogId → Prop
  | .category id => b.hasCategory id = true
  | .type id => b.hasType id = true

theorem apply_of_has (h : b.Has s.id) :
  b.apply s = .error s.id.repeated
  := by
  cases s with
  | category k => exact if_pos h
  | type t => exact if_pos h

/-- What has a new id and comes under a category that is there is taken in. -/
theorem exists_apply (h : ¬ b.Has s.id) (hplace : ∀ p, s.place = some p → b.hasCategory p = true) :
  ∃ b', b.apply s = .ok b'
  := by
  cases s with
  | category k =>
    have hid : ¬ b.hasCategory k.id = true := h
    rw [apply, addCategory, if_neg hid]
    cases hparent : k.parent with
    | none => exact ⟨_, rfl⟩
    | some parent => exact ⟨_, if_pos (hplace parent hparent)⟩
  | type t =>
    have hid : ¬ b.hasType t.id = true := h
    rw [apply, addType, if_neg hid]
    exact ⟨_, if_pos (hplace t.category rfl)⟩

theorem has_apply (h : Branch.WellFormed b.roots) (hb : b.apply s = .ok b') (x : CatalogId) :
  b'.Has x ↔ x = s.id ∨ b.Has x
  := by
  obtain ⟨hcategories, htypes⟩ := extends_apply h hb
  cases x with
  | category id =>
    simp only [Has, hasCategory_iff, Branch.idsOf, (hcategories.map Category.id).mem_iff]
    cases s <;> simp [Step.categories, Step.id]
  | type id =>
    simp only [Has, hasType_iff, (htypes.map TaskType.id).mem_iff]
    cases s <;> simp [Step.types, Step.id]

/-- Steps that find the categories they belong under are all taken in, or there is a first id that
is taken and the error names it; `done` are the ids of the steps before. -/
theorem applyAll_cases {known : List String} {steps : List Step} {done : List CatalogId}
    (hb : Branch.WellFormed b.roots) (hsteps : Grounded known steps)
    (hknown : ∀ p ∈ known, b.hasCategory p = true) (hdone : done.Nodup)
    (hhas : ∀ x, b.Has x ↔ x ∈ done) :
  (∃ b', b.applyAll steps = .ok b' ∧ (done ++ steps.map Step.id).Nodup)
    ∨ ∃ x, b.applyAll steps = .error x.repeated ∧ FirstRepeat x (done ++ steps.map Step.id)
  := by
  induction steps generalizing b known done with
  | nil =>
    left
    exact ⟨b, rfl, by simpa using hdone⟩
  | cons s rest ih =>
    by_cases hs : b.Has s.id
    · right
      refine ⟨s.id, ?_, done, rest.map Step.id, rfl, hdone, (hhas s.id).mp hs⟩
      rw [applyAll, apply_of_has hs]
    · -- The id is new, so the step is taken in and the id is done like those before it.
      obtain ⟨b', hb'⟩ := exists_apply hs fun p hp => hknown p (hsteps.1 p hp)
      have hnext := has_apply hb hb'
      have hdone' : (done ++ [s.id]).Nodup := by
        rw [← List.concat_eq_append]
        exact hdone.concat (mt (hhas s.id).mpr hs)
      have hhas' (x : CatalogId) : b'.Has x ↔ x ∈ done ++ [s.id] := by
        rw [hnext, hhas, List.mem_append, List.mem_singleton, or_comm]
      have hknown' : ∀ p ∈ s.categories.map Category.id ++ known, b'.hasCategory p = true := by
        intro p hp
        apply (hnext (.category p)).mpr
        obtain hp | hp := List.mem_append.mp hp
        · cases s with
          | category k => exact .inl (congrArg _ (List.mem_singleton.mp hp))
          | type t => cases hp
        · exact .inr (hknown p hp)
      have hrest := ih (wellFormed_apply hb hb') hsteps.2 hknown' hdone' hhas'
      rw [List.append_assoc] at hrest
      rw [applyAll, hb']
      exact hrest

theorem extends_applyAll {steps : List Step} (h : Branch.WellFormed b.roots)
    (hb : b.applyAll steps = .ok b') :
  Branch.WellFormed b'.roots
    ∧ Branch.Extends b.roots b'.roots (steps.flatMap Step.categories) (steps.flatMap Step.types)
  := by
  induction steps generalizing b with
  | nil =>
    cases hb
    exact ⟨h, .refl _, .refl _⟩
  | cons s rest ih =>
    rw [applyAll] at hb
    split at hb
    · next b₁ hs =>
      obtain ⟨hwell, hextends⟩ := ih (wellFormed_apply h hs) hb
      exact ⟨hwell, (extends_apply h hs).trans hextends⟩
    · cases hb

end Builder

namespace CatalogDefinition

open Builder (Step)

variable {D : CatalogDefinition}

theorem build_cases (D : CatalogDefinition) :
  (∃ c, D.build = .ok c ∧ D.ids.Nodup) ∨ ∃ x, D.build = .error x.repeated ∧ FirstRepeat x D.ids
  := by
  have hgrounded : Builder.Grounded [] D.steps := by
    apply CategoryDefinition.grounded_stepsOf
    rintro p ⟨⟩
  have hempty (x : CatalogId) : Builder.empty.Has x ↔ x ∈ [] := by
    cases x <;> simp [Builder.Has, Builder.empty, Builder.hasCategory, Builder.hasType,
      Branch.categoriesOf, Branch.typesOf]
  have hcases := Builder.applyAll_cases Branch.wellFormed_nil hgrounded (by simp) .nil hempty
  have hids : D.steps.map Step.id = D.ids := CategoryDefinition.map_id_stepsOf none D.categories
  rw [List.nil_append, hids] at hcases
  rw [build]
  obtain ⟨b, hb, hnodup⟩ | ⟨x, hx, hfirst⟩ := hcases
  · left
    exact ⟨b.build, congrArg _ hb, hnodup⟩
  · right
    exact ⟨x, congrArg _ hx, hfirst⟩

/-- The catalog that is made is well formed and has what the steps of the definition add. -/
theorem extends_of_build {c : Catalog} (h : D.build = .ok c) :
  Branch.WellFormed c.roots
    ∧ Branch.Extends [] c.roots (D.steps.flatMap Step.categories) (D.steps.flatMap Step.types)
  := by
  rw [build] at h
  cases hb : Builder.empty.applyAll (CategoryDefinition.stepsOf none D.categories) with
  | error e =>
    rw [hb] at h
    cases h
  | ok b =>
    rw [hb] at h
    cases h
    obtain ⟨hwell, hextends⟩ := Builder.extends_applyAll Branch.wellFormed_nil hb
    have hbuild := hextends.trans (Branch.extends_sorted b.roots)
    rw [List.append_nil, List.append_nil] at hbuild
    exact ⟨hwell.sorted, hbuild⟩

theorem mem_categories_iff {k : Category} :
  k ∈ D.steps.flatMap Step.categories ↔ ∃ above d, D.Defines above d ∧ k = d.category above
  := by
  have hstep : k ∈ D.steps.flatMap Step.categories ↔ .category k ∈ D.steps := by
    rw [List.mem_flatMap]
    constructor
    · rintro ⟨k' | t, hs, hk⟩
      · rwa [List.mem_singleton.mp hk]
      · cases hk
    · exact fun hs => ⟨_, hs, List.mem_singleton_self k⟩
  simp [hstep, mem_steps_iff]

theorem mem_types_iff {t : TaskType} :
  t ∈ D.steps.flatMap Step.types ↔ ∃ above d, D.Defines above d ∧ ∃ e ∈ d.types, t = e.type d.id
  := by
  have hstep : t ∈ D.steps.flatMap Step.types ↔ .type t ∈ D.steps := by
    rw [List.mem_flatMap]
    constructor
    · rintro ⟨k | t', hs, ht⟩
      · cases ht
      · rwa [List.mem_singleton.mp ht]
    · exact fun hs => ⟨_, hs, List.mem_singleton_self t⟩
  simp [hstep, mem_steps_iff]

theorem realizes_of_build {c : Catalog} (h : D.build = .ok c) :
  c.Realizes D
  := by
  obtain ⟨hwell, hextends⟩ := extends_of_build h
  have hcategories (k : Category) :
      k ∈ c.categories ↔ ∃ above d, D.Defines above d ∧ k = d.category above := by
    rw [Catalog.categories, hextends.categories.mem_iff, Branch.categoriesOf, List.append_nil,
      mem_categories_iff]
  have htypes (t : TaskType) :
      t ∈ c.types ↔ ∃ above d, D.Defines above d ∧ ∃ e ∈ d.types, t = e.type d.id := by
    rw [Catalog.types, hextends.types.mem_iff, Branch.typesOf, List.append_nil, mem_types_iff]
  have hfound (above : Option String) (d : CategoryDefinition) (hd : D.Defines above d) :
      c.category? d.id = some (d.category above) := by
    have hid : (d.category above).id = d.id := by cases d; rfl
    rw [← hid, Catalog.category?_eq_some_iff hwell, hcategories]
    exact ⟨above, d, hd, rfl⟩
  constructor
  case listing => exact Catalog.listing_of_wellFormed hwell (.refl _) (.refl _)
  case category_iff => exact hcategories
  case category_found => exact hfound
  case parent_found =>
    intro above p hp d hd
    have hparent : (d.category (some p.id)).parent = some p.id := by cases d; rfl
    rw [Catalog.parentOf, hparent]
    exact hfound above p hp
  case type_defined =>
    intro t ht
    obtain ⟨above, d, hd, e, he, rfl⟩ := (htypes t).mp ht
    exact ⟨above, d, hd, e, he, e.describes_type d.id⟩
  case type_found =>
    intro above d hd e he
    refine ⟨e.type d.id, ?_, e.describes_type d.id, hfound above d hd⟩
    have hid : (e.type d.id).id = e.id := rfl
    rw [← hid, Catalog.type?_eq_some_iff hwell, htypes]
    exact ⟨above, d, hd, e, he, rfl⟩

/-- A definition makes a catalog if its categories have distinct ids and its task types have; the
catalog holds what the definition describes.  Else the error names the first id that comes again. -/
theorem build_outcome (D : CatalogDefinition) :
  ((∃ c, D.build = .ok c) ↔ D.categoryIds.Nodup ∧ D.typeIds.Nodup)
    ∧ (∀ e, D.build = .error e ↔ ∃ x, FirstRepeat x D.ids ∧ e = x.repeated)
    ∧ ∀ c, D.build = .ok c → c.Realizes D
  := by
  refine ⟨?_, ?_, fun c => realizes_of_build⟩
  · rw [categoryIds, typeIds, ← CatalogId.nodup_iff]
    obtain ⟨c, hc, hnodup⟩ | ⟨x, hx, hfirst⟩ := D.build_cases
    · simp [hc, hnodup]
    · simp [hx, hfirst.not_nodup]
  · intro e
    obtain ⟨c, hc, hnodup⟩ | ⟨x, hx, hfirst⟩ := D.build_cases
    · constructor
      · intro he
        cases hc.symm.trans he
      · rintro ⟨x, hfirst, -⟩
        exact absurd hnodup hfirst.not_nodup
    · constructor
      · intro he
        cases hx.symm.trans he
        exact ⟨x, hfirst, rfl⟩
      · rintro ⟨y, hy, rfl⟩
        rwa [hy.unique hfirst]

/-- A task type may have the id of a category, but a category cannot have that of one around it. -/
theorem build_outcome_instance :
  let shell : TypeDefinition := ⟨"a", "Shell", "", none, false, some []⟩
  let around (id : String) : CatalogDefinition :=
    ⟨[.mk "a" "A" "" none [.mk id "B" "" none [] [shell]] []]⟩
  (∃ c, (around "b").build = .ok c ∧ c.Realizes (around "b"))
    ∧ (around "a").build = .error (.duplicateCategory "a")
  := by
  intro shell around
  obtain ⟨hbuild, -, hrealizes⟩ := (around "b").build_outcome
  obtain ⟨c, hc⟩ := hbuild.mpr (by decide +kernel)
  refine ⟨⟨c, hc, hrealizes c hc⟩, ?_⟩
  apply ((around "a").build_outcome.2.1 _).mpr
  exact ⟨.category "a", ⟨[.category "a"], [.type "a"], rfl, by decide, by decide⟩, rfl⟩

end CatalogDefinition

end TaskDesk
