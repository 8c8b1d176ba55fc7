import TaskDesk.Proofs.Catalog.Tables

/-!
# What a builder takes in and what it refuses

Whether a step is taken in depends on the steps taken in before it: a category or a task type is
refused if its id is taken, a category if its parent is not there, and a task type if its category
is not, `Builder.Step.refusal?`.  `Builder.sift` applies the rule to a list of steps, without any
forest or table.  A builder takes in what it leaves and reports the errors that it finds, so do
tables whose entries are rearranged at any time, and the catalog in the end is that of the steps
taken in alone, each of what they add listed once and in its place: `listing_build`.
-/

namespace TaskDesk.Builder

/-- The ids of the categories that steps add. -/
def categoryIds (taken : List Step) : List String :=
  (taken.flatMap Step.categories).map Category.id

/-- The ids of the task types that steps add. -/
def typeIds (taken : List Step) : List String :=
  (taken.flatMap Step.types).map TaskType.id

/-- Why a step is refused after the steps that were taken in, if it is. -/
def Step.refusal? (taken : List Step) : Step → Option CatalogError
  | .category k =>
    if k.id ∈ categoryIds taken then some (.duplicateCategory k.id)
    else
      match k.parent with
      | none => none
      | some p => if p ∈ categoryIds taken then none else some (.unknownParent k.id p)
  | .type t =>
    if t.id ∈ typeIds taken then some (.duplicateTaskType t.id)
    else if t.category ∈ categoryIds taken then none
    else some (.unknownCategory t.id t.category)

/-- The steps that are taken in of a list, after those taken in before, and for each of the list
why it is refused, if it is. -/
def sift (taken : List Step) : List Step → List Step × List (Option CatalogError)
  | [] => (taken, [])
  | s :: rest =>
    match s.refusal? taken with
    | none =>
      let (all, refusals) := sift (taken ++ [s]) rest
      (all, none :: refusals)
    | some e =>
      let (all, refusals) := sift taken rest
      (all, some e :: refusals)

/-- A builder that holds what the steps that were taken in add. -/
structure Took (b : Builder) (taken : List Step) : Prop where
  wellFormed : Branch.WellFormed b.roots
  adds : Branch.Extends [] b.roots (taken.flatMap Step.categories) (taken.flatMap Step.types)

variable {b b' : Builder} {taken : List Step} {s : Step}

theorem took_empty :
  Took empty []
  where
  wellFormed := Branch.wellFormed_nil
  adds := ⟨.refl _, .refl _⟩

theorem Took.hasCategory_iff (h : b.Took taken) {id : String} :
  b.hasCategory id = true ↔ id ∈ categoryIds taken
  := by
  have hperm := h.adds.categories
  rw [Branch.categoriesOf, List.append_nil] at hperm
  rw [Builder.hasCategory_iff, Branch.idsOf, (hperm.map Category.id).mem_iff, categoryIds]

theorem Took.hasType_iff (h : b.Took taken) {id : String} :
  b.hasType id = true ↔ id ∈ typeIds taken
  := by
  have hperm := h.adds.types
  rw [Branch.typesOf, List.append_nil] at hperm
  rw [Builder.hasType_iff, (hperm.map TaskType.id).mem_iff, typeIds]

/-- A step is refused exactly for the reason that the steps taken in before give. -/
theorem Took.apply_eq_error_iff (h : b.Took taken) {e : CatalogError} :
  b.apply s = .error e ↔ s.refusal? taken = some e
  := by
  cases s with
  | category k =>
    simp only [apply, addCategory, Step.refusal?, h.hasCategory_iff]
    split
    · simp
    · cases k.parent with
      | none => simp
      | some p => dsimp only; split <;> simp
  | type t =>
    simp only [apply, addType, Step.refusal?, h.hasCategory_iff, h.hasType_iff]
    split
    · simp
    · split <;> simp

theorem Took.apply (h : b.Took taken) (hs : b.apply s = .ok b') :
  b'.Took (taken ++ [s])
  where
  wellFormed := wellFormed_apply h.wellFormed hs
  adds := by
    have hadds := h.adds.trans (extends_apply h.wellFormed hs)
    simpa using hadds

/-- A run reports the refusals of its steps, and what it takes in is what they leave. -/
theorem Took.run (h : b.Took taken) (steps : List Step) :
  (b.run steps).2 = (sift taken steps).2 ∧ taken ++ b.accepted steps = (sift taken steps).1
  := by
  induction steps generalizing b taken with
  | nil => exact ⟨rfl, List.append_nil taken⟩
  | cons s rest ih =>
    cases hs : b.apply s with
    | ok b' =>
      have hnone : s.refusal? taken = none := by
        rw [Option.eq_none_iff_forall_ne_some]
        intro e he
        rw [← h.apply_eq_error_iff, hs] at he
        cases he
      obtain ⟨herrors, htaken⟩ := ih (h.apply hs)
      rw [accepted_of_ok hs, List.append_cons]
      simp only [Builder.run, hs, sift, hnone, herrors, htaken, and_self]
    | error e =>
      obtain ⟨herrors, htaken⟩ := ih h
      rw [accepted_of_error hs]
      simp only [Builder.run, hs, sift, h.apply_eq_error_iff.mp hs, herrors, htaken, and_self]

/-- Whatever is given to a builder, it refuses the steps whose id is taken, or whose parent or
category is not there, with the error that says so, and takes in all others; its catalog is that of
the steps taken in alone, and it lists what these add, each category under its parent and each task
type under its category.  Tables refuse the same and hold the same catalog, however their entries
are rearranged. -/
theorem listing_build (steps : List Step) :
  let taken := (sift [] steps).1
  let c := (empty.run steps).1.build
  (empty.run steps).2 = (sift [] steps).2
    ∧ (∃ b, empty.applyAll taken = .ok b ∧ b.build = c)
    ∧ c.Listing (taken.flatMap Step.categories) (taken.flatMap Step.types)
    ∧ (∃ errors T, Tables.empty.Reaches steps errors T)
    ∧ ∀ (T T' : Tables) (errors : List (Option CatalogError)),
      Tables.empty.Reaches steps errors T → T.build.Rearranged T' →
        errors = (sift [] steps).2 ∧ T'.Holds c
  := by
  intro taken c
  obtain ⟨hrefusals, htaken⟩ := took_empty.run steps
  rw [List.nil_append] at htaken
  have hc : Branch.WellFormed c.roots := wellFormed_build steps
  obtain ⟨hcategories, htypes⟩ := perm_build steps
  rw [htaken] at hcategories htypes
  refine ⟨hrefusals, ?_, Catalog.listing_of_wellFormed hc hcategories htypes,
    Tables.exists_reaches .empty steps, ?_⟩
  · rw [show taken = empty.accepted steps from htaken.symm]
    exact ⟨_, applyAll_accepted steps, rfl⟩
  · intro T T' errors hrun hT
    rw [← hrefusals]
    exact Tables.holds_of_reaches hrun hT

/-- A category comes before its parent and is refused, and again after it; an id comes twice, and a
task type without its category. -/
theorem listing_build_instance :
  let category (id : String) (parent : Option String) : Category := ⟨id, id, "", none, parent⟩
  let type (id category : String) : TaskType := ⟨id, id, category, "", none, false, .anyDriver⟩
  let steps : List Step := [
    .category (category "sql" none), .category (category "export" (some "tools")),
    .type (type "script" "sql"), .type (type "script" "sql"), .type (type "copy" "tools"),
    .category (category "sql" (some "none")), .category (category "tools" (some "sql")),
    .category (category "export" (some "tools"))]
  let c := (empty.run steps).1.build
  (empty.run steps).2 = [none, some (.unknownParent "export" "tools"), none,
      some (.duplicateTaskType "script"), some (.unknownCategory "copy" "tools"),
      some (.duplicateCategory "sql"), none, none]
    ∧ c.Listing [category "sql" none, category "tools" (some "sql"),
      category "export" (some "tools")] [type "script" "sql"]
    ∧ ∃ T, Tables.empty.Reaches steps [none, some (.unknownParent "export" "tools"), none,
        some (.duplicateTaskType "script"), some (.unknownCategory "copy" "tools"),
        some (.duplicateCategory "sql"), none, none] T ∧ T.build.Holds c
  := by
  intro category type steps c
  have hsift : sift [] steps = ([.category (category "sql" none), .type (type "script" "sql"),
      .category (category "tools" (some "sql")), .category (category "export" (some "tools"))],
      [none, some (.unknownParent "export" "tools"), none, some (.duplicateTaskType "script"),
        some (.unknownCategory "copy" "tools"), some (.duplicateCategory "sql"), none, none]) :=
    rfl
  obtain ⟨hrefusals, -, hlisting, ⟨errors, T, hreaches⟩, htables⟩ := listing_build steps
  obtain ⟨rfl, hholds⟩ := htables T T.build errors hreaches (.refl _)
  rw [hsift] at hrefusals hlisting hreaches
  exact ⟨hrefusals, hlisting, T, hreaches, hholds⟩

end TaskDesk.Builder
