import TaskDesk.Catalog.Basic

/-!
# Building a catalog

A `Builder` takes categories and task types one after another.  A category is put at the end
of the children of its parent, which must be there already, a task type at the end of the
types of its category; an id that is taken is refused.  `Builder.build` sorts all siblings
by name.
-/

namespace TaskDesk

open TaskDesk.Text

namespace Branch

mutual

/-- The branch with a change of the branch of the given id. -/
def alter (id : String) (f : Branch → Branch) : Branch → Branch
  | .mk c kids ts => if c.id = id then f (.mk c kids ts) else .mk c (alterEach id f kids) ts

/-- The forest with a change of the branch of the given id. -/
def alterEach (id : String) (f : Branch → Branch) : List Branch → List Branch
  | [] => []
  | b :: bs => alter id f b :: alterEach id f bs

end

/-- The branch with one more child. -/
def withChild (kid : Branch) : Branch → Branch
  | .mk c kids ts => .mk c (kids ++ [kid]) ts

/-- The branch with one more task type. -/
def withType (t : TaskType) : Branch → Branch
  | .mk c kids ts => .mk c kids (ts ++ [t])

/-- The name of the category of a branch. -/
def name (b : Branch) : String := b.category.name

mutual

/-- The branch with all siblings below it sorted by name. -/
def sorted : Branch → Branch
  | .mk c kids ts => .mk c (sortOn name (sortedEach kids)) (sortOn TaskType.name ts)

/-- The branches of a list, the siblings below each sorted by name. -/
def sortedEach : List Branch → List Branch
  | [] => []
  | b :: bs => sorted b :: sortedEach bs

end

end Branch

/-- A catalog under construction; siblings are in the order in which they were added. -/
structure Builder where
  roots : List Branch

namespace Builder

/-- Nothing added yet. -/
def empty : Builder := ⟨[]⟩

/-- Whether a category is there. -/
def hasCategory (b : Builder) (id : String) : Bool :=
  (Branch.categoriesOf b.roots).any fun k => k.id = id

/-- Whether a task type is there. -/
def hasType (b : Builder) (id : String) : Bool :=
  (Branch.typesOf b.roots).any fun t => t.id = id

/-- The builder with a category. -/
def addCategory (b : Builder) (k : Category) : Except CatalogError Builder :=
  if b.hasCategory k.id then .error (.duplicateCategory k.id)
  else
    match k.parent with
    | none => .ok ⟨b.roots ++ [Branch.leaf k]⟩
    | some parent =>
      if b.hasCategory parent then
        .ok ⟨Branch.alterEach parent (Branch.withChild (Branch.leaf k)) b.roots⟩
      else .error (.unknownParent k.id parent)

/-- The builder with a task type. -/
def addType (b : Builder) (t : TaskType) : Except CatalogError Builder :=
  if b.hasType t.id then .error (.duplicateTaskType t.id)
  else if b.hasCategory t.category then
    .ok ⟨Branch.alterEach t.category (Branch.withType t) b.roots⟩
  else .error (.unknownCategory t.id t.category)

/-- Something to add. -/
inductive Step where
  | category (k : Category)
  | type (t : TaskType)

/-- The builder after a step. -/
def apply (b : Builder) : Step → Except CatalogError Builder
  | .category k => b.addCategory k
  | .type t => b.addType t

/-- The builder after steps; the first error ends them. -/
def applyAll (b : Builder) : List Step → Except CatalogError Builder
  | [] => .ok b
  | s :: ss =>
    match b.apply s with
    | .ok b => b.applyAll ss
    | .error e => .error e

/-- The builder after steps of which the refused ones are left out, and the errors of those. -/
def run (b : Builder) : List Step → Builder × List (Option CatalogError)
  | [] => (b, [])
  | s :: ss =>
    match b.apply s with
    | .ok b =>
      let (b, errors) := b.run ss
      (b, none :: errors)
    | .error e =>
      let (b, errors) := b.run ss
      (b, some e :: errors)

/-- The catalog of what was added. -/
def build (b : Builder) : Catalog :=
  ⟨sortOn Branch.name (Branch.sortedEach b.roots)⟩

end Builder

end TaskDesk
