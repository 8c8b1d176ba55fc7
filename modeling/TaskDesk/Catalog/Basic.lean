import TaskDesk.Text.Order
import TaskDesk.Text.Quoted
import TaskDesk.Files.Error

/-!
# Catalogs of task types

A `Catalog` is a forest: a `Branch` is a category with the branches of its child categories
and with its own task types.  A task type fits some drivers, which its `Applicability` says.
`categoriesOf` and `typesOf` list what a forest holds; a branch comes before its children,
and the types of the children before the own ones.
-/

namespace TaskDesk

/-- Which drivers a task type fits: every one, those of a set, or those that pass a test. -/
inductive Applicability where
  | anyDriver
  | drivers (ids : List String)
  | custom (test : String → Bool)

namespace Applicability

/-- The drivers of a list, in any order and with repetitions. -/
def ofList (ids : List String) : Applicability :=
  .drivers (Text.nameSet ids)

/-- Whether a driver fits. -/
def fits : Applicability → String → Bool
  | .anyDriver, _ => true
  | .drivers ids, driver => ids.contains driver
  | .custom test, driver => test driver

/-- A description for diagnosis. -/
def text : Applicability → String
  | .anyDriver => "AnyDriver"
  | .drivers ids => "Drivers(\x7b" ++ ", ".intercalate (ids.map Text.quoted) ++ "\x7d)"
  | .custom _ => "Custom(..)"

end Applicability

/-- A category of task types. -/
structure Category where
  id : String
  name : String
  description : String
  icon : Option String
  parent : Option String
deriving DecidableEq, Repr, Inhabited

/-- A kind of task, which belongs to one category. -/
structure TaskType where
  id : String
  name : String
  category : String
  description : String
  icon : Option String
  standalone : Bool
  applicability : Applicability

/-- A category with the branches of its children and with its task types. -/
inductive Branch where
  | mk (category : Category) (children : List Branch) (types : List TaskType)

namespace Branch

/-- The category of a branch. -/
def category : Branch → Category
  | .mk c _ _ => c

/-- The branches of the child categories. -/
def children : Branch → List Branch
  | .mk _ kids _ => kids

/-- The task types of the category. -/
def types : Branch → List TaskType
  | .mk _ _ ts => ts

/-- A branch without children and types. -/
def leaf (c : Category) : Branch := .mk c [] []

mutual

/-- The categories of a branch, each before its children. -/
def categories : Branch → List Category
  | .mk c kids _ => c :: categoriesOf kids

/-- The categories of a forest. -/
def categoriesOf : List Branch → List Category
  | [] => []
  | b :: bs => b.categories ++ categoriesOf bs

end

mutual

/-- The task types of a branch, those of the children first. -/
def allTypes : Branch → List TaskType
  | .mk _ kids ts => typesOf kids ++ ts

/-- The task types of a forest. -/
def typesOf : List Branch → List TaskType
  | [] => []
  | b :: bs => b.allTypes ++ typesOf bs

end

mutual

/-- The branches of a branch, itself first. -/
def branches : Branch → List Branch
  | .mk c kids ts => .mk c kids ts :: branchesOf kids

/-- The branches of a forest. -/
def branchesOf : List Branch → List Branch
  | [] => []
  | b :: bs => b.branches ++ branchesOf bs

end

end Branch

/-- Why a catalog could not be made. -/
inductive CatalogError where
  | duplicateCategory (id : String)
  | duplicateTaskType (id : String)
  | unknownParent (category parent : String)
  | unknownCategory (taskType category : String)
  | definition
  | file (e : FileError)
deriving DecidableEq, Repr

namespace CatalogError

/-- The text of an error. -/
def message : CatalogError → String
  | .duplicateCategory id => "Duplicate task category id: " ++ id
  | .duplicateTaskType id => "Duplicate task type id: " ++ id
  | .unknownParent category parent =>
    "Unknown parent category '" ++ parent ++ "' for category '" ++ category ++ "'"
  | .unknownCategory taskType category =>
    "Unknown category '" ++ category ++ "' for task type '" ++ taskType ++ "'"
  | .definition => "Invalid catalog definition: <yaml>"
  | .file e => "Failed to read catalog definition: " ++ e.message

/-- Whether an error comes from the text of a definition and not from what it defines. -/
def isSourceError : CatalogError → Bool
  | .definition | .file _ => true
  | _ => false

end CatalogError

/-- A forest of categories, each list of siblings sorted by name. -/
structure Catalog where
  roots : List Branch

namespace Catalog

/-- The catalog without categories. -/
def empty : Catalog := ⟨[]⟩

/-- The categories of a catalog. -/
def categories (c : Catalog) : List Category :=
  Branch.categoriesOf c.roots

/-- The task types of a catalog. -/
def types (c : Catalog) : List TaskType :=
  Branch.typesOf c.roots

/-- The branch of a category. -/
def branch? (c : Catalog) (id : String) : Option Branch :=
  (Branch.branchesOf c.roots).find? fun b => b.category.id = id

/-- The category with an id. -/
def category? (c : Catalog) (id : String) : Option Category :=
  c.categories.find? fun k => k.id = id

/-- The task type with an id. -/
def type? (c : Catalog) (id : String) : Option TaskType :=
  c.types.find? fun t => t.id = id

/-- The parent of a category. -/
def parentOf (c : Catalog) (k : Category) : Option Category :=
  k.parent.bind c.category?

/-- The category of a task type. -/
def categoryOf (c : Catalog) (t : TaskType) : Option Category :=
  c.category? t.category

/-- Whether a catalog has no categories. -/
def isEmpty (c : Catalog) : Bool :=
  c.categories.isEmpty

end Catalog

end TaskDesk
