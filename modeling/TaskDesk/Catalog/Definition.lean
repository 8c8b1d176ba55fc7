import TaskDesk.Catalog.Builder
import TaskDesk.Json.Printer

/-!
# Catalog definitions

A `CatalogDefinition` describes a catalog as nested categories with their task types.
`CatalogDefinition.build` adds a category, then its children, then its types.  A task type
without a list of drivers fits every driver; an empty list fits none.
-/

namespace TaskDesk

/-- The definition of a task type. -/
structure TypeDefinition where
  id : String
  name : String
  description : String
  icon : Option String
  standalone : Bool
  drivers : Option (List String)
deriving DecidableEq, Repr, Inhabited

/-- The definition of a category with its children and task types. -/
inductive CategoryDefinition where
  | mk (id name description : String) (icon : Option String)
      (children : List CategoryDefinition) (types : List TypeDefinition)
deriving Repr, Inhabited

/-- The definition of a catalog. -/
structure CatalogDefinition where
  categories : List CategoryDefinition
deriving Repr, Inhabited

namespace TypeDefinition

/-- The task type that a definition in a category describes. -/
def type (d : TypeDefinition) (category : String) : TaskType where
  id := d.id
  name := d.name
  category := category
  description := d.description
  icon := d.icon
  standalone := d.standalone
  applicability := match d.drivers with
    | some ids => Applicability.ofList ids
    | none => .anyDriver

/-- The definition as a JSON object with all its fields. -/
def toJson (d : TypeDefinition) : Json :=
  .obj [
    ("id", .str d.id),
    ("name", .str d.name),
    ("description", .str d.description),
    ("icon", Json.ofOption .str d.icon),
    ("standalone", .bool d.standalone),
    ("drivers", Json.ofOption Json.texts d.drivers)]

end TypeDefinition

namespace CategoryDefinition

/-- The id of a defined category. -/
def id : CategoryDefinition → String
  | .mk id _ _ _ _ _ => id

/-- The name of a defined category. -/
def name : CategoryDefinition → String
  | .mk _ name _ _ _ _ => name

mutual

/-- What a definition under a parent adds to a catalog, in order. -/
def steps (parent : Option String) : CategoryDefinition → List Builder.Step
  | .mk id name description icon children types =>
    .category ⟨id, name, description, icon, parent⟩
      :: (stepsOf (some id) children ++ types.map fun t => .type (t.type id))

/-- What definitions under a parent add to a catalog, in order. -/
def stepsOf (parent : Option String) : List CategoryDefinition → List Builder.Step
  | [] => []
  | d :: ds => steps parent d ++ stepsOf parent ds

end

mutual

/-- The definition as a JSON object with all its fields. -/
def toJson : CategoryDefinition → Json
  | .mk id name description icon children types =>
    .obj [
      ("id", .str id),
      ("name", .str name),
      ("description", .str description),
      ("icon", Json.ofOption .str icon),
      ("children", .arr (toJsons children)),
      ("types", .arr (types.map TypeDefinition.toJson))]

/-- The definitions as JSON objects. -/
def toJsons : List CategoryDefinition → List Json
  | [] => []
  | d :: ds => toJson d :: toJsons ds

end

end CategoryDefinition

namespace CatalogDefinition

/-- The definition as a JSON object. -/
def toJson (d : CatalogDefinition) : Json :=
  .obj [("categories", .arr (CategoryDefinition.toJsons d.categories))]

/-- The catalog that a definition describes. -/
def build (d : CatalogDefinition) : Except CatalogError Catalog :=
  (Builder.empty.applyAll (CategoryDefinition.stepsOf none d.categories)).map Builder.build

end CatalogDefinition

end TaskDesk
