import TaskDesk.Catalog.Definition
import TaskDesk.Json.Reader
import TaskDesk.Yaml.Shape

/-!
# Reading catalog definitions

A catalog definition is read from a JSON text, from a JSON value, or from the one document of a
YAML text.  A category and a task type must have an id and a name; all other fields may be left
out.  A text must not be nested too deep, where every object and every list counts; for a JSON
value there is no such limit.
-/

namespace TaskDesk

namespace TypeDefinition

/-- The names of the fields of a task type. -/
def fieldNames : List String :=
  ["id", "name", "description", "icon", "standalone", "drivers"]

/-- The definition of a task type that a form nested at most `levels` deep holds. -/
def ofForm? : Nat → Form → Option TypeDefinition
  | 0, _ => none
  | levels + 1, f =>
    match f.shape? fieldNames with
    | some [some id, some name, description, icon, standalone, drivers] => do
      let id ← id.text?
      let name ← name.text?
      let description ← Form.orElse "" Form.text? description
      let icon ← Form.orElse none (Form.option? Form.text?) icon
      let standalone ← Form.orElse false Form.bool? standalone
      let list := Form.nested? (fun _ => Form.text?) levels
      let drivers ← Form.orElse none (Form.option? list) drivers
      some ⟨id, name, description, icon, standalone, drivers⟩
    | _ => none

open Yaml in
/-- The definition of a task type that a node holds, its collections at most `levels` deep. -/
def ofNode (levels : Nat) (n : Node) : Node.Read TypeDefinition := do
  match levels, ← n.readShape fieldNames with
  | levels + 1, [some id, some name, description, icon, standalone, drivers] => do
    let id ← id.readText
    let name ← name.readText
    let description ← Node.orElse "" Node.readText description
    let icon ← Node.orElse none (Node.readOption Node.readText) icon
    let standalone ← Node.orElse false Node.readBool standalone
    let list (n : Node) : Node.Read (List String) :=
      if levels = 0 then failure else n.readList Node.readText
    let drivers ← Node.orElse none (Node.readOption list) drivers
    pure ⟨id, name, description, icon, standalone, drivers⟩
  | _, _ => failure

end TypeDefinition

namespace CategoryDefinition

/-- The names of the fields of a category. -/
def fieldNames : List String :=
  ["id", "name", "description", "icon", "children", "types"]

/-- The definition of a category that a form nested at most `levels` deep holds. -/
def ofForm? : Nat → Form → Option CategoryDefinition
  | 0, _ => none
  | levels + 1, f =>
    match f.shape? fieldNames with
    | some [some id, some name, description, icon, children, types] => do
      let id ← id.text?
      let name ← name.text?
      let description ← Form.orElse "" Form.text? description
      let icon ← Form.orElse none (Form.option? Form.text?) icon
      let list (f : Form) : Option (List CategoryDefinition) :=
        match levels with
        | 0 => none
        | levels + 1 => f.list? (ofForm? levels)
      let children ← Form.orElse [] list children
      let types ← Form.orElse [] (Form.nested? TypeDefinition.ofForm? levels) types
      some (.mk id name description icon children types)
    | _ => none

open Yaml in
/-- The definition of a category that a node holds; a category and its list of children are
two levels of the at most `2 * levels + 1` that are left. -/
def ofNode : Nat → Node → Node.Read CategoryDefinition
  | 0, _ => failure
  | levels + 1, n => do
    match ← n.readShape fieldNames with
    | [some id, some name, description, icon, children, types] => do
      let id ← id.readText
      let name ← name.readText
      let description ← Node.orElse "" Node.readText description
      let icon ← Node.orElse none (Node.readOption Node.readText) icon
      let children ← Node.orElse [] (Node.readList (ofNode levels)) children
      let types ← Node.orElse [] (Node.readList (TypeDefinition.ofNode (2 * levels))) types
      pure (.mk id name description icon children types)
    | _ => failure

end CategoryDefinition

namespace CatalogDefinition

/-- The definition that a form nested at most `levels` deep holds. -/
def ofForm? : Nat → Form → Option CatalogDefinition
  | 0, _ => none
  | levels + 1, f =>
    match f.shape? ["categories"] with
    | some [categories] =>
      let list := Form.nested? CategoryDefinition.ofForm? levels
      (Form.orElse [] list categories).map fun ds => ⟨ds⟩
    | _ => none

/-- The definition that a JSON text holds. -/
def read? (text : String) : Option CatalogDefinition :=
  (Form.read? text).bind (ofForm? Form.depthLimit)

/-- The definition that a JSON value holds, given by its form, however deep that is nested. -/
def ofValue? (f : Form) : Option CatalogDefinition :=
  ofForm? f.depth f

/-- The definition that a node holds. -/
def ofNode (n : Yaml.Node) : Yaml.Node.Read CatalogDefinition := do
  match ← n.readShape ["categories"] with
  | [categories] =>
    let category := CategoryDefinition.ofNode (Yaml.Node.depthLimit / 2 - 1)
    return ⟨← Yaml.Node.orElse [] (Yaml.Node.readList category) categories⟩
  | _ => failure

/-- The definition that a YAML text holds; an empty text defines no categories. -/
def ofYaml (text : String) : Except CatalogError CatalogDefinition :=
  match Yaml.Document.ofText? text with
  | some none => .ok ⟨[]⟩
  | some (some d) =>
    match d.read? ofNode with
    | some d => .ok d
    | none => .error .definition
  | none => .error .definition

end CatalogDefinition

end TaskDesk
