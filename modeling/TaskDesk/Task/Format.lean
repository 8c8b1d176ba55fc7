import TaskDesk.Task.Record
import TaskDesk.Json.Reader
import TaskDesk.Json.Printer

/-!
# Task records as JSON

`Record.toJson` writes all fields of a record; of the time limit it keeps the whole seconds.
`Record.ofForm?` reads a record; the name, the type and the two times must be there.
-/

namespace TaskDesk

namespace Record

/-- The record as a JSON object. -/
def toJson (r : Record) : Json :=
  .obj [
    ("id", .str r.id),
    ("name", .str r.name),
    ("description", .str r.description),
    ("task_type", .str r.taskType),
    ("folder", Json.ofOption .str r.folder),
    ("max_execution_time", Json.nat r.limit.seconds),
    ("properties", r.properties.toJson),
    ("created_at", .str r.createdAt.text),
    ("updated_at", .str r.updatedAt.text)]

/-- The names of the fields of a record. -/
def fieldNames : List String :=
  ["id", "name", "description", "task_type", "folder", "max_execution_time", "properties",
    "created_at", "updated_at"]

/-- A point in time that a form holds. -/
def time? (f : Form) : Option Timestamp :=
  f.text?.bind Timestamp.read?

/-- The record that a form nested at most `levels` deep holds. -/
def ofForm? : Nat → Form → Option Record
  | 0, _ => none
  | levels + 1, f =>
    match f.shape? fieldNames with
    | some [id, some name, description, some taskType, folder, limit, properties,
        some createdAt, some updatedAt] => do
      let id ← Form.orElse "" Form.text? id
      let name ← name.text?
      let description ← Form.orElse "" Form.text? description
      let taskType ← taskType.text?
      let folder ← Form.orElse none (Form.option? Form.text?) folder
      let limit ← Form.orElse 0 Form.word? limit
      let properties ← Form.orElse Properties.empty (Properties.ofForm? levels) properties
      let createdAt ← time? createdAt
      let updatedAt ← time? updatedAt
      some ⟨id, name, description, taskType, folder, Span.ofSeconds limit, properties,
        createdAt, updatedAt⟩
    | _ => none

/-- The record that a JSON text holds. -/
def read? (text : String) : Option Record :=
  (Form.read? text).bind (ofForm? Form.depthLimit)

end Record

end TaskDesk
