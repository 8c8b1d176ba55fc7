import TaskDesk.Task.Folder
import TaskDesk.Task.Format

/-!
# Snapshots of the tasks of a project

A `Snapshot` lists the task records and the folders of a project; it is what a task file
holds.  `Snapshot.text` writes it as JSON over several lines, and `Snapshot.read?` reads it.
-/

namespace TaskDesk

/-- The task records and the folders of a project. -/
structure Snapshot where
  tasks : List Record
  folders : List Folder
deriving Repr, Inhabited

namespace Snapshot

/-- No tasks and no folders. -/
def empty : Snapshot := ⟨[], []⟩

/-- The snapshot as a JSON object. -/
def toJson (s : Snapshot) : Json :=
  .obj [
    ("tasks", .arr (s.tasks.map Record.toJson)),
    ("folders", .arr (s.folders.map Folder.toJson))]

/-- The text of a task file. -/
def text (s : Snapshot) : String :=
  s.toJson.pretty

/-- The snapshot that a form holds; both lists may be left out. -/
def ofForm? (f : Form) : Option Snapshot :=
  match f.shape? ["tasks", "folders"] with
  | some [tasks, folders] => do
    let tasks ← Form.orElse [] (Form.list? (Record.ofForm? (Form.depthLimit - 2))) tasks
    let folders ← Form.orElse [] (Form.list? Folder.ofForm?) folders
    some ⟨tasks, folders⟩
  | _ => none

/-- The snapshot that the text of a task file holds. -/
def read? (text : String) : Option Snapshot :=
  (Form.read? text).bind ofForm?

end Snapshot

end TaskDesk
