import TaskDesk.Text.Order
import TaskDesk.Json.Form

/-!
# Folders of tasks

A `Folder` is a name and a set of task ids, held as a strictly increasing list.
-/

namespace TaskDesk

open TaskDesk.Text

/-- A named set of task ids. -/
structure Folder where
  name : String
  tasks : List String
deriving DecidableEq, Repr, Inhabited

namespace Folder

/-- A folder without tasks. -/
def new (name : String) : Folder := ⟨name, []⟩

/-- Whether a task is in the folder. -/
def contains (f : Folder) (id : String) : Bool :=
  f.tasks.contains id

/-- The folder with a task. -/
def add (f : Folder) (id : String) : Folder :=
  { f with tasks := insertName id f.tasks }

/-- The folder without a task. -/
def remove (f : Folder) (id : String) : Folder :=
  { f with tasks := eraseName id f.tasks }

/-- Whether the folder has no tasks. -/
def isEmpty (f : Folder) : Bool :=
  f.tasks.isEmpty

@[simp]
theorem mem_tasks_add {f : Folder} {id i : String} :
  i ∈ (f.add id).tasks ↔ i = id ∨ i ∈ f.tasks
  := mem_insertName

@[simp]
theorem mem_tasks_remove {f : Folder} {id i : String} :
  i ∈ (f.remove id).tasks ↔ i ∈ f.tasks ∧ i ≠ id
  := mem_eraseName

/-- The folder as a JSON object. -/
def toJson (f : Folder) : Json :=
  .obj [("name", .str f.name), ("tasks", Json.texts f.tasks)]

/-- The folder that a form holds; its tasks may be left out and may repeat. -/
def ofForm? (f : Form) : Option Folder :=
  match f.shape? ["name", "tasks"] with
  | some [some name, tasks] => do
    let name ← name.text?
    let tasks ← Form.orElse [] (Form.list? Form.text?) tasks
    some ⟨name, nameSet tasks⟩
  | _ => none

end Folder

end TaskDesk
