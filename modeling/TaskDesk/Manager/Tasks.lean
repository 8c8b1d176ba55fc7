import TaskDesk.Store.Snapshot

/-!
# The tasks of a project and their changes

`Tasks` holds the task records of a project by their ids and its folders by their names.
The views `list`, `folderList` and `snapshot` are sorted, so they do not depend on the order
in which the tasks are held.  A change of the tasks is a function that answers with an error
or with a `Change`: the new tasks, a value, and the events that tell others about it.
-/

namespace TaskDesk

open TaskDesk.Text

/-- The records by their ids, and the folders by their names. -/
structure Tasks where
  records : List (String × Record)
  folders : List (String × Folder)
deriving Repr, Inhabited

/-- What others are told about folders. -/
inductive FolderEvent where
  | moved (id : String) (source target : Option String)
  | created (name : String)
deriving DecidableEq, Repr

/-- Why tasks were not changed. -/
inductive TaskError where
  | emptyName
  | duplicateName (name project : String)
  | notFound (id : String)
  | duplicateFolder (name : String)
deriving DecidableEq, Repr

/-- The text of an error. -/
def TaskError.message : TaskError → String
  | .emptyName => "Task name cannot be empty"
  | .duplicateName name project =>
    "Task '" ++ name ++ "' already exists in project '" ++ project ++ "'"
  | .notFound id => "Task '" ++ id ++ "' not found"
  | .duplicateFolder name => "Task folder '" ++ name ++ "' already exists"

/-- What a new task is to be like. -/
structure NewTask where
  taskType : String
  name : String
  description : String
  folder : Option String
  limit : Span
  properties : Properties
deriving Repr, Inhabited

/-- The tasks after a change, what the change answers, and what others are told. -/
structure Change (α : Type) where
  tasks : Tasks
  value : α
  events : List FolderEvent

namespace Tasks

/-- No tasks and no folders. -/
def empty : Tasks := ⟨[], []⟩

/-- The tasks of a snapshot; of records with one id and of folders with one name the last. -/
def ofSnapshot (s : Snapshot) : Tasks :=
  ⟨Keyed.ofList (s.tasks.map fun r => (r.id, r)),
    Keyed.ofList (s.folders.map fun f => (f.name, f))⟩

/-- The record under an id. -/
def task? (s : Tasks) (id : String) : Option Record :=
  Keyed.find? id s.records

/-- The record with a name. -/
def taskNamed? (s : Tasks) (name : String) : Option Record :=
  (Keyed.values s.records).find? fun r => r.name = name

/-- The folder with a name. -/
def folder? (s : Tasks) (name : String) : Option Folder :=
  Keyed.find? name s.folders

/-- All records, sorted by name. -/
def list (s : Tasks) : List Record :=
  sortOn Record.name (Keyed.values s.records)

/-- All folders, sorted by name. -/
def folderList (s : Tasks) : List Folder :=
  (sortOn Prod.fst s.folders).map Prod.snd

/-- All records sorted by id and all folders sorted by name. -/
def snapshot (s : Tasks) : Snapshot :=
  ⟨sortOn Record.id (Keyed.values s.records), s.folderList⟩

/-- Whether a name belongs to a record, one of a given id apart. -/
def isTaken (s : Tasks) (name : String) (except? : Option String) : Bool :=
  (Keyed.values s.records).any fun r => r.name = name && some r.id ≠ except?

/-- The folder that a destination stands for; a name without a folder stands for none. -/
def destination (s : Tasks) (name : Option String) : Option String :=
  name.filter fun n => n ≠ "" && Keyed.has n s.folders

/-- The tasks with a change of one folder. -/
def changeFolder (s : Tasks) (name : Option String) (f : Folder → Folder) : Tasks :=
  match name with
  | none => s
  | some name =>
    match s.folder? name with
    | none => s
    | some folder => { s with folders := Keyed.put name (f folder) s.folders }

/-- Makes an empty folder. -/
def createFolder (name : String) (s : Tasks) : Except TaskError (Change Unit) :=
  if Keyed.has name s.folders then .error (.duplicateFolder name)
  else
    .ok ⟨{ s with folders := Keyed.put name (Folder.new name) s.folders }, (), [.created name]⟩

/-- Makes a task under an unused id. -/
def createTask (project : String) (now : Timestamp) (id : String) (t : NewTask) (s : Tasks) :
    Except TaskError (Change Record) :=
  if t.name = "" then .error .emptyName
  else if s.isTaken t.name none then .error (.duplicateName t.name project)
  else
    let folder := s.destination t.folder
    let record : Record :=
      { Record.new now t.name t.taskType with
        id, folder
        description := t.description
        limit := t.limit
        properties := t.properties }
    let s := s.changeFolder folder fun f => f.add id
    .ok {
      tasks := { s with records := Keyed.put id record s.records }
      value := record
      events := if folder.isSome then [.moved id none folder] else [] }

/-- Changes the record of a task; the folder stays as it was, whatever the change does. -/
def updateTask (project : String) (now : Timestamp) (id : String) (f : Record → Record)
    (s : Tasks) : Except TaskError (Change Record) :=
  match s.task? id with
  | none => .error (.notFound id)
  | some current =>
    let updated := f current
    let updated :=
      if updated.folder = current.folder then updated else updated.setFolder now current.folder
    if updated.name = "" then .error .emptyName
    else if updated.name ≠ current.name ∧ s.isTaken updated.name (some id) then
      .error (.duplicateName updated.name project)
    else .ok ⟨{ s with records := Keyed.put id updated s.records }, updated, []⟩

/-- Moves a task into a folder, or out of its folder; answers whether the folder changed. -/
def moveTask (now : Timestamp) (id : String) (name : Option String) (s : Tasks) :
    Except TaskError (Change Bool) :=
  match s.task? id with
  | none => .error (.notFound id)
  | some record =>
    let target := s.destination name
    if target = record.folder then .ok ⟨s, false, []⟩
    else
      let moved := s.changeFolder record.folder fun f => f.remove id
      let moved := moved.changeFolder target fun f => f.add id
      .ok {
        tasks := { moved with records := Keyed.put id (record.setFolder now target) moved.records }
        value := true
        events := [.moved id record.folder target] }

end Tasks

end TaskDesk
