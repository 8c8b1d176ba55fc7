import TaskDesk.Manager.Tasks
import TaskDesk.Store.TaskDir

/-!
# The task manager of a project

A `Manager` holds the tasks of a project and saves them after every change, if it is backed
by a task file.  `Manager.mutate` makes one change: it changes a copy of the tasks, saves the
copy, and keeps it only if the save went well, so a change that fails leaves the tasks and
the task file as they were.  A `Manager.Action` is a change as a value, and `Manager.run` is
a run of them.
-/

namespace TaskDesk

/-- The tasks of a project; `isBacked` if there is a task file. -/
structure Manager where
  project : String
  tasks : Tasks
  isBacked : Bool
deriving Repr, Inhabited

/-- Why a manager did not do what it was asked for. -/
inductive ManagerError where
  | task (e : TaskError)
  | storage (e : StorageError)
deriving DecidableEq, Repr

/-- The text of an error. -/
def ManagerError.message : ManagerError → String
  | .task e => e.message
  | .storage e => "Failed to persist tasks: " ++ e.message

namespace Manager

/-- A manager without tasks that keeps them in memory only. -/
def new (project : String) : Manager :=
  ⟨project, Tasks.empty, false⟩

/-- The manager of the tasks in a task file. -/
def open? (project : String) (dir : TaskDir) : Except ManagerError Manager :=
  match dir.load with
  | .ok s => .ok ⟨project, Tasks.ofSnapshot s, true⟩
  | .error e => .error (.storage e)

/-- What comes out of a change: the manager and the directory of the task file afterwards,
the answer, and what others are told. -/
structure Reply (α : Type) where
  manager : Manager
  dir : TaskDir
  answer : Except ManagerError α
  events : List FolderEvent

/-- Makes a change, saves the tasks and then keeps them. -/
def mutate {α : Type} (m : Manager) (dir : TaskDir) (outcome : SaveOutcome)
    (change : Tasks → Except TaskError (Change α)) : Reply α :=
  match change m.tasks with
  | .error e => ⟨m, dir, .error (.task e), []⟩
  | .ok c =>
    if m.isBacked then
      match dir.save outcome c.tasks.snapshot with
      | (dir, .ok ()) => ⟨{ m with tasks := c.tasks }, dir, .ok c.value, c.events⟩
      | (dir, .error e) => ⟨m, dir, .error (.storage e), []⟩
    else ⟨{ m with tasks := c.tasks }, dir, .ok c.value, c.events⟩

/-- A change that a manager is asked for. -/
inductive Action where
  | createFolder (name : String)
  | createTask (id : String) (task : NewTask)
  | updateTask (id : String) (edits : List Record.Edit)
  | moveTask (id : String) (folder : Option String)
deriving Repr

/-- The change of an action. -/
def Action.change (project : String) (now : Timestamp) (a : Action) (s : Tasks) :
    Except TaskError (Change Unit) :=
  let forget {α : Type} (c : Change α) : Change Unit := ⟨c.tasks, (), c.events⟩
  match a with
  | .createFolder name => s.createFolder name
  | .createTask id task => (s.createTask project now id task).map forget
  | .updateTask id edits => (s.updateTask project now id fun r => r.run now edits).map forget
  | .moveTask id folder => (s.moveTask now id folder).map forget

/-- An action with the time at which it is done and the outcome of its save. -/
structure Step where
  action : Action
  now : Timestamp
  outcome : SaveOutcome

/-- A manager and the directory of its task file, and what others were told so far. -/
structure State where
  manager : Manager
  dir : TaskDir
  events : List FolderEvent

/-- The state after a step. -/
def State.apply (s : State) (step : Step) : State :=
  let r := s.manager.mutate s.dir step.outcome (step.action.change s.manager.project step.now)
  ⟨r.manager, r.dir, s.events ++ r.events⟩

/-- The state after steps, the first one first. -/
def State.run (s : State) (steps : List Step) : State :=
  steps.foldl State.apply s

end Manager

end TaskDesk
