import TaskDesk.Manager.Basic
import TaskDesk.Project.Basic

/-!
# The task wizard

A `Wizard` collects what a new task is to be like, or what is to change about a task.  After
every effective operation it judges its fields against the tasks of the manager, which
settles it as valid or as invalid with the first `Problem`.  Picking another task type than
before takes away the properties that were entered.  Operations tell about changes of the
selection by a list of `WizardEvent`s.
-/

namespace TaskDesk

/-- What is wrong with the fields of a wizard. -/
inductive Problem where
  | emptyName
  | duplicateName (name project : String)
  | missingTaskType
deriving DecidableEq, Repr

/-- The text of a problem. -/
def Problem.message : Problem → String
  | .emptyName => "enter a task name"
  | .duplicateName name project =>
    "task '" ++ name ++ "' already exists in project '" ++ project ++ "'"
  | .missingTaskType => "select a task type"

/-- Why a wizard did not do what it was asked for. -/
inductive WizardError where
  | incomplete (p : Problem)
  | unknownCategory (id : String)
  | unknownTaskType (id : String)
  | manager (e : ManagerError)
deriving DecidableEq, Repr

/-- The text of an error. -/
def WizardError.message : WizardError → String
  | .incomplete p => "Task wizard is not complete: " ++ p.message
  | .unknownCategory id => "Unknown task category: " ++ id
  | .unknownTaskType id => "Unknown task type: " ++ id
  | .manager e => e.message

/-- What a wizard tells about its selection: a category without a type, a type with its
category, or that the properties were taken away because of a type. -/
inductive WizardEvent where
  | category (id : String)
  | type (category id : String)
  | reset (type : String)
deriving DecidableEq, Repr

/-- The configuration of a task that a commit hands out. -/
structure Session where
  taskId : String
  taskType : TaskType
  properties : Properties

namespace Wizard

/-- Whether a wizard makes a new task or edits one. -/
inductive Mode where
  | create
  | edit
deriving DecidableEq, Repr

/-- Where a wizard stands. -/
inductive State where
  | empty
  | categorySelected
  | typeSelected
  | valid
  | invalid
deriving DecidableEq, Repr

end Wizard

/-- The fields of a wizard.  The record is the one that is edited, or the one that the first
commit made; a session is kept for each task type that was committed. -/
structure Wizard where
  catalog : Catalog
  mode : Wizard.Mode
  filtering : Bool
  record : Option Record
  category : Option String
  taskType : Option String
  name : String
  description : String
  folder : Option String
  limit : Option Span
  defaultLimit : Span
  properties : Properties
  state : Wizard.State
  problem : Option Problem
  sessions : List (String × Session)

namespace Wizard

/-- The time limit that is offered if none is configured. -/
def standardLimit : Span := Span.ofSeconds 3600

/-- A wizard for a new task. -/
def create (catalog : Catalog) : Wizard where
  catalog := catalog
  mode := .create
  filtering := true
  record := none
  category := none
  taskType := none
  name := ""
  description := ""
  folder := none
  limit := none
  defaultLimit := standardLimit
  properties := Properties.empty
  state := .empty
  problem := none
  sessions := []

/-- A wizard for a record, whose type must be in the catalog. -/
def edit (catalog : Catalog) (r : Record) : Except WizardError Wizard :=
  match catalog.type? r.taskType with
  | none => .error (.unknownTaskType r.taskType)
  | some t =>
    .ok { create catalog with
      mode := .edit
      record := some r
      category := some t.category
      taskType := some t.id
      name := r.name
      description := r.description
      folder := r.folder
      limit := if r.limit.isZero then none else some r.limit
      properties := r.properties
      state := .typeSelected }

/-- The wizard with a folder selected in advance. -/
def withFolder (w : Wizard) (folder : Option String) : Wizard :=
  { w with folder }

/-- The wizard with or without filtering of what it offers. -/
def withFiltering (w : Wizard) (filtering : Bool) : Wizard :=
  { w with filtering }

/-- The wizard with another limit to offer. -/
def withDefaultLimit (w : Wizard) (defaultLimit : Span) : Wizard :=
  { w with defaultLimit }

/-- The selected category. -/
def category? (w : Wizard) : Option Category :=
  w.category.bind w.catalog.category?

/-- The selected task type. -/
def taskType? (w : Wizard) : Option TaskType :=
  w.taskType.bind w.catalog.type?

/-- Whether the record is saved. -/
def isSaved (w : Wizard) : Bool :=
  w.record.any Record.isSaved

/-- The id of the record, if it is saved. -/
def taskId? (w : Wizard) : Option String :=
  (w.record.map Record.id).filter fun id => id ≠ ""

/-- Whether a new task was made. -/
def isCreated (w : Wizard) : Bool :=
  w.mode = .create && w.record.isSome

/-- Whether the name may be changed: not if a saved task is edited. -/
def nameEditable (w : Wizard) : Bool :=
  !(w.mode = .edit && w.isSaved)

/-- Whether the wizard may be committed as it stands. -/
def canProceed (w : Wizard) : Bool :=
  match w.state with
  | .valid => true
  | .typeSelected => w.mode = .edit
  | _ => false

/-- The part of the catalog that is offered. -/
def tree (w : Wizard) (sources : DataSources) : List Branch :=
  w.catalog.filtered (sources.filterContext w.filtering)

/-- The first thing wrong with the fields. -/
def validate (m : Manager) (w : Wizard) : Option Problem :=
  if w.name = "" then some .emptyName
  else if !w.isSaved && (m.tasks.taskNamed? w.name).isSome then
    some (.duplicateName w.name m.project)
  else if w.taskType.isNone then some .missingTaskType
  else none

/-- The wizard with its fields judged. -/
def settle (m : Manager) (w : Wizard) : Wizard :=
  let problem := w.validate m
  { w with problem, state := if problem.isNone then .valid else .invalid }

/-- Sets the name; answers whether it may be set. -/
def setName (m : Manager) (w : Wizard) (name : String) : Wizard × Bool :=
  if w.nameEditable then (settle m { w with name }, true) else (w, false)

/-- Sets the description. -/
def setDescription (m : Manager) (w : Wizard) (description : String) : Wizard :=
  settle m { w with description }

/-- Sets the folder; the empty name is no folder. -/
def setFolder (m : Manager) (w : Wizard) (folder : Option String) : Wizard :=
  settle m { w with folder := folder.filter fun f => f ≠ "" }

/-- Sets the time limit; a limit without length takes the one that is offered. -/
def setLimit (m : Manager) (w : Wizard) (limit : Option Span) : Wizard :=
  settle m { w with limit := limit.map fun d => if d.isZero then w.defaultLimit else d }

/-- Puts a value under a name of the properties; the fields are not judged. -/
def putProperty (w : Wizard) (key : String) (value : Json) : Wizard :=
  { w with properties := w.properties.insert key value }

/-- What a selection comes to: the wizard, whether it changed, and what others are told. -/
structure Selection where
  wizard : Wizard
  changed : Bool
  events : List WizardEvent

/-- Selects a category and no task type. -/
def selectCategory (m : Manager) (w : Wizard) (id : String) : Except WizardError Selection :=
  if (w.catalog.category? id).isNone then .error (.unknownCategory id)
  else if w.category = some id ∧ w.taskType = none then .ok ⟨w, false, []⟩
  else
    .ok ⟨settle m { w with category := some id, taskType := none, state := .categorySelected },
      true, [.category id]⟩

/-- Whether selecting a task type takes the properties away: the record is of another type, or
without a record another type was selected before. -/
def changesType (w : Wizard) (id : String) : Bool :=
  match w.record with
  | some r => r.taskType ≠ id
  | none => w.taskType.isSome

/-- Selects a task type and its category. -/
def selectType (m : Manager) (w : Wizard) (id : String) : Except WizardError Selection :=
  match w.catalog.type? id with
  | none => .error (.unknownTaskType id)
  | some t =>
    if w.taskType = some id then .ok ⟨w, false, []⟩
    else
      let resets := w.changesType id && !w.properties.isEmpty
      let selected := { w with
        category := some t.category
        taskType := some id
        state := .typeSelected
        properties := if resets then Properties.empty else w.properties }
      .ok ⟨settle m selected, true, .type t.category id :: if resets then [.reset id] else []⟩

end Wizard

end TaskDesk
