import TaskDesk.CommandLine.Command
import TaskDesk.CommandLine.Failure
import TaskDesk.Readiness.Dispatcher
import TaskDesk.Task.Format
import TaskDesk.Wizard.Commit
import TaskDesk.Yaml.Printer

/-!
# What commands do

A `Desk` is what a command works on: the settings, the catalog, and the manager of the tasks
with the directory of the task file.  A command is done in the monad `Work`; what it has
changed before it fails stays changed.  `Command.perform` does a command and answers with what
is shown.
-/

namespace TaskDesk.CommandLine

open TaskDesk.Text

/-- What a command works on; `freshId` is an unused id. -/
structure Desk where
  settings : Settings
  catalog : Catalog
  manager : Manager
  dir : TaskDir
  now : Timestamp
  freshId : String

/-- Doing a part of a command. -/
abbrev Work := ExceptT Failure (StateM Desk)

/-- What is shown as one line. -/
def line (s : String) : String := s ++ "\n"

/-- A failure unless there is a value. -/
def need {α : Type} (f : Failure) : Option α → Work α
  | some a => pure a
  | none => throw f

/-- A failure with its cause unless there is a value. -/
def check {ε α : Type} (cause : ε → Cause) : Except ε α → Work α
  | .ok a => pure a
  | .error e => throw (Failure.of (cause e))

namespace Desk

/-- The objects of the project; to look one up takes no time. -/
def index (d : Desk) : ObjectIndex :=
  ⟨d.settings.project.objects, 0, none⟩

/-- The data sources, if they are known, or before. -/
def sources (d : Desk) (loaded : Bool) : DataSources :=
  if loaded then DataSources.pending.populate d.settings.project.sources else .pending

/-- The poll for the data sources. -/
def poll (d : Desk) : Poll :=
  { interval := d.settings.poll.interval, deadline := d.settings.poll.deadline }

/-- The time when the data sources are known. -/
def connectTime (d : Desk) : Nat :=
  waitTime d.settings.project.connectDelay

/-- A number of rounds in which a poll for the data sources ends. -/
def rounds (d : Desk) : Nat :=
  d.connectTime / d.poll.wait + 2

/-- Whether waiting for the data sources succeeds. -/
def waits (d : Desk) : Bool :=
  (d.poll.run clockRange (fun _ => false) (d.poll.readyFrom d.connectTime) d.rounds).acted

/-- A wizard with its settings. -/
def prepare (d : Desk) (w : Wizard) : Wizard :=
  (w.withFiltering d.settings.wizard.filtering).withDefaultLimit d.settings.defaultLimit

end Desk

/-- The record with a name. -/
def findTask (name : String) : Work Record := do
  let d ← get
  need (.saying ("no task named '" ++ name ++ "' in project '" ++ d.settings.project.name ++ "'"))
    (d.manager.tasks.taskNamed? name)

/-- Makes a change of the tasks. -/
def change {α : Type} (f : Tasks → Except TaskError (Change α)) : Work α := do
  let d ← get
  let r := d.manager.mutate d.dir d.dir.outcome f
  set { d with manager := r.manager, dir := r.dir }
  check .manager r.answer

/-- Makes a folder if it is named and not there. -/
def ensureFolder (name : Option String) : Work Unit := do
  let d ← get
  match name with
  | none => pure ()
  | some name =>
    if name ≠ "" ∧ (d.manager.tasks.folder? name).isNone then change (Tasks.createFolder name)

/-- Selects a task type in a wizard. -/
def selectType (w : Wizard) (id : String) : Work Wizard := do
  let s ← check .wizard (w.selectType (← get).manager id)
  pure s.wizard

/-- Commits a wizard and tells what was done to the task. -/
def commit (done : String) (w : Wizard) : Work String := do
  let d ← get
  let r := w.commit d.manager d.dir d.dir.outcome d.dir.outcome d.now d.freshId
  set { d with manager := r.manager, dir := r.dir }
  let s ← check .wizard r.answer
  pure (line (done ++ " task " ++ s.taskId ++ " (" ++ s.taskType.name ++ ")"))

mutual

/-- The lines of a branch at a depth. -/
def branchText (depth : Nat) : Branch → String
  | .mk c kids types =>
    let indent := String.ofList (List.replicate (2 * depth) ' ')
    line (indent ++ c.name ++ " [" ++ c.id ++ "]") ++ branchesText (depth + 1) kids
      ++ String.join (types.map fun t => line (indent ++ "  - " ++ t.name ++ " (" ++ t.id ++ ")"))

/-- The lines of branches at a depth. -/
def branchesText (depth : Nat) : List Branch → String
  | [] => ""
  | b :: bs => branchText depth b ++ branchesText depth bs

end

/-- The forest of the task types that are offered. -/
def treeText (d : Desk) (all : Bool) : String :=
  let filtering := !all && d.settings.wizard.filtering
  match d.catalog.filtered ((d.sources (filtering && d.waits)).filterContext filtering) with
  | [] => line "(no task types available)"
  | tree => branchesText 0 tree

/-- The line of a record in the list of tasks. -/
def recordLine (r : Record) : String :=
  let limit := if r.limit.isZero then "no limit" else natText r.limit.seconds ++ "s"
  line (String.intercalate "\t"
    [r.id, r.name, r.taskType, r.folder.getD "-", limit, r.updatedAt.minuteText])

/-- The list of tasks. -/
def listText (d : Desk) : String :=
  match d.manager.tasks.list with
  | [] => line "(no tasks)"
  | records => String.join (records.map recordLine)

/-- Creates a task. -/
def createTask (name taskType description : String) (folder : Option String) (limit : Option Nat) :
    Work String := do
  ensureFolder folder
  let d ← get
  let m := d.manager
  let w := (d.prepare (Wizard.create d.catalog)).setFolder m folder
  let w := (w.setName m name).1.setDescription m description
  let w := match limit with
    | none => w
    | some n => w.setLimit m (some (Span.ofSeconds n))
  let w ← selectType w taskType
  if w.canProceed then commit "created" w
  else
    throw (.saying ((w.problem.map Problem.message).getD "task wizard is not complete"))

/-- Edits a task. -/
def editTask (name : String) (taskType description folder : Option String)
    (limit : Option (Option Nat)) : Work String := do
  let record ← findTask name
  ensureFolder folder
  let d ← get
  let m := d.manager
  let w := d.prepare (← check .wizard (Wizard.edit d.catalog record))
  let w ← match taskType with
    | none => pure w
    | some id => selectType w id
  let w := match description with
    | none => w
    | some text => w.setDescription m text
  let w := match folder with
    | none => w
    | some name => w.setFolder m (some name)
  let w := match limit with
    | none => w
    | some n => w.setLimit m (n.map Span.ofSeconds)
  commit "updated" w

/-- The object that a task is to be bound to; none if the lookup was cancelled. -/
def targetFor (record : Record) (target : Option String) : Work (Option BoundObject) := do
  let index := (← get).index
  match target with
  | some id =>
    let o ← need (.saying ("object '" ++ id ++ "' not found")) (← check .lookup (index.find? id))
    pure (some o)
  | none =>
    match (Resolver.scriptDatabase.load index record.properties none).2 with
    | .ok (.resolved o) => pure (some o)
    | .ok .cancelled => pure none
    | .error e => throw ((Failure.of (.resolve e)).within "load bound target")

/-- Binds a task to an object. -/
def bindTask (name : String) (target : Option String) : Work String := do
  let record ← findTask name
  match ← targetFor record target with
  | none => pure (line "target lookup cancelled, task unchanged")
  | some o => do
    let d ← get
    let binding := (Binding.new .scriptDatabase).setTarget (some o)
    let (_, properties) := binding.save d.index record.properties
    let _ ← change (Tasks.updateTask d.manager.project d.now record.id
      fun r => r.setProperties d.now properties)
    pure (line ("task '" ++ record.name ++ "' bound to " ++ o.name ++ " (" ++ o.id ++ ")"))

/-- Hands a task on when the data sources are known. -/
def runTask (name : String) : Work String := do
  let record ← findTask name
  let d ← get
  let start := (Dispatcher.new d.poll.interval d.poll.deadline).apply (.schedule 0 record)
  let finding (_ n _ : Nat) : Finding := d.poll.readyFrom d.connectTime n
  let done := Dispatcher.play finding d.rounds [] start
  let checks := ((done.jobs.head?.map fun job => job.status.checks).getD 0)
  match done.queue with
  | r :: _ =>
    pure (line ("dispatched " ++ r.taskId ++ " '" ++ r.taskName ++ "' (" ++ r.taskType ++ ") after "
      ++ natText checks ++ " checks, limit " ++ natText r.limit.seconds ++ "s"))
  | [] => throw (.saying ("execution context not ready after " ++ natText checks ++ " checks"))

/-- Does a command and answers with what is shown. -/
def Command.perform : Command → Work String
  | .tree all => do pure (treeText (← get) all)
  | .list => do pure (listText (← get))
  | .describe name => do pure (← findTask name).toJson.yaml
  | .create name taskType description folder limit =>
    createTask name taskType description folder limit
  | .edit name taskType description folder limit => editTask name taskType description folder limit
  | .bind name target => bindTask name target
  | .run name => runTask name

end TaskDesk.CommandLine
