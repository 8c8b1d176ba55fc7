import TaskDesk.Wizard.Basic

/-!
# Committing a wizard

A commit takes up to three steps, between which others may change the tasks.  `Wizard.begin`
judges the fields; `Wizard.write` makes the task, or updates it if the record is saved;
`Wizard.move` moves an updated task into the folder of the wizard.  A step that fails ends
the commit and leaves the record of the wizard as it was.  `Wizard.commit` does the steps at
once.  A commit that succeeds hands out a session, always the same for one task type.
-/

namespace TaskDesk

namespace Wizard

/-- Judges the fields; answers with the selected task type. -/
def begin (m : Manager) (w : Wizard) : Wizard × Except WizardError TaskType :=
  let w := settle m w
  match w.problem, w.taskType? with
  | some p, _ => (w, .error (.incomplete p))
  | none, none => (w, .error (.incomplete .missingTaskType))
  | none, some t => (w, .ok t)

/-- The time limit for the task; no limit has no length. -/
def taskLimit (w : Wizard) : Span :=
  w.limit.getD Span.zero

/-- What the new task is to be like. -/
def newTask (w : Wizard) (t : TaskType) : NewTask :=
  ⟨t.id, w.name, w.description, w.folder, w.taskLimit, w.properties⟩

/-- The record with the fields of the wizard, its folder apart. -/
def revise (w : Wizard) (t : TaskType) (now : Timestamp) (r : Record) : Record :=
  let r := r.setName now w.name
  let r := r.setDescription now w.description
  let r := r.setTaskType now t.id
  r.setLimit now w.taskLimit

/-- The wizard after a commit that left the given record, and the session. -/
def finish (w : Wizard) (t : TaskType) (r : Record) : Wizard × Session :=
  match Keyed.find? t.id w.sessions with
  | some s => ({ w with record := some r }, s)
  | none =>
    let s : Session := ⟨r.id, t, r.properties⟩
    ({ w with record := some r, sessions := Keyed.put t.id s w.sessions }, s)

/-- What a step of a commit comes to. -/
structure StepReply (α : Type) where
  wizard : Wizard
  manager : Manager
  dir : TaskDir
  answer : α
  events : List FolderEvent

/-- What is left to do after the task was written. -/
inductive Rest where
  | done (answer : Except WizardError Session)
  | move (r : Record)

/-- Makes the task under an unused id, or updates it if the record is saved. -/
def write (w : Wizard) (t : TaskType) (m : Manager) (dir : TaskDir) (outcome : SaveOutcome)
    (now : Timestamp) (id : String) : StepReply Rest :=
  match w.taskId? with
  | none =>
    let r := m.mutate dir outcome (Tasks.createTask m.project now id (w.newTask t))
    match r.answer with
    | .error e => ⟨w, r.manager, r.dir, .done (.error (.manager e)), r.events⟩
    | .ok record =>
      let (w, s) := w.finish t record
      ⟨w, r.manager, r.dir, .done (.ok s), r.events⟩
  | some saved =>
    let r := m.mutate dir outcome (Tasks.updateTask m.project now saved (w.revise t now))
    match r.answer with
    | .error e => ⟨w, r.manager, r.dir, .done (.error (.manager e)), r.events⟩
    | .ok record =>
      if record.folder = w.folder then
        let (w, s) := w.finish t record
        ⟨w, r.manager, r.dir, .done (.ok s), r.events⟩
      else ⟨w, r.manager, r.dir, .move record, r.events⟩

/-- Moves the updated task into the folder of the wizard. -/
def move (w : Wizard) (t : TaskType) (record : Record) (m : Manager) (dir : TaskDir)
    (outcome : SaveOutcome) (now : Timestamp) : StepReply (Except WizardError Session) :=
  let r := m.mutate dir outcome (Tasks.moveTask now record.id w.folder)
  match r.answer with
  | .error e => ⟨w, r.manager, r.dir, .error (.manager e), r.events⟩
  | .ok moved =>
    match if moved then r.manager.tasks.task? record.id else some record with
    | none => ⟨w, r.manager, r.dir, .error (.manager (.task (.notFound record.id))), r.events⟩
    | some record =>
      let (w, s) := w.finish t record
      ⟨w, r.manager, r.dir, .ok s, r.events⟩

/-- Does all steps of a commit; `first` and `second` are the outcomes of the saves. -/
def commit (w : Wizard) (m : Manager) (dir : TaskDir) (first second : SaveOutcome)
    (now : Timestamp) (id : String) : StepReply (Except WizardError Session) :=
  match w.begin m with
  | (w, .error e) => ⟨w, m, dir, .error e, []⟩
  | (w, .ok t) =>
    let written := w.write t m dir first now id
    match written.answer with
    | .done answer => { written with answer }
    | .move record =>
      let moved := written.wizard.move t record written.manager written.dir second now
      { moved with events := written.events ++ moved.events }

end Wizard

end TaskDesk
