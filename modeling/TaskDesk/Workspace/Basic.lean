import TaskDesk.Project.Mailbox
import TaskDesk.Target.Basic
import TaskDesk.Wizard.Action
import TaskDesk.Wizard.Commit

/-!
# A project at work

A `Workspace` is a project with what goes on in it: its task manager with the directory of the
task file, the wizards and bindings that are open, and the mailboxes of those who are told
about folders and about selections.  The manager can be opened anew; a wizard keeps the one
that it was opened with, so all of them are kept, and the last one is the current one.
-/

namespace TaskDesk

/-- A wizard with the place of its manager and the mailbox of its listener. -/
structure OpenWizard where
  wizard : Wizard
  manager : Nat
  mail : Mailbox WizardEvent

/-- A project with what goes on in it; `isBacked` if there is a task file in the directory. -/
structure Workspace where
  catalog : Catalog
  project : Project
  isBacked : Bool
  managers : List Manager
  dir : TaskDir
  mail : Mailbox FolderEvent
  wizards : List (String × OpenWizard)
  bindings : List (String × Binding)

namespace Workspace

/-- The manager for a project and a directory. -/
def manager? (project : Project) (isBacked : Bool) (dir : TaskDir) : Except ManagerError Manager :=
  if isBacked then Manager.open? project.name dir else .ok (Manager.new project.name)

/-- A workspace where nothing went on yet; without a task file there is no directory. -/
def open? (catalog : Catalog) (project : Project) (isBacked : Bool) (dir : TaskDir) :
    Except ManagerError Workspace :=
  let dir := if isBacked then dir else TaskDir.removed
  (manager? project isBacked dir).map fun m =>
    ⟨catalog, project, isBacked, [m], dir, .empty folderEventCapacity, [], []⟩

/-- The place of the current manager. -/
def current (s : Workspace) : Nat := s.managers.length - 1

/-- The manager at a place. -/
def managerAt (s : Workspace) (i : Nat) : Manager :=
  (s.managers[i]?).getD (Manager.new s.project.name)

/-- The current manager. -/
def manager (s : Workspace) : Manager := s.managerAt s.current

/-- The workspace with what a manager at a place has changed; only the current one is listened
to. -/
def keep (s : Workspace) (i : Nat) (m : Manager) (dir : TaskDir) (events : List FolderEvent) :
    Workspace :=
  { s with
    managers := s.managers.set i m
    dir := dir
    mail := if i = s.current then s.mail.tell events else s.mail }

/-- Makes a change of the tasks. -/
def change {α : Type} (f : String → Tasks → Except TaskError (Change α)) (s : Workspace) :
    Except ManagerError α × Workspace :=
  let r := s.manager.mutate s.dir s.dir.outcome (f s.manager.project)
  (r.answer, s.keep s.current r.manager r.dir r.events)

/-- Opens the manager anew; the directory of a task file is made if it is not there. -/
def reopen (s : Workspace) : Except ManagerError Unit × Workspace :=
  let dir := if s.isBacked then s.dir.made else s.dir
  match manager? s.project s.isBacked dir with
  | .error e => (.error e, { s with dir })
  | .ok m =>
    (.ok (), { s with dir, managers := s.managers ++ [m], mail := .empty folderEventCapacity })

/-- Takes the directory away; answers whether it was there. -/
def breakStore (s : Workspace) : Bool × Workspace :=
  (s.dir.isThere, { s with dir := TaskDir.removed })

/-- Makes the directory; answers that it is there. -/
def repairStore (s : Workspace) : Bool × Workspace :=
  (true, { s with dir := s.dir.made })

/-- The workspace with other data sources. -/
def withSources (s : Workspace) (sources : DataSources) : Workspace :=
  { s with project := { s.project with sources } }

/-- The wizard in a slot. -/
def wizard? (s : Workspace) (slot : String) : Option OpenWizard :=
  Keyed.find? slot s.wizards

/-- Puts a wizard in a slot. -/
def openWizard (slot : String) (w : Wizard) (s : Workspace) : Workspace :=
  { s with wizards := Keyed.put slot ⟨w, s.current, .empty wizardEventCapacity⟩ s.wizards }

/-- Does an action with the wizard in a slot. -/
def act (slot : String) (a : Wizard.Action) (s : Workspace) :
    Option (Except WizardError Bool) × Workspace :=
  match s.wizard? slot with
  | none => (none, s)
  | some o =>
    let e := o.wizard.act (s.managerAt o.manager) a
    let o := { o with wizard := e.wizard, mail := o.mail.tell e.events }
    (some e.answer, { s with wizards := Keyed.put slot o s.wizards })

/-- Commits the wizard in a slot. -/
def commit (slot : String) (now : Timestamp) (id : String) (s : Workspace) :
    Option (Except WizardError Session) × Workspace :=
  match s.wizard? slot with
  | none => (none, s)
  | some o =>
    let r := o.wizard.commit (s.managerAt o.manager) s.dir s.dir.outcome s.dir.outcome now id
    let s := s.keep o.manager r.manager r.dir r.events
    (some r.answer, { s with wizards := Keyed.put slot { o with wizard := r.wizard } s.wizards })

/-- The workspace after those who are told about folders, and about the wizard in a slot, have
looked into their mailboxes. -/
def readMail (slot : Option String) (s : Workspace) : Workspace :=
  let s := { s with mail := s.mail.read }
  match slot.bind fun slot => (s.wizard? slot).map fun o => (slot, o) with
  | none => s
  | some (slot, o) => { s with wizards := Keyed.put slot { o with mail := o.mail.read } s.wizards }

/-- The binding in a slot. -/
def binding (s : Workspace) (slot : String) : Binding :=
  (Keyed.find? slot s.bindings).getD (Binding.new Resolver.scriptDatabase)

/-- Puts a binding in a slot. -/
def bind (slot : String) (b : Binding) (s : Workspace) : Workspace :=
  { s with bindings := Keyed.put slot b s.bindings }

/-- Stores the properties of a task anew. -/
def setProperties (now : Timestamp) (id : String) (p : Properties) (s : Workspace) :
    Except ManagerError Record × Workspace :=
  s.change fun project => Tasks.updateTask project now id fun r => r.setProperties now p

end Workspace

end TaskDesk
