import TaskDesk.Files.Path
import TaskDesk.Project.Basic
import TaskDesk.Settings.Environment
import TaskDesk.Time.Span

/-!
# Settings of the program

`Settings` holds what can be configured: the wizard, the polls, where tasks are stored, the
catalog, and the project.  `Settings.ofSetting?` reads it from a setting; everything has a
default.  `Settings.dataDir` is the directory for tasks: the configured one, or one among
the user data that the environment names.
-/

namespace TaskDesk

/-- Settings of the wizard. -/
structure WizardSettings where
  filtering : Bool
  defaultSeconds : Nat
deriving DecidableEq, Repr, Inhabited

/-- Settings of polls, in milliseconds. -/
structure PollSettings where
  interval : Nat
  deadline : Option Nat
deriving DecidableEq, Repr, Inhabited

/-- Settings of the project. -/
structure ProjectSettings where
  name : String
  sources : List DataSource
  objects : List BoundObject
  connectDelay : Nat
deriving DecidableEq, Repr, Inhabited

/-- All settings. -/
structure Settings where
  wizard : WizardSettings
  poll : PollSettings
  storage : Option String
  catalogPath : Option String
  project : ProjectSettings
deriving DecidableEq, Repr, Inhabited

open Setting in
/-- Settings of the wizard that a setting holds. -/
def WizardSettings.ofSetting? (s : Setting) : Option WizardSettings :=
  match s.shape? ["filter_task_types", "default_max_execution_time_secs"] with
  | some [filtering, seconds] => do
    some ⟨← orElse true bool? filtering, ← orElse 3600 word? seconds⟩
  | _ => none

open Setting in
/-- Settings of polls that a setting holds. -/
def PollSettings.ofSetting? (s : Setting) : Option PollSettings :=
  match s.shape? ["interval_ms", "deadline_ms"] with
  | some [interval, deadline] => do
    some ⟨← orElse 100 word? interval, ← orElse none (option? word?) deadline⟩
  | _ => none

open Setting in
/-- The directory for tasks that a setting holds. -/
def storageOfSetting? (s : Setting) : Option (Option String) :=
  match s.shape? ["data_dir"] with
  | some [dir] => orElse none (option? text?) dir
  | _ => none

/-- The data source that a setting holds. -/
def DataSource.ofSetting? (s : Setting) : Option DataSource :=
  match s.shape? ["id", "name", "driver"] with
  | some [some id, some name, some driver] => do
    some ⟨← id.text?, ← name.text?, ← driver.text?⟩
  | _ => none

/-- The object that a setting holds. -/
def BoundObject.ofSetting? (s : Setting) : Option BoundObject :=
  match s.shape? ["id", "name", "kind"] with
  | some [some id, some name, some kind] => do
    some ⟨← id.text?, ← name.text?, ← kind.text?⟩
  | _ => none

open Setting in
/-- Settings of the project that a setting holds. -/
def ProjectSettings.ofSetting? (s : Setting) : Option ProjectSettings :=
  match s.shape? ["name", "data_sources", "objects", "connect_delay_ms"] with
  | some [name, sources, objects, delay] => do
    some ⟨← orElse "General" text? name, ← orElse [] (list? DataSource.ofSetting?) sources,
      ← orElse [] (list? BoundObject.ofSetting?) objects, ← orElse 0 word? delay⟩
  | _ => none

namespace Settings

/-- The settings where nothing is configured. -/
def standard : Settings :=
  ⟨⟨true, 3600⟩, ⟨100, none⟩, none, none, ⟨"General", [], [], 0⟩⟩

open Setting in
/-- The settings that a setting holds. -/
def ofSetting? (s : Setting) : Option Settings :=
  match s.shape? ["wizard", "poller", "storage", "catalog_path", "project"] with
  | some [wizard, poll, storage, catalogPath, project] => do
    some ⟨← orElse standard.wizard WizardSettings.ofSetting? wizard,
      ← orElse standard.poll PollSettings.ofSetting? poll,
      ← orElse none storageOfSetting? storage, ← orElse none (option? text?) catalogPath,
      ← orElse standard.project ProjectSettings.ofSetting? project⟩
  | _ => none

/-- The time limit that wizards offer. -/
def defaultLimit (s : Settings) : Span :=
  Span.ofSeconds s.wizard.defaultSeconds

/-- The settings as a JSON object. -/
def toJson (s : Settings) : Json :=
  let source (d : DataSource) : Json :=
    .obj [("id", .str d.id), ("name", .str d.name), ("driver", .str d.driver)]
  let object (o : BoundObject) : Json :=
    .obj [("id", .str o.id), ("name", .str o.name), ("kind", .str o.kind)]
  .obj [
    ("wizard", .obj [
      ("filter_task_types", .bool s.wizard.filtering),
      ("default_max_execution_time_secs", Json.nat s.wizard.defaultSeconds)]),
    ("poller", .obj [
      ("interval_ms", Json.nat s.poll.interval),
      ("deadline_ms", Json.ofOption Json.nat s.poll.deadline)]),
    ("storage", .obj [("data_dir", Json.ofOption .str s.storage)]),
    ("catalog_path", Json.ofOption .str s.catalogPath),
    ("project", .obj [
      ("name", .str s.project.name),
      ("data_sources", .arr (s.project.sources.map source)),
      ("objects", .arr (s.project.objects.map object)),
      ("connect_delay_ms", Json.nat s.project.connectDelay)])]

end Settings

namespace Environment

/-- The home directory: the one in the environment, or that of the account. -/
def home (env : Environment) (account : String) : String :=
  match Keyed.find? "HOME" env with
  | some dir => if dir = "" then account else dir
  | none => account

/-- The directory of the program among the data of the user. -/
def userData (env : Environment) (account : String) : String :=
  let base :=
    match (Keyed.find? "XDG_DATA_HOME" env).filter Path.isAbsolute with
    | some dir => dir
    | none => Path.join (env.home account) ".local/share"
  Path.join base "dbtask"

end Environment

/-- The directory for tasks. -/
def Settings.dataDir (s : Settings) (env : Environment) (account : String) : String :=
  s.storage.getD (env.userData account)

end TaskDesk
